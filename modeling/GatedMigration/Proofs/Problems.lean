import GatedMigration.Graph.Problem
import GatedMigration.Proofs.Closure
import Mathlib.Data.List.Nodup

/-!
# What is wrong with a graph

The check of a graph lists exactly what is wrong with it (`Graph.validate_exact`): every identifier
that is depended on without being a node, and every strongly connected component that has a cycle. A
component has a cycle just if its members lead back to themselves (`Graph.isCycle_iff`). However the
components are listed (`Graph.Lists`), the cycles among them are the same (`Graph.cyclesAmong_eq`);
the closure of the dependencies lists them (`Graph.components_lists`).
-/

namespace GatedMigration

/-! ## Ascending lists -/

section

variable {α : Type} [LT α] [DecidableLT α]

theorem putInOrder_perm (a : α) (l : List α) : (putInOrder a l).Perm (a :: l) := by
  induction l with
  | nil => exact .rfl
  | cons b l ih =>
    unfold putInOrder
    split
    · exact (ih.cons b).trans (.swap a b l)
    · exact .rfl

/-- A list in ascending order has the same elements, each as often. -/
theorem inOrder_perm (l : List α) : (inOrder l).Perm l := by
  induction l with
  | nil => exact .rfl
  | cons a l ih => exact (putInOrder_perm a _).trans (ih.cons a)

theorem mem_inOrder {a : α} {l : List α} : a ∈ inOrder l ↔ a ∈ l := (inOrder_perm l).mem_iff

variable [IsTrans α (fun a b => a < b)] [Std.Trichotomous (fun a b : α => a < b)]

theorem putInOrder_ascending {a : α} {l : List α} (ascending : l.Pairwise (· < ·))
    (new : a ∉ l) : (putInOrder a l).Pairwise (· < ·) := by
  induction l with
  | nil => exact List.pairwise_singleton _ a
  | cons b l ih =>
    obtain ⟨first, rest⟩ := List.pairwise_cons.1 ascending
    obtain ⟨ne, new⟩ := List.ne_and_not_mem_of_not_mem_cons new
    unfold putInOrder
    split
    · rename_i later
      refine List.pairwise_cons.2 ⟨fun c mem => ?_, ih rest new⟩
      rcases List.mem_cons.1 ((putInOrder_perm a l).mem_iff.1 mem) with rfl | mem
      · exact later
      · exact first c mem
    · rename_i before
      have lt : a < b := by
        by_contra after
        exact ne (Std.Trichotomous.trichotomous a b after before)
      refine List.pairwise_cons.2 ⟨fun c mem => ?_, ascending⟩
      rcases List.mem_cons.1 mem with rfl | mem
      · exact lt
      · exact IsTrans.trans a b c lt (first c mem)

/-- Whatever has no element twice ascends strictly when it is in order. -/
theorem inOrder_ascending {l : List α} (distinct : l.Nodup) : (inOrder l).Pairwise (· < ·) := by
  induction l with
  | nil => exact .nil
  | cons a l ih =>
    obtain ⟨new, distinct⟩ := List.nodup_cons.1 distinct
    exact putInOrder_ascending (ih distinct) fun mem => new (mem_inOrder.1 mem)

omit [DecidableLT α] [Std.Trichotomous (fun a b : α => a < b)] in
/-- Two ascending lists of the same elements are the same. -/
theorem eq_of_ascending [Std.Irrefl (fun a b : α => a < b)] {l l' : List α}
    (ascending : l.Pairwise (· < ·)) (ascending' : l'.Pairwise (· < ·))
    (same : ∀ a, a ∈ l ↔ a ∈ l') : l = l' := by
  refine List.Perm.eq_of_pairwise (fun a b _ _ lt lt' => ?_) ascending ascending'
    ((List.perm_ext_iff_of_nodup ascending.nodup ascending'.nodup).2 same)
  exact absurd (IsTrans.trans a b a lt lt') (Std.Irrefl.irrefl a)

end

namespace Graph

/-- An identifier depends on another one. -/
def Depends (g : Graph) (a b : Identifier) : Prop := b ∈ g.resolve a

/-- The members, in ascending order, of a strongly connected component that has at least two of
them, or a single one that depends on itself. -/
structure IsCycle (g : Graph) (c : List Identifier) : Prop where
  ascending : c.Pairwise (· < ·)
  /-- The identifiers that one of them leads to and that lead back to it. -/
  component : ∃ a, ∀ b, b ∈ c ↔
    Relation.ReflTransGen g.Depends a b ∧ Relation.ReflTransGen g.Depends b a
  proper : 2 ≤ c.length ∨ ∃ a, c = [a] ∧ g.Depends a a

variable {g : Graph} {a b : Identifier} {c : List Identifier}

/-- A component has a cycle just if its members lead back to themselves. -/
theorem isCycle_iff : g.IsCycle c ↔ c.Pairwise (· < ·) ∧
    ∃ a, Relation.TransGen g.Depends a a ∧
      ∀ b, b ∈ c ↔ Relation.TransGen g.Depends a b ∧ Relation.TransGen g.Depends b a := by
  constructor
  · rintro ⟨ascending, ⟨a, component⟩, proper⟩
    have mem_a : a ∈ c := (component a).2 ⟨.refl, .refl⟩
    have back : Relation.TransGen g.Depends a a := by
      rcases proper with several | ⟨a', rfl, edge⟩
      · -- One of two different members is not `a`, and a path leads there and back.
        obtain ⟨b, mem, ne⟩ : ∃ b ∈ c, b ≠ a := by
          match c, ascending, several with
          | b :: b' :: _, ascending, _ =>
            by_cases e : b = a
            · have lt : b < b' := (List.pairwise_cons.1 ascending).1 b' List.mem_cons_self
              refine ⟨b', List.mem_cons_of_mem _ List.mem_cons_self, fun e' => ?_⟩
              rw [e, e'] at lt
              exact String.lt_irrefl a lt
            · exact ⟨b, List.mem_cons_self, e⟩
        obtain ⟨there, back⟩ := (component b).1 mem
        rcases Relation.reflTransGen_iff_eq_or_transGen.1 there with e | path
        · exact absurd e ne
        · exact path.trans_left back
      · obtain rfl := List.mem_singleton.1 mem_a
        exact .single edge
    refine ⟨ascending, a, back, fun b => (component b).trans ⟨fun ⟨there, here⟩ => ?_, fun h => ?_⟩⟩
    · exact ⟨back.trans_left there, .trans_right here back⟩
    · exact ⟨h.1.to_reflTransGen, h.2.to_reflTransGen⟩
  · rintro ⟨ascending, a, back, component⟩
    have component' (b : Identifier) : b ∈ c ↔
        Relation.ReflTransGen g.Depends a b ∧ Relation.ReflTransGen g.Depends b a := by
      refine (component b).trans ⟨fun h => ?_, fun ⟨there, here⟩ => ?_⟩
      · exact ⟨h.1.to_reflTransGen, h.2.to_reflTransGen⟩
      · exact ⟨back.trans_left there, .trans_right here back⟩
    refine ⟨ascending, ⟨a, component'⟩, ?_⟩
    have mem_a : a ∈ c := (component a).2 ⟨back, back⟩
    match c, mem_a with
    | _ :: _ :: _, _ => exact Or.inl (Nat.le_add_left 2 _)
    | [a'], mem_a =>
      obtain rfl := List.mem_singleton.1 mem_a
      -- The first step of the way back leads to a member, and there is only one.
      obtain ⟨b, edge, here⟩ := Relation.TransGen.head'_iff.1 back
      obtain rfl := List.mem_singleton.1 ((component' b).2 ⟨.single edge, here⟩)
      exact Or.inr ⟨b, rfl, edge⟩

/-! ## Nodes and dependencies -/

theorem mem_nodes : a ∈ g.nodes ↔ g.isNode a = true := Keyed.find?_isSome_iff.symm

theorem depends_iff : g.Depends a b ↔ ∃ p ∈ g.network, p.1 = a ∧ b ∈ p.2 := by
  unfold Depends resolve IdMap.members
  constructor
  · intro mem
    cases found : g.edges.find? a with
    | none =>
      rw [found] at mem
      exact absurd mem List.not_mem_nil
    | some deps =>
      rw [found] at mem
      exact ⟨(a, deps.toList), List.mem_map.2 ⟨(a, deps), Keyed.mem_of_find?_eq_some found, rfl⟩,
        rfl, mem⟩
  · rintro ⟨p, mem, rfl, dep⟩
    obtain ⟨⟨a, deps⟩, entry, rfl⟩ := List.mem_map.1 mem
    have found : g.edges.find? a = some deps := Keyed.find?_of_mem g.edges.ascending entry
    rw [found]
    exact dep

theorem mem_foldl_insertAll (ps : List (Identifier × List Identifier)) (s : IdSet)
    (x : Identifier) :
    x ∈ ps.foldl (fun s p => s.insertAll p.2) s ↔ x ∈ s ∨ ∃ p ∈ ps, x ∈ p.2 := by
  induction ps generalizing s with
  | nil => simp
  | cons p ps ih => simp [ih, or_assoc]

theorem mem_everything : a ∈ g.everything ↔ g.isNode a = true ∨ ∃ b, g.Depends b a := by
  rw [everything, mem_foldl_insertAll, IdSet.mem_ofList, mem_nodes]
  refine or_congr_right ⟨fun ⟨p, mem, dep⟩ => ⟨p.1, depends_iff.2 ⟨p, mem, rfl, dep⟩⟩, ?_⟩
  rintro ⟨b, dep⟩
  obtain ⟨p, mem, -, dep⟩ := depends_iff.1 dep
  exact ⟨p, mem, dep⟩

/-- The missing identifiers are those that are depended on without being nodes. -/
theorem mem_missing : b ∈ g.missing ↔ (∃ a, g.Depends a b) ∧ g.isNode b = false := by
  have listed : b ∈ g.everything.toList ↔ _ := mem_everything
  rw [missing, List.mem_filter, listed, Bool.not_eq_true']
  constructor
  · rintro ⟨node | dep, unknown⟩
    · exact absurd (node.symm.trans unknown) Bool.noConfusion
    · exact ⟨dep, unknown⟩
  · exact fun ⟨dep, unknown⟩ => ⟨Or.inr dep, unknown⟩

theorem missing_ascending (g : Graph) : g.missing.Pairwise (· < ·) :=
  g.everything.ascending.sublist List.filter_sublist

/-! ## Places -/

/-- How many identifiers the graph mentions. -/
def extent (g : Graph) : Nat := g.everything.toList.length

/-- The identifier at a place. -/
def name (g : Graph) (i : Nat) : Identifier := g.everything.toList.getD i ""

/-- What leads to what, in one or more steps, as a relation on places. -/
def reach (g : Graph) : List Nat := Closure.closure (g.rows g.everything.toList)

variable {i j : Nat}

theorem name_eq_getElem (h : i < g.everything.toList.length) :
    g.name i = g.everything.toList[i] := by
  rw [name, List.getD_eq_getElem?_getD, List.getElem?_eq_getElem h]
  rfl

/-- Every identifier that the graph mentions has a place. -/
theorem exists_place (h : a ∈ g.everything) : ∃ i < g.extent, g.name i = a := by
  obtain ⟨i, inside, at_i⟩ := List.getElem_of_mem h
  exact ⟨i, inside, (name_eq_getElem inside).trans at_i⟩

/-- The identifiers ascend with their places. -/
theorem name_lt (lt : i < j) (inside : j < g.extent) : g.name i < g.name j := by
  rw [name_eq_getElem (Nat.lt_trans lt inside), name_eq_getElem inside]
  exact List.pairwise_iff_getElem.1 g.everything.ascending i j _ _ lt

theorem related_rows : Closure.related (g.rows g.everything.toList) i j = true ↔
    i < g.extent ∧ j < g.extent ∧ g.Depends (g.name i) (g.name j) := by
  unfold Closure.related rows
  by_cases inside : i < g.extent
  · have at_i := name_eq_getElem inside
    rw [List.getD_eq_getElem?_getD, List.getElem?_map, List.getElem?_eq_getElem inside, ← at_i,
      Option.map_some, Option.getD_some, Closure.testBit_row, decide_eq_true_eq, List.mem_filter,
      List.mem_range, decide_eq_true_eq]
    exact ⟨fun ⟨inside', dep⟩ => ⟨inside, inside', dep⟩, And.right⟩
  · have outside : g.everything.toList.length ≤ i := Nat.le_of_not_lt inside
    rw [List.getD_eq_getElem?_getD, List.getElem?_map, List.getElem?_eq_none outside]
    simp [inside]

/-- The closure tells what leads to what. -/
theorem related_reach : Closure.related g.reach i j = true ↔
    i < g.extent ∧ j < g.extent ∧ Relation.TransGen g.Depends (g.name i) (g.name j) := by
  rw [reach, Closure.related_closure]
  constructor
  · intro path
    obtain ⟨_, edge, -⟩ := Relation.TransGen.head'_iff.1 path
    obtain ⟨_, -, edge'⟩ := Relation.TransGen.tail'_iff.1 path
    refine ⟨(related_rows.1 edge).1, (related_rows.1 edge').2.1, ?_⟩
    exact path.lift g.name fun i j edge => (related_rows.1 edge).2.2
  · rintro ⟨inside, inside', path⟩
    generalize at_j : g.name j = b at path
    induction path generalizing j with
    | single edge => exact .single (related_rows.2 ⟨inside, inside', at_j ▸ edge⟩)
    | @tail m b path edge ih =>
      obtain ⟨_, -, dep⟩ := Relation.TransGen.tail'_iff.1 path
      obtain ⟨k, inside'', rfl⟩ := exists_place (mem_everything.2 (Or.inr ⟨_, dep⟩))
      exact (ih inside'' rfl).tail (related_rows.2 ⟨inside'', inside', at_j ▸ edge⟩)

/-! ## Components -/

/-- A list of the strongly connected components of a graph, in any order: each identifier that the
graph mentions is in one of them, and with it are those that it leads to and that lead back to
it. -/
structure Lists (g : Graph) (cs : List (List Identifier)) : Prop where
  all : ∀ a ∈ g.everything, ∃ c ∈ cs, a ∈ c
  distinct : cs.flatten.Nodup
  component : ∀ c ∈ cs, ∃ a, ∀ b, b ∈ c ↔
    Relation.ReflTransGen g.Depends a b ∧ Relation.ReflTransGen g.Depends b a

theorem name_injective (inside : i < g.extent) (inside' : j < g.extent)
    (same : g.name i = g.name j) : i = j := by
  rcases Nat.lt_trichotomy i j with lt | rfl | lt
  · exact absurd (same ▸ name_lt lt inside') (String.lt_irrefl _)
  · rfl
  · exact absurd (same ▸ name_lt lt inside) (String.lt_irrefl _)

theorem mem_component (inside : i < g.extent) : j ∈ component g.reach g.extent i ↔ j < g.extent ∧
    Relation.ReflTransGen g.Depends (g.name i) (g.name j) ∧
      Relation.ReflTransGen g.Depends (g.name j) (g.name i) := by
  rw [component, List.mem_filter, List.mem_range, Bool.or_eq_true, Bool.and_eq_true, beq_iff_eq,
    related_reach, related_reach]
  refine and_congr_right fun inside' => ?_
  constructor
  · rintro (rfl | ⟨⟨-, -, there⟩, -, -, back⟩)
    · exact ⟨.refl, .refl⟩
    · exact ⟨there.to_reflTransGen, back.to_reflTransGen⟩
  · rintro ⟨there, back⟩
    rcases Relation.reflTransGen_iff_eq_or_transGen.1 there with same | path
    · exact Or.inl (name_injective inside inside' same.symm)
    rcases Relation.reflTransGen_iff_eq_or_transGen.1 back with same | path'
    · exact Or.inl (name_injective inside inside' same)
    · exact Or.inr ⟨⟨inside, inside', path⟩, inside', inside, path'⟩

/-- The places of a component have the same component. -/
theorem component_congr (inside : i < g.extent) (h : j ∈ component g.reach g.extent i) :
    component g.reach g.extent j = component g.reach g.extent i := by
  obtain ⟨inside', there, back⟩ := (mem_component inside).1 h
  have same (k : Nat) : k ∈ component g.reach g.extent j ↔ k ∈ component g.reach g.extent i := by
    rw [mem_component inside, mem_component inside']
    exact and_congr_right fun _ => ⟨fun ⟨out, home⟩ => ⟨there.trans out, home.trans back⟩,
      fun ⟨out, home⟩ => ⟨back.trans out, home.trans there⟩⟩
  have ascending (i : Nat) : (component g.reach g.extent i).Pairwise (· < ·) :=
    List.pairwise_lt_range.sublist List.filter_sublist
  exact eq_of_ascending (ascending j) (ascending i) same

/-- The identifiers of a component. -/
theorem mem_component_names (inside : i < g.extent) :
    b ∈ (component g.reach g.extent i).map g.name ↔
      Relation.ReflTransGen g.Depends (g.name i) b ∧
        Relation.ReflTransGen g.Depends b (g.name i) := by
  rw [List.mem_map]
  constructor
  · rintro ⟨j, mem, rfl⟩
    exact ((mem_component inside).1 mem).2
  · rintro ⟨there, back⟩
    obtain ⟨j, inside', rfl⟩ : ∃ j < g.extent, g.name j = b := by
      rcases Relation.reflTransGen_iff_eq_or_transGen.1 there with rfl | path
      · exact ⟨i, inside, rfl⟩
      · obtain ⟨_, -, dep⟩ := Relation.TransGen.tail'_iff.1 path
        exact exists_place (mem_everything.2 (Or.inr ⟨_, dep⟩))
    exact ⟨j, (mem_component inside).2 ⟨inside', there, back⟩, rfl⟩

/-- A component is listed at its first place. -/
theorem mem_components : c ∈ g.components ↔ ∃ i < g.extent,
    (component g.reach g.extent i).head? = some i ∧
      c = (component g.reach g.extent i).map g.name := by
  show c ∈ (List.range g.extent).filterMap (fun i =>
    if (component g.reach g.extent i).head? = some i then
      some ((component g.reach g.extent i).map g.name) else none) ↔ _
  rw [List.mem_filterMap]
  refine exists_congr fun i => ?_
  rw [List.mem_range]
  refine and_congr_right fun _ => ?_
  split
  · rename_i first
    simp [first, eq_comm]
  · rename_i later
    simp [later]

/-- The closure lists the components. -/
theorem components_lists (g : Graph) : g.Lists g.components := by
  have self (i : Nat) (inside : i < g.extent) : i ∈ component g.reach g.extent i :=
    (mem_component inside).2 ⟨inside, .refl, .refl⟩
  -- What is listed at a place is the component of that place.
  have placed {i : Nat} {c : List Identifier}
      (h : (if (component g.reach g.extent i).head? = some i then
        some ((component g.reach g.extent i).map g.name) else none) = some c) :
      (component g.reach g.extent i).head? = some i ∧ i < g.extent ∧
        c = (component g.reach g.extent i).map g.name := by
    split at h
    · rename_i first
      exact ⟨first, List.mem_range.1 (List.mem_filter.1 (List.mem_of_head? first)).1,
        (Option.some.inj h).symm⟩
    · cases h
  refine ⟨fun a mem => ?_, List.nodup_flatten.2 ⟨fun c mem => ?_, ?_⟩, fun c mem => ?_⟩
  · obtain ⟨k, inside, rfl⟩ := exists_place mem
    cases first : (component g.reach g.extent k).head? with
    | none => exact absurd (List.head?_eq_none_iff.1 first ▸ self k inside) List.not_mem_nil
    | some i =>
      have among := List.mem_of_head? first
      have same := component_congr inside among
      refine ⟨_, mem_components.2 ⟨i, ((mem_component inside).1 among).1, same ▸ first, rfl⟩, ?_⟩
      rw [same]
      exact List.mem_map_of_mem (self k inside)
  · obtain ⟨i, inside, -, rfl⟩ := mem_components.1 mem
    have ascending : ((component g.reach g.extent i).map g.name).Pairwise (· < ·) := by
      refine List.pairwise_map.2 (List.Pairwise.imp_of_mem (fun _ mem lt => ?_)
        (List.pairwise_lt_range.sublist List.filter_sublist))
      exact name_lt lt ((mem_component inside).1 mem).1
    exact ascending.nodup
  · refine List.Pairwise.filterMap _ (fun i j lt c listed c' listed' => ?_) List.pairwise_lt_range
    obtain ⟨first, inside, rfl⟩ := placed listed
    obtain ⟨first', inside', rfl⟩ := placed listed'
    intro b mem mem'
    obtain ⟨k, among, rfl⟩ := List.mem_map.1 mem
    obtain ⟨k', among', same⟩ := List.mem_map.1 mem'
    have inside_k := ((mem_component inside).1 among).1
    have inside_k' := ((mem_component inside').1 among').1
    obtain rfl := name_injective inside_k' inside_k same
    rw [← component_congr inside among, component_congr inside' among', first'] at first
    exact Nat.ne_of_gt lt (Option.some.inj first)
  · obtain ⟨i, inside, -, rfl⟩ := mem_components.1 mem
    exact ⟨g.name i, fun b => mem_component_names inside⟩

namespace Lists

variable {cs : List (List Identifier)} (lists : g.Lists cs) (mem : c ∈ cs)

include lists mem

theorem nodup : c.Nodup := (List.nodup_flatten.1 lists.distinct).1 c mem

/-- The component of what leads back to itself. -/
theorem mem_iff_of_back (own : a ∈ c) (back : Relation.TransGen g.Depends a a) :
    b ∈ c ↔ Relation.TransGen g.Depends a b ∧ Relation.TransGen g.Depends b a := by
  obtain ⟨a', members⟩ := lists.component c mem
  obtain ⟨out, home⟩ := (members a).1 own
  refine (members b).trans ⟨fun ⟨there, here⟩ => ?_, fun ⟨there, here⟩ => ?_⟩
  · exact ⟨back.trans_left (home.trans there), .trans_right (here.trans out) back⟩
  · exact ⟨out.trans there.to_reflTransGen, here.to_reflTransGen.trans home⟩

end Lists

/-! ## Cycles -/

section

variable {cs cs' : List (List Identifier)} (lists : g.Lists cs)

include lists

/-- The cycles among the components are the cycles of the graph, however they are listed. -/
theorem mem_cyclesAmong : c ∈ g.cyclesAmong cs ↔ g.IsCycle c := by
  rw [cyclesAmong, mem_inOrder, List.mem_map]
  constructor
  · rintro ⟨c, mem, rfl⟩
    obtain ⟨mem, cycle⟩ := List.mem_filter.1 mem
    obtain ⟨a, members⟩ := lists.component c mem
    refine ⟨inOrder_ascending (lists.nodup mem), ⟨a, fun b => mem_inOrder.trans (members b)⟩, ?_⟩
    match c, cycle with
    | [b], cycle =>
      have loop : b ∈ g.resolve b := of_decide_eq_true cycle
      exact Or.inr ⟨b, rfl, loop⟩
    | b :: b' :: c, _ =>
      rw [(inOrder_perm _).length_eq]
      exact Or.inl (Nat.le_add_left 2 _)
  · intro cycle
    obtain ⟨ascending, a, back, members⟩ := isCycle_iff.1 cycle
    obtain ⟨_, -, dep⟩ := Relation.TransGen.tail'_iff.1 back
    obtain ⟨c₀, mem, own⟩ := lists.all a (mem_everything.2 (Or.inr ⟨_, dep⟩))
    have same : inOrder c₀ = c := by
      refine eq_of_ascending (inOrder_ascending (lists.nodup mem)) ascending fun b => ?_
      rw [mem_inOrder, lists.mem_iff_of_back mem own back, members]
    refine ⟨c₀, List.mem_filter.2 ⟨mem, ?_⟩, same⟩
    have perm : c₀.Perm c := same ▸ (inOrder_perm c₀).symm
    rcases cycle.proper with several | ⟨b, rfl, loop⟩
    · rw [isCycle, perm.length_eq, Bool.or_eq_true]
      exact Or.inl (decide_eq_true several)
    · rw [List.perm_singleton.1 perm]
      exact decide_eq_true loop

theorem cyclesAmong_ascending : (g.cyclesAmong cs).Pairwise (· < ·) := by
  refine inOrder_ascending (List.pairwise_map.2 ?_)
  refine List.Pairwise.imp_of_mem (fun {c c'} mem _ apart same => ?_)
    ((List.nodup_flatten.1 lists.distinct).2.sublist List.filter_sublist)
  obtain ⟨a, members⟩ := lists.component c (List.mem_filter.1 mem).1
  have own : a ∈ c := (members a).2 ⟨.refl, .refl⟩
  exact apart own (mem_inOrder.1 (same ▸ mem_inOrder.2 own))

/-- The order in which the components are listed does not matter. -/
theorem cyclesAmong_eq (lists' : g.Lists cs') : g.cyclesAmong cs = g.cyclesAmong cs' :=
  eq_of_ascending (cyclesAmong_ascending lists) (cyclesAmong_ascending lists') fun _ =>
    (mem_cyclesAmong lists).trans (mem_cyclesAmong lists').symm

end

theorem mem_cycles : c ∈ g.cycles ↔ g.IsCycle c := mem_cyclesAmong g.components_lists

theorem cycles_ascending (g : Graph) : g.cycles.Pairwise (· < ·) :=
  cyclesAmong_ascending g.components_lists

/-- What leads back to itself is in a cycle. -/
theorem exists_isCycle (back : Relation.TransGen g.Depends a a) : ∃ c, g.IsCycle c := by
  have lists := g.components_lists
  obtain ⟨_, -, dep⟩ := Relation.TransGen.tail'_iff.1 back
  obtain ⟨c, mem, own⟩ := lists.all a (mem_everything.2 (Or.inr ⟨_, dep⟩))
  exact ⟨inOrder c, isCycle_iff.2 ⟨inOrder_ascending (lists.nodup mem), a, back, fun b =>
    mem_inOrder.trans (lists.mem_iff_of_back mem own back)⟩⟩

/-! ## The check -/

/-- A graph passes its check just if everything that is depended on is a node and nothing leads back
to itself. Otherwise the check lists exactly what is wrong: first the missing identifiers in
ascending order, then the cycles, each in ascending order, in ascending order. -/
theorem validate_exact (g : Graph) :
    (g.validate = .ok () ↔
      (∀ a b, g.Depends a b → g.isNode b = true) ∧ ∀ a, ¬Relation.TransGen g.Depends a a) ∧
    ∃ (missing : List Identifier) (cycles : List (List Identifier)),
      missing.Pairwise (· < ·) ∧ (∀ b, b ∈ missing ↔ (∃ a, g.Depends a b) ∧ g.isNode b = false) ∧
      cycles.Pairwise (· < ·) ∧ (∀ c, c ∈ cycles ↔ g.IsCycle c) ∧
      (g.validate ≠ .ok () →
        g.validate = .error ⟨missing.map .missing ++ cycles.map .cycle⟩) := by
  have passes : g.validate = .ok () ↔ g.missing = [] ∧ g.cycles = [] := by
    have none : g.problems = [] ↔ g.missing = [] ∧ g.cycles = [] := by
      rw [problems, List.append_eq_nil_iff, List.map_eq_nil_iff, List.map_eq_nil_iff]
    rw [← none, validate]
    split
    · rename_i empty
      exact ⟨fun _ => empty, fun _ => rfl⟩
    · rename_i found
      exact ⟨fun h => (by cases h), fun empty => absurd empty found⟩
  refine ⟨passes.trans (and_congr ?_ ?_), g.missing, g.cycles, g.missing_ascending,
    fun b => mem_missing, g.cycles_ascending, fun c => mem_cycles, fun fails => ?_⟩
  · rw [List.eq_nil_iff_forall_not_mem]
    constructor
    · intro none a b dep
      by_contra unknown
      exact none b (mem_missing.2 ⟨⟨a, dep⟩, eq_false_of_ne_true unknown⟩)
    · intro all b mem
      obtain ⟨⟨a, dep⟩, unknown⟩ := mem_missing.1 mem
      exact Bool.noConfusion ((all a b dep).symm.trans unknown)
  · rw [List.eq_nil_iff_forall_not_mem]
    constructor
    · intro none a back
      obtain ⟨c, cycle⟩ := exists_isCycle back
      exact none c (mem_cycles.2 cycle)
    · intro acyclic c mem
      obtain ⟨-, a, back, -⟩ := isCycle_iff.1 (mem_cycles.1 mem)
      exact acyclic a back
  · rw [validate] at fails ⊢
    split at fails
    · exact absurd rfl fails
    · rfl

end Graph

end GatedMigration
