import GatedMigration.Proofs.Agreement
import GatedMigration.Proofs.Groups

/-!
# What becomes of the documents of a scan

A scan makes one task for each identifying value that its cursor delivers, up to the limit of the
migration (`Generator.scan_delivered`). Unless the run is cancelled, a migration scans once at most
and hands over all its tasks (`World.handedOver_delivered`), so the members of its group are those
tasks and no others (`World.mem_getGroup_iff`), and the report lists each of them
(`World.lists_iff`).

* `World.tasks_reported`: what becomes of each task, and what the report says of it.
-/

namespace GatedMigration

/-! ## Cursors -/

namespace Cursor

variable {α : Type}

theorem items_of_next {c c' : Cursor α} {a : α} (h : c.next = .ok (some a, c')) :
    c.items = a :: c'.items := by
  unfold next at h
  split at h
  · cases h
  split at h
  · cases h
  · rename_i same
    cases h
    exact same

theorem failure?_items (c : Cursor α) (items : List α) :
    ({ c with items } : Cursor α).failure? = c.failure? := rfl

/-- What a cursor delivers when it is asked for one item after the other, with a guarded wait each
time, up to its end, to its failure, or to the end of the run. -/
def delivers (c : Cursor α) (w : World) : List α :=
  match w.guardWait c.latency with
  | (_, .error _) => []
  | (w, .ok ()) =>
    match _next : c.next with
    | .ok (some a, rest) => a :: rest.delivers w
    | _ => []
termination_by c.items.length
decreasing_by
  rw [items_of_next _next]
  exact Nat.lt_succ_self _

theorem delivers_eq (c : Cursor α) (w : World) :
    c.delivers w =
      match w.guardWait c.latency with
      | (_, .error _) => []
      | (w, .ok ()) =>
        match c.next with
        | .ok (some a, rest) => a :: rest.delivers w
        | _ => [] := by
  rw [delivers]
  split
  · rfl
  · split
    · rename_i next
      rw [next]
    · rename_i other
      split
      · rename_i next
        exact absurd next (other _ _)
      · rfl

end Cursor

namespace Generator

/-- The first items of a list that are within the limit, if there are so many tasks already. -/
def within (g : Generator) (produced : Nat) (ds : List Value) : List Value :=
  match g.migration.limit with
  | none => ds
  | some limit => ds.take (limit - produced)

/-- The identifying values that a scan gets from its cursor and has not to leave aside for the
limit. -/
def delivered (g : Generator) (env : Environment) (w : World) : List Value :=
  let w := w.yield
  match w.guard (env.findIds w.store g.migration.namesp g.migration.selector g.migration.limit) with
  | (_, .error _) => []
  | (w, .ok c) => g.within 0 (c.delivers w)

/-- The identifiers of the tasks of a migration for some identifying values. -/
def childIds (g : Generator) (ds : List Value) : List Identifier :=
  ds.zipIdx.map fun p => childId g.id p.1 p.2

variable (g : Generator)

/-- There is one identifier for each of the identifying values, even if they are the same. -/
theorem childIds_nodup (ds : List Value) : (g.childIds ds).Nodup := childId_nodup g.id ds 0

theorem within_nil (produced : Nat) : g.within produced [] = [] := by
  unfold within
  split
  · rfl
  · exact List.take_nil

theorem within_of_full {produced : Nat} (full : g.isFull produced = true) (ds : List Value) :
    g.within produced ds = [] := by
  unfold isFull at full
  unfold within
  cases limit : g.migration.limit with
  | none =>
    rw [limit] at full
    cases full
  | some n =>
    rw [limit, Option.any_some, decide_eq_true_eq] at full
    dsimp only
    rw [Nat.sub_eq_zero_of_le full, List.take_zero]

theorem within_of_not_full {produced : Nat} (room : ¬g.isFull produced = true) (d : Value)
    (ds : List Value) : g.within produced (d :: ds) = d :: g.within (produced + 1) ds := by
  unfold isFull at room
  unfold within
  cases limit : g.migration.limit with
  | none => rfl
  | some n =>
    rw [limit, Option.any_some, decide_eq_true_eq] at room
    have next : n - produced = (n - (produced + 1)) + 1 := by omega
    dsimp only
    rw [next, List.take_succ_cons]

/-- The tasks made from the items of a cursor are those of what it delivers within the limit. -/
theorem collect_delivered (c : Cursor Value) (items : List Value) (produced : Nat) (w : World) :
    (g.collect c items produced w).2.1 =
      ((g.within produced (Cursor.delivers { c with items, yielded := produced } w)).zipIdx
        produced).map fun p => g.task p.1 p.2 := by
  induction items generalizing produced w with
  | nil =>
    have failure := Cursor.failure?_items { c with yielded := produced } []
    rw [collect, Cursor.delivers_eq, Cursor.next, failure]
    generalize Cursor.failure? { c with yielded := produced } = failed
    dsimp only
    generalize w.guardWait c.latency = turn
    obtain ⟨w', _ | _⟩ := turn
    · rw [g.within_nil]
      rfl
    · cases failed <;> rw [g.within_nil] <;> rfl
  | cons d items ih =>
    have failure := Cursor.failure?_items { c with yielded := produced } (d :: items)
    rw [collect, Cursor.delivers_eq, Cursor.next, failure]
    generalize Cursor.failure? { c with yielded := produced } = failed
    dsimp only
    generalize w.guardWait c.latency = turn
    obtain ⟨w', _ | _⟩ := turn
    · rw [g.within_nil]
      rfl
    cases failed with
    | some e =>
      rw [g.within_nil]
      rfl
    | none =>
      dsimp only
      split
      · rename_i full
        rw [g.within_of_full full]
        rfl
      · rename_i room
        rw [g.within_of_not_full room]
        have rest := ih (produced + 1) w'
        rw [rest]
        rfl

/-- A scan makes one task for each identifying value that it gets, numbered in their order. -/
theorem scan_delivered (env : Environment) (w : World) :
    (g.scan env w).2.1 = (g.delivered env w).zipIdx.map fun p => g.task p.1 p.2 := by
  unfold scan delivered
  dsimp only
  generalize asked : w.yield.guard _ = r
  obtain ⟨w', e | c⟩ := r
  · rfl
  · obtain ⟨t, s, -, answer⟩ := World.guard_ok asked
    obtain ⟨-, first, -⟩ := Store.handOut_ok answer
    have collected : (g.collect c c.items c.yielded w').2.1 =
        ((g.within c.yielded (c.delivers w')).zipIdx c.yielded).map fun p => g.task p.1 p.2 :=
      g.collect_delivered c c.items c.yielded w'
    dsimp only
    rw [collected, first]

end Generator

/-! ## Steps -/

/-- The identifying values that a migration gets when it is asked: those of its scan, if it is
ready. -/
def RunState.delivered (env : Environment) (id : Identifier) (s : RunState) : List Value :=
  match s.generators.find? id with
  | none => []
  | some g =>
    match g.oracle.state env.metadata s.world with
    | (world, some .ready) => g.delivered env world
    | _ => []

/-- The identifying values that a migration gets in the next step. -/
def Moment.delivered (env : Environment) (id : Identifier) (m : Moment) : List Value :=
  match m.stage with
  | .asking (id' :: _) _ => if id' = id then m.state.delivered env id else []
  | _ => []

/-- The tasks that are made when a migration is asked are those of what it gets. -/
theorem RunState.scanning_eq {env : Environment} {id : Identifier} {s : RunState} {g₀ : Generator}
    (own : ∀ g, s.generators.find? id = some g → g.migration = g₀.migration) :
    s.scanning env id = (s.delivered env id).zipIdx.map fun p => g₀.task p.1 p.2 := by
  unfold scanning delivered
  cases source : s.generators.find? id with
  | none => rfl
  | some g =>
    dsimp only
    generalize g.oracle.state env.metadata s.world = r
    obtain ⟨world, _ | _ | _ | _ | _⟩ := r
    case some.ready =>
      dsimp only
      rw [g.scan_delivered, Generator.task_congr (own g source)]
    all_goals rfl

namespace Moment

variable {env : Environment} {m : Moment}

/-- All tasks of a scan are handed over, unless the run is cancelled. -/
theorem handing_eq_scanning (drained : m.Drained) {options : RunOptions}
    (going : (m.next env options).stage ≠ .over true) : m.handing env = m.scanning env := by
  obtain ⟨stage, s⟩ := m
  match stage with
  | .asking (id :: ids) progressed =>
    have drained : s.Drained := by
      rcases drained with ⟨canceled, ended⟩ | drained
      · cases ended
      · exact drained
    rw [next] at going
    unfold handing scanning RunState.handing RunState.scanning
    unfold RunState.advance at going
    dsimp only at going ⊢
    cases source : s.generators.find? id with
    | none => rfl
    | some g =>
      rw [source] at going
      dsimp only at going ⊢
      generalize g.oracle.state env.metadata s.world = p at *
      obtain ⟨world, _ | _ | _ | _ | _⟩ := p
      case some.ready =>
        have kept := (g.run_buffered env world).2
        rw [drained source, List.nil_append] at kept
        dsimp only at going ⊢
        generalize g.run env world = r at *
        split
        · exact absurd rfl going
        · exact kept
      all_goals rfl
  | .opening | .asking [] _ | .working _ _ _ | .closing _ _ | .over _ => rfl

namespace Change

variable {s' : RunState}

/-- The tasks that are known after a step are those before it and those that are handed over. -/
theorem children (h : Change env m s') (id : Identifier) :
    s'.progress.children.contains id = true ↔
      m.state.progress.children.contains id = true ∨ id ∈ (m.handing env).map Task.id := by
  cases h with
  | quiet stands _ none =>
    rw [none]
    exact stands.children id
  | fansOut _ _ _ _ _ _ _ _ _ _ after => exact after.children id
  | ends _ _ _ _ _ _ _ _ _ after _ none =>
    rw [none]
    exact after.children id

end Change

namespace Orderly

variable {generators : List Generator} {handed : List Task}
  (h : m.Orderly generators handed)

include h

/-- The tasks that are made in a step are those of the migration that is asked. -/
theorem asks {t : Task} (mem : t ∈ m.scanning env) :
    ∃ ids progressed, m.stage = .asking (t.migration :: ids) progressed := by
  obtain ⟨id, ids, progressed, g, w, stage, source, -, scanned⟩ := scanning_cases mem
  obtain ⟨rfl, -⟩ := h.scan_own source scanned
  exact ⟨ids, progressed, stage⟩

theorem filter_scanning_of_asking {id : Identifier} {ids : List Identifier} {progressed : Bool}
    (stage : m.stage = .asking (id :: ids) progressed) :
    (m.scanning env).filter (fun t => t.migration = id) = m.scanning env := by
  refine List.filter_eq_self.2 fun t mem => decide_eq_true ?_
  obtain ⟨ids', progressed', stage'⟩ := h.asks mem
  cases stage.symm.trans stage'
  rfl

theorem filter_scanning_of_not_asking {id : Identifier}
    (other : ¬∃ ids progressed, m.stage = .asking (id :: ids) progressed) :
    (m.scanning env).filter (fun t => t.migration = id) = [] := by
  refine List.filter_eq_nil_iff.2 fun t mem same => ?_
  obtain ⟨ids, progressed, stage⟩ := h.asks mem
  rw [of_decide_eq_true same] at stage
  exact other ⟨ids, progressed, stage⟩

/-- No task of a migration has been handed over when it is asked. -/
theorem filter_handed_of_asking {id : Identifier} {ids : List Identifier} {progressed : Bool}
    (stage : m.stage = .asking (id :: ids) progressed) :
    handed.filter (fun t => t.migration = id) = [] := by
  refine List.filter_eq_nil_iff.2 fun t mem same => ?_
  obtain ⟨-, st, standing, begun, -⟩ := h.own t mem
  have todo := h.stage
  rw [stage] at todo
  obtain ⟨e, found, pending⟩ := todo.2 id List.mem_cons_self
  rw [of_decide_eq_true same, Progress.standing?_of_generator found] at standing
  cases standing
  exact begun pending

end Orderly

end Moment

/-! ## Reports -/

/-- A report lists what has succeeded, passed or failed, and what waits. -/
def Report.Lists (r : Report) (id : Identifier) : Prop :=
  id ∈ r.succeeded ∨ id ∈ r.passed ∨ r.failed.contains id = true ∨ r.blocked.contains id = true

namespace Progress

variable {p : Progress} {id : Identifier}

/-- What is not a migration has its entry among the tasks. -/
theorem contains_of_mem_filter (task : p.generators.contains id = false)
    {test : Identifier × Entry → Bool} (mem : id ∈ (p.entries.filter test).map Prod.fst) :
    p.children.contains id = true := by
  obtain ⟨⟨id', e⟩, entry, same⟩ := List.mem_map.1 mem
  obtain rfl : id' = id := same
  rcases List.mem_append.1 (List.mem_filter.1 entry).1 with migration | known
  · obtain ⟨⟨id, g⟩, owner, same⟩ := List.mem_map.1 migration
    cases same
    have found := Keyed.find?_of_mem p.generators.ascending owner
    cases task.symm.trans (IdMap.contains_of_find? found)
  · exact IdMap.contains_of_find? (Keyed.find?_of_mem p.children.ascending known)

/-- A report lists each task that is known. -/
theorem report_lists_iff (task : p.generators.contains id = false) (canceled : Bool) :
    (p.report canceled).Lists id ↔ p.children.contains id = true := by
  unfold Report.Lists
  rw [report_failed_iff, report_blocked_iff]
  constructor
  · rintro (mem | mem | mem | mem)
    · exact contains_of_mem_filter task (List.mem_filter.1 mem).1
    · exact contains_of_mem_filter task mem
    · exact contains_of_mem_filter task mem
    · exact contains_of_mem_filter task mem
  · intro known
    obtain ⟨e, found⟩ := IdMap.find?_of_contains known
    have entry : (id, e) ∈ p.entries :=
      List.mem_append_right _ (Keyed.mem_of_find?_eq_some found)
    obtain ⟨phase, state, errors⟩ := e
    cases phase with
    | succeeded =>
      refine Or.inl (List.mem_filter.2 ⟨mem_filter_of_mem_entries entry rfl, ?_⟩)
      rw [task]
      rfl
    | passed => exact Or.inr (Or.inl (mem_filter_of_mem_entries entry rfl))
    | failed => exact Or.inr (Or.inr (Or.inl (mem_filter_of_mem_entries entry rfl)))
    | pending | running => exact Or.inr (Or.inr (Or.inr (mem_filter_of_mem_entries entry rfl)))

end Progress

/-! ## All moments -/

namespace World

variable {env : Environment} {options : RunOptions} {generators : List Generator}

/-- The identifying values that the scans of a migration have delivered before a moment of a run. -/
def delivered (w : World) (env : Environment) (options : RunOptions)
    (generators : List Generator) (id : Identifier) : Nat → List Value
  | 0 => []
  | n + 1 => delivered w env options generators id n ++
      (w.moment env options generators n).delivered env id

theorem delivered_prefix (w : World) (id : Identifier) {n k : Nat} (later : n ≤ k) :
    w.delivered env options generators id n <+: w.delivered env options generators id k := by
  induction later with
  | refl => exact List.prefix_rfl
  | step _ ih => exact ih.trans (List.prefix_append _ _)

/-- A run that is not cancelled at a moment has not been cancelled before. -/
theorem not_canceled_before (w : World) {n k : Nat} (earlier : n ≤ k)
    (going : (w.moment env options generators k).stage ≠ .over true) :
    (w.moment env options generators n).stage ≠ .over true := by
  intro ended
  rw [moment_over (moment_of_stage ended) earlier] at going
  exact going rfl

section

variable (fresh : ∀ g ∈ generators, g.buffered = []) (separate : Separate generators)

include fresh separate

/-- The tasks that are known are those that have been handed over. -/
theorem children_iff (w : World) (n : Nat) (id : Identifier) :
    (w.moment env options generators n).state.progress.children.contains id = true ↔
      id ∈ (w.handedOver env options generators n).map Task.id := by
  induction n with
  | zero => exact ⟨fun known => (by cases known), fun mem => absurd mem List.not_mem_nil⟩
  | succ n ih =>
    have orderly : (w.moment env options generators n).Orderly generators _ :=
      w.moment_orderly fresh separate n
    have change : Moment.Change env _ (w.moment env options generators (n + 1)).state :=
      Moment.next_change orderly.lawful orderly.stage options
    rw [change.children, ih, handedOver, List.map_append, List.mem_append]

/-- The tasks of a migration that have been handed over are those of what its scan has delivered,
unless the run is cancelled. -/
theorem handedOver_delivered (w : World)
    (distinct : ∀ g ∈ generators, ∀ g' ∈ generators, g.id = g'.id → g = g') {g : Generator}
    (given : g ∈ generators) {n : Nat}
    (going : (w.moment env options generators n).stage ≠ .over true) :
    (w.handedOver env options generators n).filter (fun t => t.migration = g.id) =
      (w.delivered env options generators g.id n).zipIdx.map fun p => g.task p.1 p.2 := by
  induction n with
  | zero => rfl
  | succ n ih =>
    have ih := ih (w.not_canceled_before (Nat.le_succ n) going)
    have orderly : (w.moment env options generators n).Orderly generators _ :=
      w.moment_orderly fresh separate n
    have handing := Moment.handing_eq_scanning orderly.drained going
    rw [handedOver, List.filter_append, handing, delivered]
    by_cases asks : ∃ ids progressed,
        (w.moment env options generators n).stage = .asking (g.id :: ids) progressed
    · -- The migration is pending, so this is its first scan.
      obtain ⟨ids, progressed, stage⟩ := asks
      have scanned : (w.moment env options generators n).scanning env =
          ((w.moment env options generators n).delivered env g.id).zipIdx.map
            fun p => g.task p.1 p.2 := by
        unfold Moment.scanning Moment.delivered
        rw [stage]
        dsimp only
        rw [if_pos rfl]
        refine RunState.scanning_eq fun g' source => ?_
        obtain ⟨g₀, given', same, migration⟩ := orderly.sources source
        rw [migration, distinct g₀ given' g given same]
      have before := orderly.filter_handed_of_asking stage
      rw [before] at ih
      have none : w.delivered env options generators g.id n = [] :=
        List.zipIdx_eq_nil_iff.1 (List.map_eq_nil_iff.1 ih.symm)
      rw [before, orderly.filter_scanning_of_asking stage, none, List.nil_append, List.nil_append]
      exact scanned
    · have none : (w.moment env options generators n).delivered env g.id = [] := by
        unfold Moment.delivered
        split
        · rename_i id ids progressed stage
          refine if_neg fun same => ?_
          rw [same] at stage
          exact asks ⟨ids, progressed, stage⟩
        · rfl
      rw [orderly.filter_scanning_of_not_asking asks, none, List.append_nil, List.append_nil]
      exact ih

/-- The tasks of a migration that have been handed over are in its group, and no others, unless the
run is cancelled or an operation meddles with that. -/
theorem mem_getGroup_iff (w : World) {id : Identifier} {n : Nat} {c : Identifier}
    (leaves : ∀ k < n, ¬(w.moment env options generators k).Meddles env options id c)
    (going : (w.moment env options generators n).stage ≠ .over true) :
    c ∈ (w.moment env options generators n).state.world.graph.getGroup id ↔
      c ∈ w.graph.getGroup id ∨
        c ∈ ((w.handedOver env options generators n).filter
          (fun t => t.migration = id)).map Task.id := by
  induction n with
  | zero => exact ⟨Or.inl, fun mem => mem.resolve_right List.not_mem_nil⟩
  | succ n ih =>
    have ih := ih (fun k before => leaves k (Nat.lt_succ_of_lt before))
      (w.not_canceled_before (Nat.le_succ n) going)
    have orderly : (w.moment env options generators n).Orderly generators _ :=
      w.moment_orderly fresh separate n
    have own {id : Identifier} {g : Generator}
        (found : (w.moment env options generators n).state.generators.find? id = some g) :
        g.id = id := by
      obtain ⟨g₀, -, named, same⟩ := orderly.sources found
      exact (congrArg Migration.id same).trans named
    have handing := Moment.handing_eq_scanning orderly.drained going
    rw [handedOver, List.filter_append, List.map_append, List.mem_append, ← or_assoc, ← ih,
      handing, moment]
    rcases Moment.next_graph own options with enacts | graph
    · -- There is no scan while an operation is at work.
      have kept := leaves n (Nat.lt_succ_self n)
      rw [Moment.Meddles, not_and_not_right] at kept
      have changed := kept enacts
      obtain ⟨part, ⟨f, mem, -⟩, -⟩ := enacts
      have idle : ¬∃ ids progressed,
          (w.moment env options generators n).stage = .asking (id :: ids) progressed := by
        rintro ⟨ids, progressed, stage⟩
        rw [stage] at mem
        cases mem
      rw [orderly.filter_scanning_of_not_asking idle, List.map_nil, or_iff_left List.not_mem_nil]
      exact changed
    rw [graph]
    by_cases asks : ∃ ids progressed,
        (w.moment env options generators n).stage = .asking (id :: ids) progressed
    · obtain ⟨ids, progressed, stage⟩ := asks
      rw [orderly.filter_scanning_of_asking stage, stage]
      exact Graph.mem_getGroup_addGroup_self
    · rw [orderly.filter_scanning_of_not_asking asks, List.map_nil, or_iff_left List.not_mem_nil]
      split
      · rename_i id' ids progressed stage
        have ne : id ≠ id' := fun same => asks ⟨ids, progressed, same ▸ stage⟩
        rw [Graph.getGroup_addGroup_of_ne ne]
      · rfl

/-- The identifiers of the tasks of a migration that have been handed over are those for what its
scan has delivered, unless the run is cancelled. -/
theorem mem_childIds_iff (w : World)
    (distinct : ∀ g ∈ generators, ∀ g' ∈ generators, g.id = g'.id → g = g') {g : Generator}
    (given : g ∈ generators) {n : Nat}
    (going : (w.moment env options generators n).stage ≠ .over true) (c : Identifier) :
    c ∈ g.childIds (w.delivered env options generators g.id n) ↔
      c ∈ ((w.handedOver env options generators n).filter
        (fun t => t.migration = g.id)).map Task.id := by
  rw [w.handedOver_delivered fresh separate distinct given going, List.map_map]
  exact Iff.rfl

/-- A task whose operation is called belongs to a migration of the run and is that for a value that
its scan has delivered. -/
theorem delivered_of_calls (w : World)
    (distinct : ∀ g ∈ generators, ∀ g' ∈ generators, g.id = g'.id → g = g') {k n : Nat}
    (earlier : k ≤ n) {t : Task} (calls : (w.moment env options generators k).Calls env options t) :
    ∃ g ∈ generators, ∃ d i, t = g.task d i ∧
      (w.delivered env options generators g.id n)[i]? = some d := by
  have orderly : (w.moment env options generators k).Orderly generators _ :=
    w.moment_orderly fresh separate k
  obtain ⟨f, mem, -, -, rfl⟩ := calls.flight
  obtain ⟨handed, -⟩ := orderly.tasks.1 (orderly.stage.expects.known f mem)
  obtain ⟨⟨g, given, d, i, own⟩, -⟩ := orderly.own f.task handed
  have going : (w.moment env options generators k).stage ≠ .over true := by
    intro ended
    rw [ended] at mem
    cases mem
  have of_g : f.task ∈ (w.handedOver env options generators k).filter
      (fun t => t.migration = g.id) :=
    List.mem_filter.2 ⟨handed, decide_eq_true (congrArg Task.migration own)⟩
  rw [w.handedOver_delivered fresh separate distinct given going] at of_g
  obtain ⟨⟨d, i⟩, mem, same⟩ := List.mem_map.1 of_g
  refine ⟨g, given, d, i, same.symm, ?_⟩
  have at_k : (w.delivered env options generators g.id k)[i]? = some d :=
    List.mem_zipIdx_iff_getElem?.1 mem
  obtain ⟨more, longer⟩ : w.delivered env options generators g.id k <+:
      w.delivered env options generators g.id n := w.delivered_prefix g.id earlier
  obtain ⟨bound, -⟩ := List.getElem?_eq_some_iff.1 at_k
  rw [← longer, List.getElem?_append_left bound]
  exact at_k

/-- What is reported to have succeeded was called, and that has ended well. -/
theorem history_of_reported_succeeded (w : World) (ends : env.registry.Ends) {n : Nat}
    {canceled : Bool} {c : Identifier}
    (listed : c ∈ ((w.moment env options generators n).state.progress.report canceled).succeeded) :
    ∃ t, (∃ k < n, (w.moment env options generators k).Calls env options t) ∧ t.id = c ∧
      (w.moment env options generators n).state.world.history c =
        .returned c .succeeded :: .applied t :: w.history c := by
  have orderly : (w.moment env options generators n).Orderly generators _ :=
    w.moment_orderly fresh separate n
  have phase := Progress.phase?_of_reported_succeeded orderly.lawful listed
  have task : (w.moment env options generators n).state.progress.generators.contains c = false := by
    have unlisted := (List.mem_filter.1 listed).2
    rwa [Bool.not_eq_true'] at unlisted
  have other : c ∉ generators.map Generator.id := by
    rw [← orderly.migrations, task]
    exact Bool.noConfusion
  rw [Progress.phase?_eq_standing?, Option.map_eq_some_iff] at phase
  obtain ⟨st, at_c, succeeded⟩ := phase
  obtain ⟨e, found, rfl⟩ := Progress.child_of_standing task at_c
  exact (w.moment_recounts fresh separate ends other n).succeeded e found succeeded

/-- What is reported to have passed was not called. -/
theorem history_of_reported_passed (w : World) (ends : env.registry.Ends) {n : Nat}
    {canceled : Bool} {c : Identifier}
    (listed : c ∈ ((w.moment env options generators n).state.progress.report canceled).passed) :
    (w.moment env options generators n).state.world.history c = w.history c := by
  have orderly (k : Nat) : (w.moment env options generators k).Orderly generators
      (w.handedOver env options generators k) := w.moment_orderly fresh separate k
  by_cases migration : c ∈ generators.map Generator.id
  · exact w.history_of_migration fresh separate migration n
  · have task : (w.moment env options generators n).state.progress.generators.contains c =
        false := by
      rw [← Bool.not_eq_true, (orderly n).migrations]
      exact migration
    have phase := Progress.phase?_of_reported_passed (orderly n).lawful listed
    rw [Progress.phase?_eq_standing?, Option.map_eq_some_iff] at phase
    obtain ⟨st, at_c, passed⟩ := phase
    obtain ⟨e, found, rfl⟩ := Progress.child_of_standing task at_c
    exact (w.moment_recounts fresh separate ends migration n).passed e found passed

/-- In a run that is not cancelled the report lists just those tasks of a migration that are made
for what its scan has delivered. -/
theorem lists_iff (w : World)
    (distinct : ∀ g ∈ generators, ∀ g' ∈ generators, g.id = g'.id → g = g') {g : Generator}
    (given : g ∈ generators) {n : Nat}
    (going : (w.moment env options generators n).stage ≠ .over true) (canceled : Bool)
    (c : Identifier) :
    c ∈ g.childIds (w.delivered env options generators g.id n) ↔
      (∃ d i, c = childId g.id d i) ∧
        ((w.moment env options generators n).state.progress.report canceled).Lists c := by
  have orderly : (w.moment env options generators n).Orderly generators _ :=
    w.moment_orderly fresh separate n
  have listed {d : Value} {i : Nat} :
      ((w.moment env options generators n).state.progress.report canceled).Lists
          (childId g.id d i) ↔
        childId g.id d i ∈ (w.handedOver env options generators n).map Task.id := by
    rw [Progress.report_lists_iff, w.children_iff fresh separate]
    rw [← Bool.not_eq_true, orderly.migrations]
    exact separate.task_ne given d i
  rw [w.mem_childIds_iff fresh separate distinct given going]
  constructor
  · intro mem
    obtain ⟨t, kept, rfl⟩ := List.mem_map.1 mem
    obtain ⟨handed, of_g⟩ := List.mem_filter.1 kept
    obtain ⟨⟨g', given', d, i, rfl⟩, -⟩ := orderly.own t handed
    obtain rfl := distinct g' given' g given (of_decide_eq_true of_g)
    exact ⟨⟨d, i, rfl⟩, listed.2 (List.mem_map_of_mem handed)⟩
  · rintro ⟨⟨d, i, rfl⟩, reported⟩
    obtain ⟨t, handed, same⟩ := List.mem_map.1 (listed.1 reported)
    obtain ⟨⟨g', given', d', i', rfl⟩, -⟩ := orderly.own t handed
    have of_g : g'.id = g.id := separate.migration_eq given' given same
    rw [← same]
    exact List.mem_map_of_mem (List.mem_filter.2 ⟨handed, decide_eq_true of_g⟩)

end

/-- In a run over fresh generators whose operations do not break off, the operation of a task is
called once at most. If the report says that a task has succeeded, it is that for a value which the
scan of its migration has delivered, and the operation that the migration names was called with it
and has ended well: the journal says this of the task and nothing else. If the report says that a
task has passed, the journal says nothing of it, and no operation was called.

In a run that is not cancelled the tasks that the report lists for a migration are those for the
identifying values that its scan has delivered, one for each; and they are the members of its group,
which was empty, unless an operation itself has put one in or taken one out. -/
theorem tasks_reported {w w₀ : World}
    (prepared : w.prepare env options generators = (w₀, .ok ()))
    (plain : ∀ g ∈ generators, Plain g.id) (fresh : ∀ g ∈ generators, g.buffered = [])
    (empty : ∀ g ∈ generators, w.graph.getGroup g.id = []) (ends : env.registry.Ends) :
    (∀ n k t t', (w₀.moment env options generators n).Calls env options t →
      (w₀.moment env options generators k).Calls env options t' → t.id = t'.id → n = k) ∧
    ∃ n canceled s, w₀.moment env options generators n = ⟨.over canceled, s⟩ ∧
      w.run env options generators = (s.world, .ok (s.progress.report canceled)) ∧
      (∀ c ∈ (s.progress.report canceled).succeeded, ∃ g ∈ generators, ∃ d i op, ∃ k < n,
        c = childId g.id d i ∧ (w₀.delivered env options generators g.id n)[i]? = some d ∧
        env.registry.get g.migration.operation = .ok op ∧
        (w₀.moment env options generators k).Calls env options (g.task d i) ∧
        (w₀.moment env options generators (k + 1)).Applies (g.task d i) (op (g.task d i)) ∧
        s.world.history c = .returned c .succeeded :: .applied (g.task d i) :: w₀.history c) ∧
      (∀ c ∈ (s.progress.report canceled).passed, s.world.history c = w₀.history c ∧
        ∀ k t, (w₀.moment env options generators k).Calls env options t → t.id ≠ c) ∧
      (canceled = false → ∀ g ∈ generators,
        (g.childIds (w₀.delivered env options generators g.id n)).Nodup ∧
        (∀ c, c ∈ g.childIds (w₀.delivered env options generators g.id n) ↔
          (∃ d i, c = childId g.id d i) ∧ (s.progress.report canceled).Lists c) ∧
        ∀ c, (c ∈ g.childIds (w₀.delivered env options generators g.id n) ↔
            c ∈ s.world.graph.getGroup g.id) ∨
          ∃ k < n, (w₀.moment env options generators k).Meddles env options g.id c) := by
  have separate : Separate generators := .of_plain plain
  have distinct : ∀ g ∈ generators, ∀ g' ∈ generators, g.id = g'.id → g = g' :=
    fun g given g' given' same => prepare_inj prepared given given' same
  refine ⟨fun n k t t' => w₀.called_once fresh separate ends, ?_⟩
  obtain ⟨n, canceled, s, ended, run⟩ := run_eq_moment prepared
  have state : (w₀.moment env options generators n).state = s := by rw [ended]
  refine ⟨n, canceled, s, ended, run, fun c listed => ?_, fun c listed => ?_,
    fun uncanceled g given => ?_⟩
  · rw [← state] at listed ⊢
    obtain ⟨t, ⟨k, earlier, calls⟩, rfl, told⟩ :=
      w₀.history_of_reported_succeeded fresh separate ends listed
    obtain ⟨g, given, d, i, rfl, at_i⟩ :=
      w₀.delivered_of_calls fresh separate distinct (Nat.le_of_lt earlier) calls
    obtain ⟨op, known, begins, -⟩ := calls.begins
    exact ⟨g, given, d, i, op, k, earlier, rfl, at_i, known, calls, begins, told⟩
  · rw [← state] at listed ⊢
    have untold := w₀.history_of_reported_passed fresh separate ends listed
    refine ⟨untold, fun k t calls same => ?_⟩
    have told := (w₀.history_of_calls fresh separate ends calls).2
    have still : (w₀.moment env options generators (k + 1)).state.world.history c <:+ _ :=
      w₀.history_suffix c (lt_of_calls calls ended : k + 1 ≤ n)
    rw [untold, ← same, told] at still
    exact absurd still.length_le (by simp)
  · have going : (w₀.moment env options generators n).stage ≠ .over true := by
      rw [ended, uncanceled]
      exact fun same => by cases same
    refine ⟨g.childIds_nodup _, fun c => ?_, fun c => ?_⟩
    · rw [← state]
      exact w₀.lists_iff fresh separate distinct given going canceled c
    · rw [or_iff_not_imp_right]
      intro leaves
      have start : w₀.graph.getGroup g.id = [] :=
        (prepare_getGroup prepared g.id).trans (empty g given)
      rw [w₀.mem_childIds_iff fresh separate distinct given going, ← state,
        w₀.mem_getGroup_iff fresh separate (fun k before meddles => leaves ⟨k, before, meddles⟩)
          going, start, or_iff_right List.not_mem_nil]

end World

/-! ## A scan that stops early -/

namespace Sample

/-- Two orders, of which every scan gets only one. -/
def brokenOff : World :=
  { twoOrders with
    store := { twoOrders.store with faults := { findCursorFailsAfter := some 1 } } }

/-- The world once the run over the orders is prepared. -/
def brokenOffReady : World := (brokenOff.prepare env {} [orders]).1

theorem brokenOff_prepared : brokenOff.prepare env {} [orders] = (brokenOffReady, .ok ()) :=
  Prod.ext rfl (by decide +kernel)

theorem brokenOff_over : (brokenOffReady.moment env {} [orders] 13).stage = .over false := by
  decide +kernel

theorem brokenOff_succeeded :
    ((brokenOffReady.moment env {} [orders] 13).state.progress.report false).succeeded =
      ["z.1.0"] := by
  decide +kernel

theorem brokenOff_group :
    (brokenOffReady.moment env {} [orders] 13).state.world.graph.getGroup "z" = ["z.1.0"] := by
  decide +kernel

/-- Marking ends well and leaves the graph as it is. -/
theorem mark_leaves :
    env.registry.Obeys (fun _ a b => b.graph = a.graph) fun _ o => o ≠ .lost := by
  intro name op known t
  rw [get_eq_mark known]
  exact fun scene => ⟨rfl, Outcome.noConfusion⟩

end Sample

namespace World

/-- The scan of the orders delivers the first one and fails. Its task is the only one that is
reported for the migration and the only one in its group; it has succeeded, and its document was
marked once. -/
theorem first_order_reported : ∃ (n : Nat) (s : RunState),
    Sample.brokenOff.run Sample.env {} [Sample.orders] =
      (s.world, .ok (s.progress.report false)) ∧
    (∃ d i, ∃ k < n, childId "z" d i = "z.1.0" ∧
      (Sample.brokenOffReady.moment Sample.env {} [Sample.orders] k).Calls Sample.env {}
        (Sample.orders.task d i) ∧
      s.world.history "z.1.0" = .returned "z.1.0" .succeeded :: .applied (Sample.orders.task d i) ::
        Sample.brokenOffReady.history "z.1.0") ∧
    (∀ c, (∃ d i, c = childId "z" d i) ∧ (s.progress.report false).Lists c ↔ c = "z.1.0") ∧
    ∀ c, c ∈ Sample.orders.childIds
      (Sample.brokenOffReady.delivered Sample.env {} [Sample.orders] "z" n) ↔ c = "z.1.0" := by
  have plain : ∀ g ∈ [Sample.orders], Plain g.id := by decide
  have fresh : ∀ g ∈ [Sample.orders], g.buffered = [] := by
    simp [Sample.orders, Generator.new]
  have empty : ∀ g ∈ [Sample.orders], Sample.brokenOff.graph.getGroup g.id = [] := by
    decide +kernel
  have ends : Sample.env.registry.Ends := fun known t =>
    (Sample.mark_leaves known t).mono (fun _ _ _ => trivial) fun _ unlost => unlost
  have leaves : Sample.env.registry.Obeys (fun _ a b => b.graph = a.graph) fun _ _ => True :=
    fun known t => (Sample.mark_leaves known t).mono (fun _ _ same => same) fun _ _ => trivial
  obtain ⟨-, n, canceled, s, ended, run, succeeded, -, uncanceled⟩ :=
    tasks_reported Sample.brokenOff_prepared plain fresh empty ends
  obtain ⟨going, state⟩ := over_unique ended (moment_of_stage Sample.brokenOff_over)
  rw [going] at run
  obtain ⟨-, lists, members⟩ := uncanceled going Sample.orders List.mem_cons_self
  have only (c : Identifier) : c ∈ Sample.orders.childIds
      (Sample.brokenOffReady.delivered Sample.env {} [Sample.orders] "z" n) ↔ c = "z.1.0" := by
    rw [← List.mem_singleton, ← Sample.brokenOff_group, ← state]
    refine (members c).resolve_right ?_
    rintro ⟨k, -, meddles⟩
    exact Moment.not_meddles (moment_obeys leaves _ _ k) _ _ meddles
  refine ⟨n, s, run, ?_, fun c => ?_, only⟩
  · have listed : "z.1.0" ∈ (s.progress.report canceled).succeeded := by
      rw [state, going, Sample.brokenOff_succeeded]
      exact List.mem_cons_self
    obtain ⟨g, given, d, i, op, k, earlier, named, -, -, calls, -, told⟩ :=
      succeeded "z.1.0" listed
    obtain rfl : g = Sample.orders := List.mem_singleton.1 given
    exact ⟨d, i, k, earlier, named.symm, calls, told⟩
  · rw [← only c, ← going]
    exact (lists c).symm

end World

end GatedMigration
