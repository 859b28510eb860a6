import GatedMigration.Proofs.Commands

/-!
# Verdicts in any order

The tasks of a round are worked on at the same time, and the bookkeeping gets the verdicts on them
in the order in which they come to their end. A verdict changes what is known under its own
identifier and looks at nothing else but whether there is a migration of that name
(`RunState.record_fst`). So two verdicts under different identifiers may be exchanged
(`RunState.record_comm`), and the order of all verdicts leaves no trace
(`Progress.heed_in_any_order`).
-/

namespace GatedMigration

/-! ## Changes under different identifiers -/

namespace IdMap

variable {α : Type} {m : IdMap α} {k k' : Identifier}

theorem adjust_eq_self {f : α → α} (same : ∀ v, m.find? k = some v → f v = v) :
    m.adjust k f = m := by
  refine ext_find? fun k' => ?_
  rw [find?_adjust]
  split
  · rename_i at_k
    rw [at_k]
    cases found : m.find? k with
    | none => rfl
    | some v => rw [Option.map_some, same v found]
  · rfl

theorem adjust_comm (m : IdMap α) (ne : k ≠ k') (f f' : α → α) :
    (m.adjust k f).adjust k' f' = (m.adjust k' f').adjust k f := by
  refine ext_find? fun i => ?_
  rw [find?_adjust, find?_adjust, find?_adjust, find?_adjust]
  by_cases at_k : i = k
  · rw [if_pos at_k, if_neg (at_k ▸ ne), if_pos at_k, if_neg (at_k ▸ ne)]
  · rw [if_neg at_k, if_neg at_k]

end IdMap

/-! ## What a verdict changes -/

namespace Verdict

/-- What a verdict makes of a migration with its identifier: an answer is noted there. -/
def onMigration : Verdict → GeneratorEntry → GeneratorEntry
  | waiting state, g => { g with entry := { g.entry with lastState := some state } }
  | _, g => g

/-- What a verdict makes of the task with its identifier. If there is a migration of the same name,
an answer is noted there instead. -/
def onTask (migration : Bool) : Verdict → Entry → Entry
  | executed errors, e => { e with lastState := some .ready }.finish .succeeded errors
  | passed errors, e => { e with lastState := some .passed }.finish .passed errors
  | waiting state, e => if migration then e else { e with lastState := some state }
  | _, e => e

end Verdict

namespace RunState

/-- A verdict changes what is known under its identifier, and nothing else. -/
theorem record_fst (p : Progress) (id : Identifier) (v : Verdict) :
    (record p id v).1 = { p with
      generators := p.generators.adjust id v.onMigration
      children := p.children.adjust id (v.onTask (p.generators.contains id)) } := by
  -- A verdict that is not an answer leaves migrations alone.
  have apart : p.generators.adjust id (fun g => g) = p.generators :=
    IdMap.adjust_eq_self fun _ _ => rfl
  have same : p.children.adjust id (fun e => e) = p.children :=
    IdMap.adjust_eq_self fun _ _ => rfl
  cases v with
  | executed errors | passed errors =>
    show _ = { p with generators := p.generators.adjust id (fun g => g), children := _ }
    rw [apart]
    rfl
  | canceled | lost =>
    show p = { p with
      generators := p.generators.adjust id (fun g => g)
      children := p.children.adjust id (fun e => e) }
    rw [apart, same]
  | waiting state =>
    show p.observe id state = _
    unfold Progress.observe
    split
    · rename_i known
      rw [known]
      show _ = { p with generators := _, children := p.children.adjust id (fun e => e) }
      rw [same]
      rfl
    · rename_i known
      have unknown := IdMap.find?_of_not_contains (eq_false_of_ne_true known)
      rw [eq_false_of_ne_true known,
        IdMap.adjust_eq_self (m := p.generators) fun g found => by cases unknown.symm.trans found]
      rfl

theorem record_generators (p : Progress) (id : Identifier) (v : Verdict) :
    (record p id v).1.generators = p.generators.adjust id v.onMigration := by
  rw [record_fst]

theorem record_children (p : Progress) (id : Identifier) (v : Verdict) :
    (record p id v).1.children =
      p.children.adjust id (v.onTask (p.generators.contains id)) := by
  rw [record_fst]

/-- Verdicts under different identifiers may come in either order. -/
theorem record_comm (p : Progress) {a b : Identifier} (ne : a ≠ b) (u v : Verdict) :
    (record (record p a u).1 b v).1 = (record (record p b v).1 a u).1 := by
  rw [record_fst p, record_fst p, record_fst, record_fst]
  simp only [IdMap.contains_adjust, IdMap.adjust_comm _ ne]

end RunState

/-! ## Any number of verdicts -/

namespace Progress

/-- The bookkeeping after verdicts, each under its identifier, one after the other. -/
def heed (p : Progress) (vs : List (Identifier × Verdict)) : Progress :=
  vs.foldl (fun p v => (RunState.record p v.1 v.2).1) p

variable {p : Progress} {id : Identifier} {vs vs' : List (Identifier × Verdict)}

theorem heed_cons (p : Progress) (w : Identifier × Verdict) (vs : List (Identifier × Verdict)) :
    p.heed (w :: vs) = (RunState.record p w.1 w.2).1.heed vs := rfl

/-- What is known under an identifier without a verdict stays as it is. -/
theorem find?_heed_of_notMem (none : id ∉ vs.map Prod.fst) :
    (p.heed vs).generators.find? id = p.generators.find? id ∧
      (p.heed vs).children.find? id = p.children.find? id := by
  induction vs generalizing p with
  | nil => exact ⟨rfl, rfl⟩
  | cons w vs ih =>
    rw [List.map_cons, List.mem_cons, not_or] at none
    rw [heed_cons, (ih none.2).1, (ih none.2).2, RunState.record_generators,
      RunState.record_children, IdMap.find?_adjust_of_ne _ none.1,
      IdMap.find?_adjust_of_ne _ none.1]
    exact ⟨rfl, rfl⟩

/-- Of different identifiers each gets its own verdict. -/
theorem find?_heed_of_mem (distinct : (vs.map Prod.fst).Nodup) {v : Verdict} (mem : (id, v) ∈ vs) :
    (p.heed vs).generators.find? id = (p.generators.find? id).map v.onMigration ∧
      (p.heed vs).children.find? id =
        (p.children.find? id).map (v.onTask (p.generators.contains id)) := by
  induction vs generalizing p with
  | nil => cases mem
  | cons w vs ih =>
    obtain ⟨fresh, distinct⟩ := List.nodup_cons.1 distinct
    rw [heed_cons]
    rcases List.mem_cons.1 mem with rfl | mem
    · rw [(find?_heed_of_notMem fresh).1, (find?_heed_of_notMem fresh).2,
        RunState.record_generators, RunState.record_children, IdMap.find?_adjust_self,
        IdMap.find?_adjust_self]
      exact ⟨rfl, rfl⟩
    · have ne : id ≠ w.1 := fun same => fresh (same ▸ List.mem_map_of_mem mem)
      rw [(ih distinct mem).1, (ih distinct mem).2, RunState.record_generators,
        RunState.record_children, IdMap.contains_adjust, IdMap.find?_adjust_of_ne _ ne,
        IdMap.find?_adjust_of_ne _ ne]
      exact ⟨rfl, rfl⟩

/-- Verdicts under different identifiers lead to one state of the bookkeeping, in whatever order
they come; so whatever it is asked, the report included, has one answer. In that state each verdict
has had its effect on what was known under its identifier, and nothing else has changed. -/
theorem heed_in_any_order (p : Progress) (perm : vs.Perm vs')
    (distinct : (vs.map Prod.fst).Nodup) :
    p.heed vs' = p.heed vs ∧
    (∀ id v, (id, v) ∈ vs →
      (p.heed vs).generators.find? id = (p.generators.find? id).map v.onMigration ∧
      (p.heed vs).children.find? id =
        (p.children.find? id).map (v.onTask (p.generators.contains id))) ∧
    (∀ id, id ∉ vs.map Prod.fst →
      (p.heed vs).generators.find? id = p.generators.find? id ∧
      (p.heed vs).children.find? id = p.children.find? id) := by
  refine ⟨?_, fun id v mem => find?_heed_of_mem distinct mem, fun id => find?_heed_of_notMem⟩
  refine (perm.foldl_eq' (fun x mem y mem' q => ?_) p).symm
  by_cases same : x.1 = y.1
  · rw [List.inj_on_of_nodup_map distinct mem mem' same]
  · exact RunState.record_comm q same x.2 y.2

end Progress

namespace Sample

/-- The migration `a` has two tasks, one of which has the name of the migration `b`. -/
def namesakes : Progress := (Progress.start ["a", "b"] 1).generatorRan "a" ["a.1.0", "b"] []

/-- One task has failed, and one has to wait. -/
def mixed : List (Identifier × Verdict) :=
  [("a.1.0", .executed ["no such field"]), ("b", .waiting .blocked)]

end Sample

namespace Progress

/-- In either order the first task is marked as failed, and the answer is noted at the migration `b`
and not at the task of that name. -/
theorem namesakes_in_any_order :
    Sample.mixed.Perm Sample.mixed.reverse ∧ (Sample.mixed.map Prod.fst).Nodup ∧
    Sample.namesakes.heed Sample.mixed.reverse = Sample.namesakes.heed Sample.mixed ∧
    (Sample.namesakes.heed Sample.mixed).children.find? "a.1.0" =
      some { phase := .failed, lastState := some .ready, errors := ["no such field"] } ∧
    (Sample.namesakes.heed Sample.mixed).generators.find? "b" =
      some { entry := { lastState := some .blocked } } ∧
    (Sample.namesakes.heed Sample.mixed).children.find? "b" = some {} := by
  have perm : Sample.mixed.Perm Sample.mixed.reverse := (List.reverse_perm _).symm
  have distinct : (Sample.mixed.map Prod.fst).Nodup := by decide
  obtain ⟨same, effect, -⟩ := heed_in_any_order Sample.namesakes perm distinct
  obtain ⟨-, first⟩ := effect "a.1.0" _ List.mem_cons_self
  obtain ⟨migration, task⟩ := effect "b" _ (List.mem_cons_of_mem _ List.mem_cons_self)
  refine ⟨perm, distinct, same, first.trans ?_, migration.trans ?_, task.trans ?_⟩
  · decide +kernel
  · decide +kernel
  · decide +kernel

end Progress

end GatedMigration
