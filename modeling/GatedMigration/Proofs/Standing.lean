import GatedMigration.Progress

/-!
# Standings

How far a migration or a task is, with its errors and its tasks, is its standing; the last answer
about its readiness does not belong to it (`Progress.standing?`). An answer changes no standing
(`observe_stands`), what comes to its end changes its own and no other (`Progress.Settles`), and
a migration that fans out brings new tasks besides (`generatorRan_fansOut`).
-/

namespace GatedMigration

/-- Finished without errors. -/
def Phase.isClean : Phase → Bool
  | succeeded | passed => true
  | _ => false

theorem Phase.isTerminal_of_isClean {ph : Phase} (h : ph.isClean = true) :
    ph.isTerminal = true := by
  cases ph with
  | pending | running | failed => cases h
  | succeeded | passed => rfl

theorem Phase.isClean_of_isTerminal {ph : Phase} (h : ph.isTerminal = true) (ne : ph ≠ .failed) :
    ph.isClean = true := by
  cases ph with
  | failed => exact absurd rfl ne
  | pending | running => cases h
  | succeeded | passed => rfl

/-- How far a migration or a task is. A task has no tasks. -/
structure Standing where
  phase : Phase
  errors : List String
  tasks : List Identifier
deriving DecidableEq

/-- The standing of a task that was just made. -/
def Standing.fresh : Standing := ⟨.pending, [], []⟩

/-- The standing at the end: failed if there is an error, old or new. -/
def Standing.finish (st : Standing) (clean : Phase) (errors : List String) : Standing :=
  { st with
    errors := st.errors ++ errors
    phase := if (st.errors ++ errors).isEmpty then clean else .failed }

/-- The standing of a task. -/
def Entry.standing (e : Entry) : Standing := ⟨e.phase, e.errors, []⟩

/-- The standing of a migration. -/
def GeneratorEntry.standing (g : GeneratorEntry) : Standing :=
  ⟨g.entry.phase, g.entry.errors, g.children⟩

namespace Standing

theorem finish_terminal (st : Standing) {clean : Phase} (terminal : clean.isTerminal = true)
    (errors : List String) : (st.finish clean errors).phase.isTerminal = true := by
  unfold finish
  dsimp only
  split
  · exact terminal
  · rfl

/-- Without an error it is not failed, and with an error nothing else. -/
theorem finish_phase (st : Standing) (clean : Phase) (errors : List String) :
    (st.finish clean errors).phase = clean ∧ st.errors ++ errors = [] ∨
      (st.finish clean errors).phase = .failed ∧ st.errors ++ errors ≠ [] := by
  unfold finish
  dsimp only
  split
  · rename_i empty
    exact Or.inl ⟨rfl, List.isEmpty_iff.1 empty⟩
  · rename_i some
    exact Or.inr ⟨rfl, fun none => some (List.isEmpty_iff.2 none)⟩

/-- Whether there is an error says whether it has failed. -/
theorem finish_failed_iff (st : Standing) {clean : Phase} (is_clean : clean.isClean = true)
    (errors : List String) :
    (!(st.errors ++ errors).isEmpty) = true ↔ (st.finish clean errors).phase = .failed := by
  rcases st.finish_phase clean errors with ⟨phase, none⟩ | ⟨phase, some⟩
  · rw [phase, none]
    refine ⟨fun h => (by cases h), fun failed => ?_⟩
    rw [failed] at is_clean
    cases is_clean
  · rw [phase, Bool.not_eq_true', ← Bool.not_eq_true, List.isEmpty_iff]
    exact ⟨fun _ => rfl, fun _ => some⟩

theorem errors_eq_nil_of_finish_clean {st : Standing} {clean : Phase} {errors : List String}
    (h : (st.finish clean errors).phase.isClean = true) : st.errors ++ errors = [] := by
  rcases st.finish_phase clean errors with ⟨-, none⟩ | ⟨phase, -⟩
  · exact none
  · rw [phase] at h
    cases h

end Standing

namespace Progress

/-- The standing of a migration or else of a task. -/
def standing? (p : Progress) (id : Identifier) : Option Standing :=
  match p.generators.find? id with
  | some g => some g.standing
  | none => (p.children.find? id).map Entry.standing

/-- From `p` to `q` the migrations stay the same, and the tasks `new` become known. -/
structure Extends (p q : Progress) (new : List Identifier) : Prop where
  generators : ∀ id, q.generators.contains id = p.generators.contains id
  children : ∀ id, q.children.contains id = true ↔ p.children.contains id = true ∨ id ∈ new

/-- From `p` to `q` everything stands as before. -/
structure Stands (p q : Progress) : Prop extends Extends p q [] where
  standing : q.standing? = p.standing?

/-- From `p` to `q` the standing of one migration or task has changed, to `st`, and no other. -/
structure Settles (p q : Progress) (id : Identifier) (st : Standing) : Prop
    extends Extends p q [] where
  self : q.standing? id = some st
  others : ∀ id', id' ≠ id → q.standing? id' = p.standing? id'

/-- From `p` to `q` a migration has fanned out: it runs with its new tasks. Those that were unknown
are pending, and nothing else changes. -/
structure FansOut (p q : Progress) (id : Identifier) (old : Standing) (tasks : List Identifier)
    (errors : List String) : Prop extends Extends p q tasks where
  self : q.standing? id = some ⟨.running, old.errors ++ errors, old.tasks ++ tasks⟩
  others : ∀ id', id' ≠ id →
    q.standing? id' = (p.standing? id').or (if id' ∈ tasks then some .fresh else none)

variable {p : Progress} {id : Identifier}

theorem standing?_of_generator {g : GeneratorEntry} (h : p.generators.find? id = some g) :
    p.standing? id = some g.standing := by
  rw [standing?, h]

theorem standing?_of_child {e : Entry} (task : p.generators.contains id = false)
    (h : p.children.find? id = some e) : p.standing? id = some e.standing := by
  have none := IdMap.find?_of_not_contains task
  rw [standing?, none, h]
  rfl

/-- The standing of a migration is that of its entry. -/
theorem generator_of_standing {st : Standing} (migration : p.generators.contains id = true)
    (h : p.standing? id = some st) : ∃ g, p.generators.find? id = some g ∧ g.standing = st := by
  obtain ⟨g, found⟩ := IdMap.find?_of_contains migration
  exact ⟨g, found, Option.some.inj ((standing?_of_generator found).symm.trans h)⟩

/-- The standing of a task is that of its entry. -/
theorem child_of_standing {st : Standing} (task : p.generators.contains id = false)
    (h : p.standing? id = some st) : ∃ e, p.children.find? id = some e ∧ e.standing = st := by
  have none := IdMap.find?_of_not_contains task
  rw [standing?, none] at h
  exact Option.map_eq_some_iff.1 h

theorem phase?_eq_standing? (p : Progress) (id : Identifier) :
    p.phase? id = (p.standing? id).map Standing.phase := by
  unfold phase? standing?
  cases p.generators.find? id with
  | some g => rfl
  | none => cases p.children.find? id <;> rfl

/-! ## Changes of one entry -/

theorem extends_adjust_generators (p : Progress) (id : Identifier)
    (f : GeneratorEntry → GeneratorEntry) :
    Extends p { p with generators := p.generators.adjust id f } [] :=
  ⟨fun _ => IdMap.contains_adjust _ _ _ _, fun _ => by simp⟩

theorem extends_adjust_children (p : Progress) (id : Identifier) (f : Entry → Entry) :
    Extends p { p with children := p.children.adjust id f } [] :=
  ⟨fun _ => rfl, fun _ => by simp [IdMap.contains_adjust]⟩

theorem settles_generator {g : GeneratorEntry} (h : p.generators.find? id = some g)
    (f : GeneratorEntry → GeneratorEntry) :
    Settles p { p with generators := p.generators.adjust id f } id (f g).standing := by
  refine ⟨extends_adjust_generators p id f, ?_, ?_⟩
  · refine standing?_of_generator ?_
    show (p.generators.adjust id f).find? id = _
    rw [IdMap.find?_adjust_self, h]
    rfl
  · intro id' ne
    unfold standing?
    dsimp only
    rw [IdMap.find?_adjust_of_ne _ ne]

theorem settles_child {e : Entry} (task : p.generators.contains id = false)
    (h : p.children.find? id = some e) (f : Entry → Entry) :
    Settles p { p with children := p.children.adjust id f } id (f e).standing := by
  refine ⟨extends_adjust_children p id f, ?_, ?_⟩
  · refine standing?_of_child task ?_
    show (p.children.adjust id f).find? id = _
    rw [IdMap.find?_adjust_self, h]
    rfl
  · intro id' ne
    unfold standing?
    dsimp only
    rw [IdMap.find?_adjust_of_ne _ ne]

/-- What settles at the standing that it has stands as before. -/
theorem Settles.stands {q : Progress} {st : Standing} (h : Settles p q id st)
    (old : p.standing? id = some st) : Stands p q := by
  refine ⟨h.toExtends, ?_⟩
  funext id'
  by_cases e : id' = id
  · rw [e, h.self, old]
  · exact h.others id' e

theorem generatorPassed_settles {g : GeneratorEntry} (h : p.generators.find? id = some g)
    (errors : List String) :
    Settles p (p.generatorPassed id errors) id (g.standing.finish .passed errors) :=
  settles_generator h _

theorem finalizeGenerator_settles {g : GeneratorEntry} (h : p.generators.find? id = some g)
    (errors : List String) :
    Settles p (p.finalizeGenerator id errors) id
      (g.standing.finish .succeeded (failedChildrenErrors (p.failedChildren g) ++ errors)) :=
  settles_generator h _

theorem childExecuted_settles {e : Entry} (task : p.generators.contains id = false)
    (h : p.children.find? id = some e) (errors : List String) :
    Settles p (p.childExecuted id errors) id (e.standing.finish .succeeded errors) :=
  settles_child task h _

theorem childPassed_settles {e : Entry} (task : p.generators.contains id = false)
    (h : p.children.find? id = some e) (errors : List String) :
    Settles p (p.childPassed id errors) id (e.standing.finish .passed errors) :=
  settles_child task h _

/-! ## Answers and rounds -/

theorem Stands.rfl : Stands p p := ⟨⟨fun _ => Eq.refl _, fun _ => by simp⟩, Eq.refl _⟩

/-- After an answer about its readiness everything stands as before. -/
theorem observe_stands (p : Progress) (id : Identifier) (state : Readiness) :
    Stands p (p.observe id state) := by
  unfold observe
  split
  · rename_i generator
    obtain ⟨g, h⟩ := IdMap.find?_of_contains generator
    have kept : Settles p _ id g.standing := settles_generator h fun g =>
      { g with entry := { g.entry with lastState := some state } }
    exact kept.stands (standing?_of_generator h)
  · rename_i task
    replace task : p.generators.contains id = false := eq_false_of_ne_true task
    cases h : p.children.find? id with
    | none =>
      rw [IdMap.adjust, h]
      exact .rfl
    | some e =>
      have kept : Settles p _ id e.standing := settles_child task h fun e =>
        { e with lastState := some state }
      exact kept.stands (standing?_of_child task h)

/-- Everything stands as before, however many rounds are counted. -/
theorem counted_stands (p : Progress) (rounds idleRounds : Nat) :
    Stands p { p with rounds, idleRounds } :=
  ⟨⟨fun _ => Eq.refl _, fun _ => by simp⟩, Eq.refl _⟩

/-! ## New tasks -/

theorem find?_addChildren (children : IdMap Entry) (ids : List Identifier) (id : Identifier) :
    (addChildren children ids).find? id =
      (children.find? id).or (if id ∈ ids then some {} else none) := by
  induction ids generalizing children with
  | nil => simp [addChildren]
  | cons new ids ih =>
    show (addChildren (if children.contains new then children else children.insert new {})
      ids).find? id = _
    rw [ih]
    by_cases known : children.contains new = true
    · rw [if_pos known]
      obtain ⟨e, he⟩ := IdMap.find?_of_contains known
      by_cases h : id = new
      · rw [h, he, Option.some_or, Option.some_or]
      · simp only [List.mem_cons, h, false_or]
    · rw [if_neg known]
      by_cases h : id = new
      · have unknown := IdMap.find?_of_not_contains (eq_false_of_ne_true known)
        rw [h, IdMap.find?_insert_self, unknown, if_pos List.mem_cons_self]
        rfl
      · rw [IdMap.find?_insert_of_ne _ h]
        simp only [List.mem_cons, h, false_or]

theorem generatorRan_extends {g : GeneratorEntry} (h : p.generators.find? id = some g)
    (tasks : List Identifier) (errors : List String) :
    Extends p (p.generatorRan id tasks errors) tasks := by
  unfold generatorRan
  rw [h]
  constructor
  · intro id'
    unfold IdMap.contains
    dsimp only
    by_cases e : id' = id
    · rw [e, IdMap.find?_insert_self, h]
      rfl
    · rw [IdMap.find?_insert_of_ne _ e]
  · intro id'
    unfold IdMap.contains
    rw [find?_addChildren]
    cases p.children.find? id' with
    | some e => simp
    | none => by_cases new : id' ∈ tasks <;> simp [new]

theorem generatorRan_fansOut {g : GeneratorEntry} (h : p.generators.find? id = some g)
    (tasks : List Identifier) (errors : List String) :
    FansOut p (p.generatorRan id tasks errors) id g.standing tasks errors := by
  refine ⟨generatorRan_extends h tasks errors, ?_, ?_⟩
  · rw [generatorRan, h]
    dsimp only
    rw [standing?, IdMap.find?_insert_self]
    rfl
  · intro id' ne
    rw [generatorRan, h]
    unfold standing?
    dsimp only
    rw [IdMap.find?_insert_of_ne _ ne, find?_addChildren]
    cases p.generators.find? id' with
    | some g' => rfl
    | none =>
      cases p.children.find? id' with
      | some e => rfl
      | none => by_cases new : id' ∈ tasks <;> simp [new, Entry.standing, Standing.fresh]

end Progress

end GatedMigration
