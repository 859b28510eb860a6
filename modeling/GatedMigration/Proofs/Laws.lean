import GatedMigration.Proofs.Standing

/-!
# The laws of the bookkeeping

What is finished without errors has none, and neither have its tasks; the tasks of what is finished
are finished (`Progress.Lawful`). The laws hold at the start and are kept by whatever happens to a
standing (`Stands.lawful`, `FansOut.lawful`, `Settles.lawful`), since what is finished stays as it
is.
-/

namespace GatedMigration.Progress

/-- The laws of the bookkeeping. -/
structure Lawful (p : Progress) : Prop where
  /-- What has not begun, or had nothing to do, has no errors and no tasks. -/
  bare : ∀ {id st}, p.standing? id = some st → st.phase = .pending ∨ st.phase = .passed →
    st.errors = [] ∧ st.tasks = []
  /-- What has succeeded has no errors, and all its tasks are finished without errors. -/
  clean : ∀ {id st}, p.standing? id = some st → st.phase = .succeeded →
    st.errors = [] ∧ ∀ c ∈ st.tasks, ∃ st', p.standing? c = some st' ∧ st'.phase.isClean = true
  /-- All tasks of what is finished are finished. -/
  finished : ∀ {id st}, p.standing? id = some st → st.phase.isTerminal = true →
    ∀ c ∈ st.tasks, ∃ st', p.standing? c = some st' ∧ st'.phase.isTerminal = true
  /-- The tasks of migrations are known. -/
  tasks : ∀ {id st}, p.standing? id = some st → ∀ c ∈ st.tasks, p.children.contains c = true
  /-- No task is a migration. -/
  apart : ∀ {c}, p.children.contains c = true → p.generators.contains c = false
  /-- Only migrations run: a task is pending until it is finished. -/
  runs : ∀ {id st}, p.standing? id = some st → st.phase = .running → p.generators.contains id = true

variable {p q : Progress} {id : Identifier}

/-- From `p` to `q` whatever is finished stays as it is. -/
def Keeps (p q : Progress) : Prop :=
  ∀ {id st}, p.standing? id = some st → st.phase.isTerminal = true → q.standing? id = some st

theorem Keeps.trans {r : Progress} (h : Keeps p q) (k : Keeps q r) : Keeps p r :=
  fun at_id finished => k (h at_id finished) finished

/-- A migration or a task has come to its end without errors. -/
def Clean (p : Progress) (id : Identifier) : Prop :=
  ∃ st, p.standing? id = some st ∧ st.phase.isClean = true

theorem Keeps.clean (h : Keeps p q) (clean : p.Clean id) : q.Clean id := by
  obtain ⟨st, at_id, is_clean⟩ := clean
  exact ⟨st, h at_id (Phase.isTerminal_of_isClean is_clean), is_clean⟩

/-- The tasks of what has succeeded are still free of errors later. -/
theorem Lawful.clean_kept (laws : p.Lawful) (keeps : Keeps p q) {st : Standing}
    (at_id : p.standing? id = some st) (succeeded : st.phase = .succeeded) :
    st.errors = [] ∧
      ∀ c ∈ st.tasks, ∃ st', q.standing? c = some st' ∧ st'.phase.isClean = true := by
  obtain ⟨errors, all⟩ := laws.clean at_id succeeded
  refine ⟨errors, fun c mem => ?_⟩
  obtain ⟨st', at_c, clean⟩ := all c mem
  exact ⟨st', keeps at_c (Phase.isTerminal_of_isClean clean), clean⟩

/-- The tasks of what is finished are still finished later. -/
theorem Lawful.finished_kept (laws : p.Lawful) (keeps : Keeps p q) {st : Standing}
    (at_id : p.standing? id = some st) (finished : st.phase.isTerminal = true) :
    ∀ c ∈ st.tasks, ∃ st', q.standing? c = some st' ∧ st'.phase.isTerminal = true := by
  intro c mem
  obtain ⟨st', at_c, terminal⟩ := laws.finished at_id finished c mem
  exact ⟨st', keeps at_c terminal, terminal⟩

/-! ## The start -/

theorem start_contains (ids : List Identifier) (maxIdleRounds : Nat) (id : Identifier) :
    (start ids maxIdleRounds).generators.contains id = true ↔ id ∈ ids := by
  show (IdMap.ofList (ids.map fun id => (id, ({} : GeneratorEntry)))).contains id = true ↔ _
  rw [IdMap.contains_ofList ids (fun id => id) fun _ => ({} : GeneratorEntry), List.map_id']

/-- At the start everything is pending. -/
theorem start_standing {ids : List Identifier} {maxIdleRounds : Nat} {st : Standing}
    (h : (start ids maxIdleRounds).standing? id = some st) : st = .fresh := by
  unfold standing? start at h
  dsimp only at h
  split at h
  · rename_i g found
    obtain ⟨_, _, _, rfl⟩ :=
      IdMap.find?_ofList ids (fun id => id) (fun _ => ({} : GeneratorEntry)) found
    exact (Option.some.inj h).symm
  · cases h

theorem start_lawful (ids : List Identifier) (maxIdleRounds : Nat) :
    (start ids maxIdleRounds).Lawful := by
  constructor
  · intro id st at_id _
    rw [start_standing at_id]
    exact ⟨rfl, rfl⟩
  · intro id st at_id succeeded
    rw [start_standing at_id] at succeeded
    cases succeeded
  · intro id st at_id finished
    rw [start_standing at_id] at finished
    cases finished
  · intro id st at_id c mem
    rw [start_standing at_id] at mem
    cases mem
  · intro c known
    cases known
  · intro id st at_id running
    rw [start_standing at_id] at running
    cases running

/-! ## What stands as before -/

theorem Stands.keeps (h : Stands p q) : Keeps p q := fun at_id _ => h.standing ▸ at_id

theorem Stands.lawful (h : Stands p q) (laws : p.Lawful) : q.Lawful := by
  obtain ⟨⟨generators, children⟩, standing⟩ := h
  simp only [List.not_mem_nil, or_false] at children
  constructor
  · rw [standing]
    exact laws.bare
  · rw [standing]
    exact laws.clean
  · rw [standing]
    exact laws.finished
  · rw [standing]
    exact fun at_id c mem => (children c).2 (laws.tasks at_id c mem)
  · intro c known
    rw [generators]
    exact laws.apart ((children c).1 known)
  · rw [standing]
    exact fun at_id running => (generators _).trans (laws.runs at_id running)

/-! ## What fans out -/

section FansOut

variable {old : Standing} {tasks : List Identifier} {errors : List String}
  (h : FansOut p q id old tasks errors) (before : p.standing? id = some old)

include h

/-- What stands after a migration has fanned out stood there before, or is new, or is the migration
itself. -/
theorem FansOut.stood {id' : Identifier} {st : Standing} (at_id : q.standing? id' = some st) :
    p.standing? id' = some st ∨ st = .fresh ∨
      id' = id ∧ st = ⟨.running, old.errors ++ errors, old.tasks ++ tasks⟩ := by
  by_cases e : id' = id
  · subst e
    rw [h.self] at at_id
    exact Or.inr (Or.inr ⟨rfl, (Option.some.inj at_id).symm⟩)
  · rw [h.others id' e] at at_id
    cases at_id' : p.standing? id' with
    | some st' =>
      rw [at_id', Option.some_or] at at_id
      exact Or.inl at_id
    | none =>
      rw [at_id', Option.none_or] at at_id
      split at at_id
      · exact Or.inr (Or.inl (Option.some.inj at_id).symm)
      · cases at_id

include before

/-- What is not pending stays as it is. -/
theorem FansOut.begun (pending : old.phase = .pending) {id' : Identifier} {st : Standing}
    (at_id : p.standing? id' = some st) (begun : st.phase ≠ .pending) :
    q.standing? id' = some st := by
  have ne : id' ≠ id := by
    rintro rfl
    cases at_id.symm.trans before
    exact begun pending
  rw [h.others id' ne, at_id, Option.some_or]

theorem FansOut.keeps (pending : old.phase = .pending) : Keeps p q := fun at_id finished =>
  h.begun before pending at_id fun idle => by
    rw [idle] at finished
    cases finished

theorem FansOut.lawful (migration : p.generators.contains id = true)
    (pending : old.phase = .pending) (laws : p.Lawful)
    (new : ∀ c ∈ tasks, p.generators.contains c = false) : q.Lawful := by
  have keeps : Keeps p q := h.keeps before pending
  obtain ⟨-, none⟩ := laws.bare before (Or.inl pending)
  constructor
  · intro id' st at_id idle
    rcases h.stood at_id with at_id | rfl | ⟨rfl, rfl⟩
    · exact laws.bare at_id idle
    · exact ⟨rfl, rfl⟩
    · rcases idle with idle | idle <;> cases idle
  · intro id' st at_id succeeded
    rcases h.stood at_id with at_id | rfl | ⟨rfl, rfl⟩
    · exact laws.clean_kept keeps at_id succeeded
    · cases succeeded
    · cases succeeded
  · intro id' st at_id finished
    rcases h.stood at_id with at_id | rfl | ⟨rfl, rfl⟩
    · exact laws.finished_kept keeps at_id finished
    · cases finished
    · cases finished
  · intro id' st at_id c mem
    rcases h.stood at_id with at_id | rfl | ⟨rfl, rfl⟩
    · exact (h.children c).2 (Or.inl (laws.tasks at_id c mem))
    · cases mem
    · rw [none] at mem
      exact (h.children c).2 (Or.inr mem)
  · intro c known
    rw [h.generators]
    rcases (h.children c).1 known with known | mem
    · exact laws.apart known
    · exact new c mem
  · intro id' st at_id running
    rw [h.generators]
    rcases h.stood at_id with at_id | rfl | ⟨rfl, rfl⟩
    · exact laws.runs at_id running
    · cases running
    · exact migration

end FansOut

/-! ## What comes to its end -/

section Settles

variable {old st : Standing} (h : Settles p q id st) (before : p.standing? id = some old)

include h

theorem Settles.stood {id' : Identifier} {st' : Standing} (at_id : q.standing? id' = some st') :
    p.standing? id' = some st' ∨ st' = st := by
  by_cases e : id' = id
  · subst e
    rw [h.self] at at_id
    exact Or.inr (Option.some.inj at_id).symm
  · rw [h.others id' e] at at_id
    exact Or.inl at_id

include before

theorem Settles.keeps (unfinished : old.phase.isTerminal = false) : Keeps p q := by
  intro id' st' at_id finished
  have ne : id' ≠ id := by
    rintro rfl
    cases at_id.symm.trans before
    rw [unfinished] at finished
    cases finished
  rw [h.others id' ne, at_id]

end Settles

/-- What comes to its end is not pending then, and keeps its tasks; nothing else changes. -/
theorem Settles.begun {old : Standing} {clean : Phase} {errors : List String}
    (h : Settles p q id (old.finish clean errors)) (before : p.standing? id = some old)
    (terminal : clean.isTerminal = true) {id' : Identifier} {st : Standing}
    (at_id : p.standing? id' = some st) (begun : st.phase ≠ .pending) :
    ∃ st', q.standing? id' = some st' ∧ st'.phase ≠ .pending ∧ st'.tasks = st.tasks := by
  by_cases e : id' = id
  · subst e
    cases at_id.symm.trans before
    refine ⟨_, h.self, fun pending => ?_, rfl⟩
    have finished := old.finish_terminal terminal errors
    rw [pending] at finished
    cases finished
  · exact ⟨st, (h.others id' e).trans at_id, begun, rfl⟩

/-- What comes to its end does so lawfully if all its tasks have, and are free of errors if it
is. -/
theorem Settles.lawful {old : Standing} {clean : Phase} {errors : List String}
    (h : Settles p q id (old.finish clean errors)) (before : p.standing? id = some old)
    (unfinished : old.phase.isTerminal = false)
    (how : clean = .succeeded ∨ clean = .passed ∧ old.phase = .pending)
    (done : ∀ c ∈ old.tasks, ∃ st, p.standing? c = some st ∧
      st.phase.isTerminal = true ∧ (old.errors ++ errors = [] → st.phase.isClean = true))
    (laws : p.Lawful) : q.Lawful := by
  have keeps : Keeps p q := h.keeps before unfinished
  have children := h.children
  simp only [List.not_mem_nil, or_false] at children
  constructor
  · intro id' st at_id idle
    rcases h.stood at_id with at_id | rfl
    · exact laws.bare at_id idle
    rcases old.finish_phase clean errors with ⟨phase, no_errors⟩ | ⟨phase, -⟩
    · rw [phase] at idle
      rcases how with rfl | ⟨rfl, pending⟩
      · rcases idle with idle | idle <;> cases idle
      · exact ⟨no_errors, (laws.bare before (Or.inl pending)).2⟩
    · rw [phase] at idle
      rcases idle with idle | idle <;> cases idle
  · intro id' st at_id succeeded
    rcases h.stood at_id with at_id | rfl
    · exact laws.clean_kept keeps at_id succeeded
    rcases old.finish_phase clean errors with ⟨-, no_errors⟩ | ⟨phase, -⟩
    · refine ⟨no_errors, fun c mem => ?_⟩
      obtain ⟨st', at_c, terminal, clean⟩ := done c mem
      exact ⟨st', keeps at_c terminal, clean no_errors⟩
    · rw [phase] at succeeded
      cases succeeded
  · intro id' st at_id finished
    rcases h.stood at_id with at_id | rfl
    · exact laws.finished_kept keeps at_id finished
    intro c mem
    obtain ⟨st', at_c, terminal, -⟩ := done c mem
    exact ⟨st', keeps at_c terminal, terminal⟩
  · intro id' st at_id c mem
    rcases h.stood at_id with at_id | rfl
    · exact (children c).2 (laws.tasks at_id c mem)
    · exact (children c).2 (laws.tasks before c mem)
  · intro c known
    rw [h.generators]
    exact laws.apart ((children c).1 known)
  · intro id' st at_id running
    rw [h.generators]
    rcases h.stood at_id with at_id | rfl
    · exact laws.runs at_id running
    · have terminal : (old.finish clean errors).phase.isTerminal = true :=
        old.finish_terminal (by rcases how with rfl | ⟨rfl, -⟩ <;> rfl) errors
      rw [running] at terminal
      cases terminal

/-! ## Settled migrations -/

/-- Whether a task is done says whether it stands finished. -/
theorem Lawful.isDone_iff (laws : p.Lawful) {c : Identifier}
    (known : p.children.contains c = true) :
    p.isDone c = true ↔ ∃ st, p.standing? c = some st ∧ st.phase.isTerminal = true := by
  obtain ⟨e, found⟩ := IdMap.find?_of_contains known
  rw [isDone, found, standing?_of_child (laws.apart known) found]
  refine ⟨fun done => ⟨_, rfl, done⟩, fun ⟨st, same, done⟩ => ?_⟩
  cases same
  exact done

theorem failedChildrenErrors_eq_nil {n : Nat} : failedChildrenErrors n = [] ↔ n = 0 := by
  unfold failedChildrenErrors
  split
  · rename_i zero
    exact ⟨fun _ => zero, fun _ => rfl⟩
  · rename_i some
    exact ⟨fun none => (by cases none), fun zero => absurd zero some⟩

/-- A task of a settled migration is finished, and without errors if none has failed. -/
theorem Lawful.settled_done (lawful : p.Lawful) {id : Identifier} {g : GeneratorEntry}
    (h : p.generators.find? id = some g) (settled : p.isSettled g = true) {c : Identifier}
    (mem : c ∈ g.children) :
    ∃ st, p.standing? c = some st ∧ st.phase.isTerminal = true ∧
      (p.failedChildren g = 0 → st.phase.isClean = true) := by
  have known := lawful.tasks (standing?_of_generator h) c mem
  have task := lawful.apart known
  obtain ⟨e, he⟩ := IdMap.find?_of_contains known
  simp only [isSettled, Bool.and_eq_true, List.all_eq_true] at settled
  have terminal : e.phase.isTerminal = true := by
    have := settled.2 c mem
    rwa [isDone, he] at this
  refine ⟨e.standing, standing?_of_child task he, terminal, fun none => ?_⟩
  have unfailed : ¬p.hasFailed c = true := by
    rw [failedChildren, List.length_eq_zero_iff, List.filter_eq_nil_iff] at none
    exact none c mem
  rw [hasFailed, he] at unfailed
  exact Phase.isClean_of_isTerminal terminal fun failed => unfailed (beq_iff_eq.2 failed)

end GatedMigration.Progress
