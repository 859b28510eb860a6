import GatedMigration.Proofs.Forward
import GatedMigration.Proofs.Rounds

/-!
# Whatever the bookkeeping is told

A run tells its bookkeeping only what is listed as waiting for it. Here it is told anything at all
(`Progress.Command`): about identifiers that it does not know, about what is finished, in any order
and any number of times. Two things stay true (`Progress.Workable`): the tasks of migrations are
known, and no task is ever running. So something is listed as long as the run is not finished.

* `Progress.exists_listed`: what is left to do while something is unfinished.
* `Progress.finished_iff_nothing_listed`: the same after any commands, as an equivalence.
* `World.moment_workable`: the same of every moment of a run.
-/

namespace GatedMigration

/-- The value of an identifier after a change of one value. -/
theorem IdMap.find?_adjust {α : Type} (m : IdMap α) (k k' : Identifier) (f : α → α) :
    (m.adjust k f).find? k' = if k' = k then (m.find? k').map f else m.find? k' := by
  split
  · rename_i same
    rw [same, find?_adjust_self]
  · rename_i ne
    exact find?_adjust_of_ne m ne f

namespace Progress

/-- What the bookkeeping can be told. -/
inductive Command where
  | observe (id : Identifier) (state : Readiness)
  | generatorRan (id : Identifier) (tasks : List Identifier) (errors : List String)
  | generatorPassed (id : Identifier) (errors : List String)
  | childExecuted (id : Identifier) (errors : List String)
  | childPassed (id : Identifier) (errors : List String)
  | finalizeGenerator (id : Identifier) (errors : List String)
  | endRound (progressed : Bool)

/-- The bookkeeping after a command. -/
def obey (p : Progress) : Command → Progress
  | .observe id state => p.observe id state
  | .generatorRan id tasks errors => p.generatorRan id tasks errors
  | .generatorPassed id errors => p.generatorPassed id errors
  | .childExecuted id errors => p.childExecuted id errors
  | .childPassed id errors => p.childPassed id errors
  | .finalizeGenerator id errors => p.finalizeGenerator id errors
  | .endRound progressed => p.endRound progressed

/-- The bookkeeping after commands. -/
def after (p : Progress) (cs : List Command) : Progress := cs.foldl obey p

variable {p q : Progress} {id : Identifier}

@[simp] theorem after_nil (p : Progress) : p.after [] = p := rfl

@[simp] theorem after_cons (p : Progress) (c : Command) (cs : List Command) :
    p.after (c :: cs) = (p.obey c).after cs := rfl

theorem after_append (p : Progress) (cs cs' : List Command) :
    p.after (cs ++ cs') = (p.after cs).after cs' := List.foldl_append

/-- A move is a command. -/
theorem Move.command (h : Move p q) : ∃ c, q = p.obey c := by
  cases h with
  | observe id state => exact ⟨.observe id state, rfl⟩
  | @generatorRan id _ tasks errors => exact ⟨.generatorRan id tasks errors, rfl⟩
  | @generatorPassed id _ errors => exact ⟨.generatorPassed id errors, rfl⟩
  | @childExecuted id _ errors => exact ⟨.childExecuted id errors, rfl⟩
  | @childPassed id _ errors => exact ⟨.childPassed id errors, rfl⟩
  | @finalizeGenerator id _ errors => exact ⟨.finalizeGenerator id errors, rfl⟩
  | endRound progressed => exact ⟨.endRound progressed, rfl⟩

/-- Moves are commands. -/
theorem commands_of_moves (moves : Relation.ReflTransGen Move p q) : ∃ cs, q = p.after cs := by
  induction moves with
  | refl => exact ⟨[], rfl⟩
  | tail _ move ih =>
    obtain ⟨cs, rfl⟩ := ih
    obtain ⟨c, rfl⟩ := move.command
    exact ⟨cs ++ [c], (after_append p cs [c]).symm⟩

/-! ## What a command does to the two maps -/

/-- A command makes no migration known or unknown. -/
theorem obey_contains (p : Progress) (c : Command) (id : Identifier) :
    (p.obey c).generators.contains id = p.generators.contains id := by
  cases c with
  | observe id' state => exact (observe_stands p id' state).generators id
  | generatorRan id' tasks errors =>
    show (p.generatorRan id' tasks errors).generators.contains id = _
    cases found : p.generators.find? id' with
    | none => rw [generatorRan, found]
    | some g => exact (generatorRan_extends found tasks errors).generators id
  | generatorPassed | finalizeGenerator => exact IdMap.contains_adjust _ _ _ _
  | childExecuted | childPassed | endRound => rfl

/-- The tasks that a command tells of as new. -/
def Command.newTasks : Command → List Identifier
  | generatorRan _ tasks _ => tasks
  | _ => []

/-- A task that is known after a command was known before, or the command tells of it. -/
theorem obey_task_known {c : Command} {t : Identifier}
    (known : (p.obey c).children.contains t = true) :
    p.children.contains t = true ∨ t ∈ c.newTasks := by
  cases c with
  | observe id state =>
    exact Or.inl
      (((observe_stands p id state).children t).1 known |>.resolve_right List.not_mem_nil)
  | generatorRan id tasks errors =>
    cases found : p.generators.find? id with
    | none =>
      rw [obey, generatorRan, found] at known
      exact Or.inl known
    | some g => exact ((generatorRan_extends found tasks errors).children t).1 known
  | childExecuted | childPassed => exact Or.inl ((IdMap.contains_adjust _ _ _ _).symm.trans known)
  | generatorPassed | finalizeGenerator | endRound => exact Or.inl known

/-- What is known as a task stays known. -/
theorem obey_keeps_task (c : Command) {t : Identifier} (known : p.children.contains t = true) :
    (p.obey c).children.contains t = true := by
  cases c with
  | observe id state => exact ((observe_stands p id state).children t).2 (Or.inl known)
  | generatorRan id tasks errors =>
    show (p.generatorRan id tasks errors).children.contains t = true
    cases found : p.generators.find? id with
    | none =>
      rw [generatorRan, found]
      exact known
    | some g => exact ((generatorRan_extends found tasks errors).children t).2 (Or.inl known)
  | childExecuted | childPassed => exact (IdMap.contains_adjust _ _ _ _).trans known
  | generatorPassed | finalizeGenerator | endRound => exact known

/-! ## The bookkeeping stays workable -/

/-- The tasks of migrations are known, and no task is running. -/
structure Workable (p : Progress) : Prop where
  known : ∀ {id g}, p.generators.find? id = some g → ∀ c ∈ g.children,
    p.children.contains c = true
  halted : ∀ {id e}, p.children.find? id = some e → e.phase ≠ .running

theorem start_workable (ids : List Identifier) (maxIdleRounds : Nat) :
    (start ids maxIdleRounds).Workable := by
  refine ⟨fun found c mem => ?_, fun found => by cases found⟩
  obtain ⟨_, _, _, rfl⟩ :=
    IdMap.find?_ofList ids (fun id => id) (fun _ => ({} : GeneratorEntry)) found
  cases mem

/-- What comes to its end does not run. -/
theorem finish_not_running (e : Entry) {clean : Phase} (terminal : clean ≠ .running)
    (errors : List String) : (e.finish clean errors).phase ≠ .running := by
  rw [finish_phase_eq]
  split
  · exact terminal
  · exact Phase.noConfusion

/-- A migration has no tasks after a command but those it had and those the command tells of. -/
theorem obey_tasks {c : Command} {g' : GeneratorEntry}
    (found' : (p.obey c).generators.find? id = some g') :
    ∃ g, p.generators.find? id = some g ∧
      ∀ t ∈ g'.children, t ∈ g.children ∨ (p.obey c).children.contains t = true := by
  -- A change of one migration that keeps its tasks.
  have changed {id' : Identifier} {f : GeneratorEntry → GeneratorEntry}
      (found' : (p.generators.adjust id' f).find? id = some g')
      (tasks : ∀ g, (f g).children = g.children) :
      ∃ g, p.generators.find? id = some g ∧
        ∀ t ∈ g'.children, t ∈ g.children ∨ (p.obey c).children.contains t = true := by
    rw [IdMap.find?_adjust] at found'
    split at found'
    · obtain ⟨g, found, rfl⟩ := Option.map_eq_some_iff.1 found'
      exact ⟨g, found, fun t mem => Or.inl (tasks g ▸ mem)⟩
    · exact ⟨g', found', fun t mem => Or.inl mem⟩
  cases c with
  | observe id' state =>
    simp only [obey, observe] at found'
    split at found'
    · exact changed found' fun _ => rfl
    · exact ⟨g', found', fun t mem => Or.inl mem⟩
  | generatorRan id' tasks errors =>
    simp only [obey] at found' ⊢
    cases found : p.generators.find? id' with
    | none =>
      rw [generatorRan, found] at found'
      exact ⟨g', found', fun t mem => Or.inl mem⟩
    | some g =>
      have new := (generatorRan_extends found tasks errors).children
      rw [generatorRan, found] at found'
      by_cases e : id = id'
      · subst e
        cases (IdMap.find?_insert_self _ _ _).symm.trans found'
        refine ⟨g, found, fun t mem => (List.mem_append.1 mem).imp_right fun mem => ?_⟩
        exact (new t).2 (Or.inr mem)
      · exact ⟨g', (IdMap.find?_insert_of_ne _ e _).symm.trans found', fun t mem => Or.inl mem⟩
  | generatorPassed | finalizeGenerator => exact changed found' fun _ => rfl
  | childExecuted | childPassed | endRound => exact ⟨g', found', fun t mem => Or.inl mem⟩

/-- A command that does not let a task run leaves no task running. -/
theorem obey_halted (halted : ∀ {id e}, p.children.find? id = some e → e.phase ≠ .running)
    {c : Command} {e' : Entry} (found' : (p.obey c).children.find? id = some e') :
    e'.phase ≠ .running := by
  have changed {id' : Identifier} {f : Entry → Entry}
      (found' : (p.children.adjust id' f).find? id = some e')
      (kept : ∀ e, e.phase ≠ .running → (f e).phase ≠ .running) : e'.phase ≠ .running := by
    rw [IdMap.find?_adjust] at found'
    split at found'
    · obtain ⟨e, found, rfl⟩ := Option.map_eq_some_iff.1 found'
      exact kept e (halted found)
    · exact halted found'
  cases c with
  | observe id' state =>
    simp only [obey, observe] at found'
    split at found'
    · exact halted found'
    · exact changed found' fun _ kept => kept
  | generatorRan id' tasks errors =>
    simp only [obey, generatorRan] at found'
    split at found'
    · exact halted found'
    · dsimp only at found'
      rw [find?_addChildren] at found'
      rcases Option.or_eq_some_iff.1 found' with found | ⟨-, fresh⟩
      · exact halted found
      · split at fresh
        · cases fresh
          exact Phase.noConfusion
        · cases fresh
  | childExecuted | childPassed =>
    exact changed found' fun _ _ => finish_not_running _ Phase.noConfusion _
  | generatorPassed | finalizeGenerator | endRound => exact halted found'

theorem Workable.obey (h : p.Workable) (c : Command) : (p.obey c).Workable := by
  refine ⟨fun found' t mem => ?_, obey_halted h.halted⟩
  obtain ⟨g, found, tasks⟩ := obey_tasks found'
  rcases tasks t mem with mem | known
  · exact obey_keeps_task c (h.known found t mem)
  · exact known

theorem Workable.after (h : p.Workable) (cs : List Command) : (p.after cs).Workable := by
  induction cs generalizing p with
  | nil => exact h
  | cons c cs ih => exact ih (h.obey c)

/-! ## Something is listed -/

/-- A running migration is settled, or one of its tasks is pending. -/
theorem Workable.running (h : p.Workable) {g : GeneratorEntry}
    (found : p.generators.find? id = some g) (running : g.entry.phase = .running) :
    id ∈ p.settledGenerators.map Prod.fst ∨ ∃ c ∈ g.children, c ∈ p.pendingChildren := by
  by_cases all : ∀ c ∈ g.children, p.isDone c = true
  · exact Or.inl (mem_settledGenerators found (isSettled_iff.2 ⟨running, all⟩))
  · push Not at all
    obtain ⟨c, mem, undone⟩ := all
    obtain ⟨e, at_c⟩ := IdMap.find?_of_contains (h.known found c mem)
    refine Or.inr ⟨c, mem, mem_pendingChildren at_c ?_⟩
    have unfinished : e.phase.isTerminal ≠ true := fun finished =>
      undone (isDone_iff_entry.2 ⟨e, at_c, finished⟩)
    have halted := h.halted at_c
    cases phase : e.phase with
    | pending => rfl
    | running => exact absurd phase halted
    | succeeded | passed | failed =>
      rw [phase] at unfinished
      exact absurd rfl unfinished

/-- As long as something is unfinished there is a migration or a task to ask about, or a migration
to close. -/
theorem exists_listed (h : p.Workable) (unfinished : p.isFinished = false) :
    p.pendingGenerators ≠ [] ∨ p.pendingChildren ≠ [] ∨ p.settledGenerators ≠ [] := by
  rw [isFinished_eq_all, List.all_eq_false] at unfinished
  obtain ⟨⟨id, e⟩, entry, unfinished⟩ := unfinished
  rcases List.mem_append.1 entry with entry | mem
  · obtain ⟨⟨id', g⟩, mem, same⟩ := List.mem_map.1 entry
    cases same
    have found : p.generators.find? id' = some g := Keyed.find?_of_mem p.generators.ascending mem
    cases phase : g.entry.phase with
    | pending => exact Or.inl (List.ne_nil_of_mem (mem_pendingGenerators found phase))
    | running =>
      rcases h.running found phase with settled | ⟨c, -, pending⟩
      · exact Or.inr (Or.inr fun none => by rw [none] at settled; cases settled)
      · exact Or.inr (Or.inl (List.ne_nil_of_mem pending))
    | succeeded | passed | failed =>
      dsimp only at unfinished
      rw [phase] at unfinished
      exact absurd rfl unfinished
  · have found : p.children.find? id = some e := Keyed.find?_of_mem p.children.ascending mem
    have halted := h.halted found
    cases phase : e.phase with
    | pending => exact Or.inr (Or.inl (List.ne_nil_of_mem (mem_pendingChildren found phase)))
    | running => exact absurd phase halted
    | succeeded | passed | failed =>
      dsimp only at unfinished
      rw [phase] at unfinished
      exact absurd rfl unfinished

/-- When everything is finished nothing is listed. -/
theorem nothing_listed (finished : p.isFinished = true) :
    p.pendingGenerators = [] ∧ p.pendingChildren = [] ∧ p.settledGenerators = [] := by
  simp only [isFinished, IdMap.values, Bool.and_eq_true, List.all_eq_true, List.mem_map,
    forall_exists_index, and_imp, forall_apply_eq_imp_iff₂] at finished
  obtain ⟨migrations, tasks⟩ := finished
  unfold pendingGenerators pendingChildren settledGenerators
  simp only [List.map_eq_nil_iff, List.filter_eq_nil_iff, beq_iff_eq, isSettled, Bool.and_eq_true]
  refine ⟨fun g mem pending => ?_, fun c mem pending => ?_, fun g mem settled => ?_⟩
  · have finished := migrations g mem
    rw [pending] at finished
    cases finished
  · have finished := tasks c mem
    rw [pending] at finished
    cases finished
  · have finished := migrations g mem
    rw [settled.1] at finished
    cases finished

/-- After any commands everything is finished just if nothing is listed, and a migration that runs
is listed as settled or has a task that is listed as pending. -/
theorem finished_iff_nothing_listed (ids : List Identifier) (maxIdleRounds : Nat)
    (cs : List Command) :
    (((start ids maxIdleRounds).after cs).isFinished = true ↔
      ((start ids maxIdleRounds).after cs).pendingGenerators = [] ∧
      ((start ids maxIdleRounds).after cs).pendingChildren = [] ∧
      ((start ids maxIdleRounds).after cs).settledGenerators = []) ∧
    ∀ id g, ((start ids maxIdleRounds).after cs).generators.find? id = some g →
      g.entry.phase = .running →
      id ∈ ((start ids maxIdleRounds).after cs).settledGenerators.map Prod.fst ∨
        ∃ c ∈ g.children, c ∈ ((start ids maxIdleRounds).after cs).pendingChildren := by
  have workable := (start_workable ids maxIdleRounds).after cs
  generalize (start ids maxIdleRounds).after cs = p at workable ⊢
  refine ⟨⟨nothing_listed, fun ⟨generators, children, settled⟩ => ?_⟩,
    fun id g found running => workable.running found running⟩
  by_contra unfinished
  rcases exists_listed workable (eq_false_of_ne_true unfinished) with h | h | h
  · exact h generators
  · exact h children
  · exact h settled

end Progress

/-- At every moment of a run the bookkeeping is workable: as long as something is unfinished,
something is listed. -/
theorem World.moment_workable (w : World) (env : Environment) (options : RunOptions)
    (generators : List Generator) (n : Nat) :
    (w.moment env options generators n).state.progress.Workable := by
  have moves : Relation.ReflTransGen Progress.Move
      (.start (generators.map Generator.id) options.maxIdleRounds)
      (w.moment env options generators n).state.progress := w.moment_moves (Nat.zero_le n)
  obtain ⟨cs, told⟩ := Progress.commands_of_moves moves
  rw [told]
  exact (Progress.start_workable _ _).after cs

end GatedMigration
