import GatedMigration.Proofs.Invariant

/-!
# What progress uses up

A run has room for so much progress (`Progress.room`): a pending migration may fan out and be
closed, a task may come to its end. Whatever counts as progress uses up some room, and a task that a
migration brings makes room for one more step, its own (`Progress.Spends`). So there is progress no
more often than twice for each migration and once for each task.

* `Moment.next_spends`: each step of a run uses up as much room as it makes progress.
-/

namespace GatedMigration

namespace Progress

/-- How often there may be progress, but for that of tasks to come: twice for a pending migration,
once for whatever else is unfinished. -/
def room (p : Progress) : Nat := 2 * p.waiting + p.unfinished

/-- From `p` to `q`, within a round, there was progress so often: it has used up room, and new tasks
have made some. -/
structure Spends (p q : Progress) (times : Nat) : Prop where
  room : q.room + times + p.children.size ≤ p.room + q.children.size
  rounds : q.rounds = p.rounds
  idleRounds : q.idleRounds = p.idleRounds
  maxIdleRounds : q.maxIdleRounds = p.maxIdleRounds

variable {p : Progress} {id : Identifier}

theorem Spends.rfl : Spends p p 0 := ⟨Nat.le_refl _, Eq.refl _, Eq.refl _, Eq.refl _⟩

theorem observe_spends (p : Progress) (id : Identifier) (state : Readiness) :
    Spends p (p.observe id state) 0 := by
  obtain ⟨waiting, unfinished, borne, idle⟩ := level_observe p id state
  have same : (p.observe id state).rounds = p.rounds ∧
      (p.observe id state).children.size = p.children.size := by
    unfold observe
    split
    · exact ⟨Eq.refl _, Eq.refl _⟩
    · exact ⟨Eq.refl _, IdMap.size_adjust _ _ _⟩
  refine ⟨?_, same.1, idle, borne⟩
  unfold room
  omega

/-- Each new task is pending. -/
theorem count_addChildren (children : IdMap Entry) (ids : List Identifier) :
    (addChildren children ids).count (fun e => e.phase == .pending) + children.size =
      children.count (fun e => e.phase == .pending) + (addChildren children ids).size := by
  induction ids generalizing children with
  | nil => exact Eq.refl _
  | cons id ids ih =>
    show (addChildren (if children.contains id then children else children.insert id {})
      ids).count _ + _ = _ +
        (addChildren (if children.contains id then children else children.insert id {}) ids).size
    split
    · exact ih children
    · rename_i unknown
      have new : children.find? id = none := IdMap.find?_of_not_contains (by simpa using unknown)
      have later := ih (children.insert id {})
      rw [IdMap.count_insert_new new, IdMap.size_insert_new new] at later
      simp only [show (({} : Entry).phase == .pending) = true from by decide, if_true] at later
      omega

theorem generatorRan_spends {g : GeneratorEntry} (h : p.generators.find? id = some g)
    (pending : g.entry.phase = .pending) (tasks : List Identifier) (errors : List String) :
    Spends p (p.generatorRan id tasks errors) 1 := by
  have count := IdMap.count_insert_old h
    { entry := { g.entry with
        phase := .running, lastState := some .ready, errors := g.entry.errors ++ errors }
      children := g.children ++ tasks }
  have waiting := count fun g => g.entry.phase == .pending
  have running := count fun g => g.entry.phase == .running
  have new := count_addChildren p.children tasks
  simp [pending] at waiting running
  unfold generatorRan
  rw [h]
  refine ⟨?_, Eq.refl _, Eq.refl _, Eq.refl _⟩
  unfold room Progress.waiting unfinished
  dsimp only
  omega

/-- A migration that comes to its end uses up its room. -/
theorem adjust_generator_spends {g : GeneratorEntry} (h : p.generators.find? id = some g)
    (unfinished : g.entry.phase = .pending ∨ g.entry.phase = .running)
    {f : GeneratorEntry → GeneratorEntry} (asked : ((f g).entry.phase == .pending) = false)
    (closed : ((f g).entry.phase == .running) = false) :
    Spends p { p with generators := p.generators.adjust id f } 1 := by
  have waiting := IdMap.count_insert_old h (f g) fun g => g.entry.phase == .pending
  have running := IdMap.count_insert_old h (f g) fun g => g.entry.phase == .running
  have changed : p.generators.adjust id f = p.generators.insert id (f g) := by
    rw [IdMap.adjust, h]
  refine ⟨?_, Eq.refl _, Eq.refl _, Eq.refl _⟩
  unfold room Progress.waiting Progress.unfinished
  rw [changed]
  dsimp only
  rcases unfinished with phase | phase <;> simp [phase, asked, closed] at waiting running <;> omega

theorem generatorPassed_spends {g : GeneratorEntry} (h : p.generators.find? id = some g)
    (pending : g.entry.phase = .pending) (errors : List String) :
    Spends p (p.generatorPassed id errors) 1 :=
  adjust_generator_spends h (Or.inl pending) (finish_phase_ne _ errors (by decide) (by decide))
    (finish_phase_ne _ errors (by decide) (by decide))

theorem finalizeGenerator_spends {g : GeneratorEntry} (h : p.generators.find? id = some g)
    (running : g.entry.phase = .running) (errors : List String) :
    Spends p (p.finalizeGenerator id errors) 1 :=
  adjust_generator_spends h (Or.inr running) (finish_phase_ne _ _ (by decide) (by decide))
    (finish_phase_ne _ _ (by decide) (by decide))

/-- A task that comes to its end uses up its room. -/
theorem adjust_child_spends {e : Entry} (h : p.children.find? id = some e)
    (pending : e.phase = .pending) {f : Entry → Entry} (ends : ((f e).phase == .pending) = false) :
    Spends p { p with children := p.children.adjust id f } 1 := by
  have fewer := IdMap.count_adjust_lt h (t := fun e => e.phase == .pending) (by simp [pending]) ends
  have same := IdMap.size_adjust p.children id f
  refine ⟨?_, Eq.refl _, Eq.refl _, Eq.refl _⟩
  unfold room Progress.waiting unfinished
  dsimp only
  omega

theorem childExecuted_spends {e : Entry} (h : p.children.find? id = some e)
    (pending : e.phase = .pending) (errors : List String) :
    Spends p (p.childExecuted id errors) 1 :=
  adjust_child_spends h pending (finish_phase_ne _ errors (by decide) (by decide))

theorem childPassed_spends {e : Entry} (h : p.children.find? id = some e)
    (pending : e.phase = .pending) (errors : List String) :
    Spends p (p.childPassed id errors) 1 :=
  adjust_child_spends h pending (finish_phase_ne _ errors (by decide) (by decide))

/-- There is room at the start for two steps of each migration. -/
theorem room_start_le (ids : List Identifier) (maxIdleRounds : Nat) :
    (start ids maxIdleRounds).room ≤ 2 * ids.length := by
  have most := IdMap.size_ofList_le (ids.map fun id => (id, ({} : GeneratorEntry)))
  rw [List.length_map] at most
  have waiting : (start ids maxIdleRounds).waiting ≤ ids.length :=
    Nat.le_trans (IdMap.count_le_size _ _) most
  have running : (start ids maxIdleRounds).generators.count
      (fun g => g.entry.phase == .running) = 0 := by
    refine List.countP_eq_zero.2 fun x mem => ?_
    have found := Keyed.find?_of_mem (start ids maxIdleRounds).generators.ascending mem
    obtain ⟨_, -, -, fresh⟩ :=
      IdMap.find?_ofList ids (fun id => id) (fun _ => ({} : GeneratorEntry)) found
    rw [← fresh]
    decide
  have none : (start ids maxIdleRounds).unfinished = 0 := running
  unfold room
  omega

end Progress

namespace RunState

open Progress (Spends)

variable {env : Environment} {s : RunState} {id : Identifier}

theorem advance_spends (env : Environment) {g : GeneratorEntry}
    (h : s.progress.generators.find? id = some g) (pending : g.entry.phase = .pending) :
    Spends s.progress (s.advance env id).1.progress ((s.advance env id).2 == .moved).toNat := by
  unfold advance
  split
  · exact .rfl
  split
  · exact .rfl
  · split
    · exact .rfl
    · exact Progress.generatorRan_spends h pending _ _
  · split
    · exact .rfl
    · exact Progress.generatorPassed_spends h pending _
  · exact Progress.observe_spends _ _ _

theorem work_spends {workers : Nat} {flights : List Flight} {r : RunState × List Flight × Step}
    (expected : s.Expects flights) (works : Works env workers flights s r) :
    Spends s.progress r.1.progress (r.2.2 == .moved).toNat := by
  cases works with
  | goesOn => exact .rfl
  | ends before f behind world verdict among =>
    obtain ⟨e, found, pending⟩ :=
      expected.pending f (among ▸ List.mem_append_cons_self)
    cases verdict with
    | executed errors => exact Progress.childExecuted_spends found pending errors
    | passed errors => exact Progress.childPassed_spends found pending errors
    | waiting state => exact Progress.observe_spends _ _ _
    | canceled | lost => exact .rfl

theorem close_spends (env : Environment) (hasErrors : Bool) {g : GeneratorEntry}
    (h : s.progress.generators.find? id = some g) (running : g.entry.phase = .running) :
    Spends s.progress (s.close env id hasErrors).1.progress
      ((s.close env id hasErrors).2 == .moved).toNat := by
  unfold close
  split
  · exact .rfl
  · exact Progress.finalizeGenerator_spends h running _

end RunState

end GatedMigration
