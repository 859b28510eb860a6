import GatedMigration.Proofs.Generators
import GatedMigration.Proofs.Laws
import GatedMigration.Proofs.Prerequisites
import GatedMigration.Proofs.Scripts

/-!
# What a step of a run does

A step of a run has one of three effects (`RunState.Effect`): everything stands as before and
nothing is saved, a pending migration fans out, or one migration or task comes to its end, and then
its record is saved or its errors say that it was not (`World.Reports`).

* `Evaluation.step_leads`: what a step of a task at work saves.
* `RunState.advance_effect`, `work_effect`, `close_effect`: the effect of each kind of step.
-/

namespace GatedMigration

/-! ## Records and errors -/

/-- From `w` to `w'` the record of something that has ended with these errors was saved, or one of
the errors is that it was not. -/
def World.Reports (ns : Namespace) (id group : Identifier) (errors : List String) (w w' : World) :
    Prop :=
  World.Saves ns [.finished id group (!errors.isEmpty)] w w' ∨
    errors ≠ [] ∧ World.Saves ns [] w w'

theorem World.Reports.after {ns : Namespace} {id group : Identifier} {errors : List String}
    {w w' w'' : World} (h : Reports ns id group errors w' w'') (k : Saves ns [] w w') :
    Reports ns id group errors w w'' :=
  h.imp (·.after k) fun ⟨nonempty, quiet⟩ => ⟨nonempty, quiet.after k⟩

theorem World.Reports.before {ns : Namespace} {id group : Identifier} {errors : List String}
    {w w' w'' : World} (h : Reports ns id group errors w w') (k : Saves ns [] w' w'') :
    Reports ns id group errors w w'' :=
  h.imp (·.before k) fun ⟨nonempty, quiet⟩ => ⟨nonempty, quiet.before k⟩

/-- To save a record with the errors so far leaves the record, or one more error, unless the run is
cancelled. -/
theorem World.saveRecord_reports (ns : Namespace) (w : World) (id group : Identifier)
    (hasErrors : Bool) (errors : List String) (flag : hasErrors = !errors.isEmpty) :
    match w.saveRecord ns id group hasErrors with
    | (w', some more) => Reports ns id group (errors ++ more) w w'
    | (w', none) => Saves ns [] w w' := by
  rcases w.saveRecord_cases ns id group hasErrors with
    ⟨ok, saves⟩ | ⟨⟨text, failed⟩, quiet⟩ | ⟨canceled, quiet⟩
  · generalize w.saveRecord ns id group hasErrors = p at *
    obtain ⟨w', _⟩ := p
    cases ok
    subst flag
    exact Or.inl ((List.append_nil errors).symm ▸ saves)
  · generalize w.saveRecord ns id group hasErrors = p at *
    obtain ⟨w', _⟩ := p
    cases failed
    exact Or.inr ⟨List.append_ne_nil_of_right_ne_nil _ (List.cons_ne_nil _ _), quiet⟩
  · generalize w.saveRecord ns id group hasErrors = p at *
    obtain ⟨w', _⟩ := p
    cases canceled
    exact quiet

/-! ## Tasks -/

/-- What a verdict says about how a task has ended, if it has. -/
def Verdict.errors? : Verdict → Option (List String)
  | executed errors | passed errors => some errors
  | _ => none

/-- What is saved when a verdict is reached. -/
def Task.Concludes (t : Task) (ns : Namespace) (w : World) (r : World × Verdict) : Prop :=
  match r.2.errors? with
  | some errors => World.Reports ns t.id t.migration errors w r.1
  | none => World.Saves ns [] w r.1

theorem Task.Concludes.after {t : Task} {ns : Namespace} {w w' : World} {r : World × Verdict}
    (h : t.Concludes ns w' r) (k : World.Saves ns [] w w') : t.Concludes ns w r := by
  unfold Concludes at *
  split at h
  · exact World.Reports.after h k
  · exact World.Saves.after h k

/-- What a step of a task at work saves: nothing, unless it has the verdict. -/
def Task.Leads (t : Task) (ns : Namespace) (w : World) : World × Evaluation.Next → Prop
  | (w', .inl _) => World.Saves ns [] w w'
  | (w', .inr verdict) => t.Concludes ns w (w', verdict)

namespace Evaluation

variable {env : Environment}

theorem saved_leads {t : Task} {ending : Ending} {w : World}
    {p : World × Except StoreFailure Unit}
    (ended : World.Writes env.metadata (record t ending) w p) :
    t.Leads env.metadata w (saved t ending p) := by
  -- A record that was not written leaves an error.
  have failed (text : String) {w' : World} (quiet : World.Saves env.metadata [] w w') :
      World.Reports env.metadata t.id t.migration (ending.errors ++ [text]) w w' :=
    Or.inr ⟨List.append_ne_nil_of_right_ne_nil _ (List.cons_ne_nil _ _), quiet⟩
  rcases saved_cases ended with ⟨ends, saves⟩ | ⟨⟨text, ends⟩, quiet⟩ | ⟨ends, quiet⟩ <;>
    generalize saved t ending p = r at * <;> obtain ⟨w', next⟩ := r <;>
    obtain rfl : next = _ := ends
  · cases ending with
    | passed => exact Or.inl saves
    | executed error => exact Or.inl ((List.append_nil error.toList).symm ▸ saves)
  · cases ending with
    | passed => exact failed text quiet
    | executed error => exact failed text quiet
  · exact quiet

/-- A step of a task at work saves its record or reports that it has not, if it has the verdict, and
saves nothing otherwise. -/
theorem step_leads (t : Task) {e : Evaluation}
    (keeps : e.Obeys (fun a b => b.store.recordsOf.get env.metadata =
      a.store.recordsOf.get env.metadata) fun _ => True) (w : World) :
    t.Leads env.metadata w (e.step env t w) := by
  have frame := World.saves_frame env.metadata
  match e with
  | .asking i =>
    have asked := i.step_frame frame t.oracle env.metadata w
    rw [step]
    generalize i.step t.oracle env.metadata w = p at *
    obtain ⟨w', i' | _ | _ | _ | _ | _⟩ := p <;> exact asked
  | .ready =>
    rw [step, launch]
    split
    · exact .refl _ w
    · exact ⟨rfl, [_], rfl, rfl⟩
  | .applying (.act part rest) =>
    exact (World.saves_enact (keeps w.yield.scene).1).after (w.saves_yield env.metadata)
  | .applying (.done outcome) =>
    have noted : World.Saves env.metadata [] w (w.note (.returned t.id outcome)) :=
      ⟨rfl, [_], rfl, rfl⟩
    rw [step]
    cases outcome with
    | succeeded => exact noted
    | lost => exact noted.before ⟨rfl, [_], rfl, rfl⟩
    | failed text =>
      have turn := noted.before (World.saves_yield _ _)
      unfold returned
      dsimp only
      split
      · exact turn
      · exact turn.before (World.saves_warn _ _ _)
  | .saving ending =>
    have turn := w.saves_yield env.metadata
    rw [step]
    rcases w.yield.begin_cases (save env t ending) with ⟨e, h⟩ | ⟨due, h⟩ <;> rw [h]
    · exact saved_leads (Or.inr ⟨e, rfl, turn⟩)
    · exact turn.before (.of_eq rfl rfl)
  | .writing ending q => exact saved_leads (complete_writes w q)

end Evaluation

/-! ## Steps -/

/-- What comes to its end: a migration, or a known task of one. -/
def RunState.Owns (s : RunState) (group id : Identifier) : Prop :=
  s.progress.generators.contains id = true ∧ group = id ∨
    s.progress.generators.contains id = false ∧
      ∃ t, s.tasks.find? id = some t ∧ t.id = id ∧ group = t.migration

/-- What a step of a run does to its bookkeeping and to the records. -/
inductive RunState.Effect (env : Environment) (s s' : RunState) : Prop where
  /-- Everything stands as before. -/
  | quiet (stands : s.progress.Stands s'.progress) (tasks : s'.tasks = s.tasks)
      (saves : World.Saves env.metadata [] s.world s'.world)
  /-- A pending migration fans out. -/
  | fansOut (id : Identifier) (old : Standing) (g : Generator) (tasks : List Task)
      (errors : List String)
      (known : s.progress.generators.contains id = true)
      (source : s.generators.find? id = some g)
      (before : s.progress.standing? id = some old) (pending : old.phase = .pending)
      (own : ∀ t ∈ tasks, ∃ d n, t = g.task d n)
      (after : s.progress.FansOut s'.progress id old (tasks.map Task.id) errors)
      (taken : s'.tasks = tasks.foldl (fun m t => m.insert t.id t) s.tasks)
      (saves : World.Saves env.metadata [] s.world s'.world)
  /-- A migration or a task comes to its end. -/
  | ends (id group : Identifier) (old : Standing) (clean : Phase) (errors : List String)
      (owner : s.Owns group id)
      (before : s.progress.standing? id = some old) (unfinished : old.phase.isTerminal = false)
      (pending : clean = .succeeded ∨ clean = .passed ∧ old.phase = .pending)
      (done : ∀ c ∈ old.tasks, ∃ st, s.progress.standing? c = some st ∧
        st.phase.isTerminal = true ∧ (old.errors ++ errors = [] → st.phase.isClean = true))
      (after : s.progress.Settles s'.progress id (old.finish clean errors))
      (tasks : s'.tasks = s.tasks)
      (saves : World.Reports env.metadata id group (old.errors ++ errors) s.world s'.world)

namespace RunState

variable {env : Environment}

/-- A pending migration that is asked has one of the effects. -/
theorem advance_effect {s : RunState} (lawful : s.progress.Lawful) {id : Identifier}
    {e : GeneratorEntry} (h : s.progress.generators.find? id = some e)
    (pending : e.entry.phase = .pending)
    (sound : ∀ g, s.generators.find? id = some g → g.Sound) :
    Effect env s (s.advance env id).1 := by
  have standing := Progress.standing?_of_generator h
  have known := IdMap.contains_of_find? h
  obtain ⟨errors, tasks⟩ := lawful.bare standing (Or.inl pending)
  unfold advance
  split
  · exact .quiet .rfl rfl (.refl _ _)
  rename_i g source
  have asked := g.oracle.state_saves env.metadata env.metadata s.world
  generalize g.oracle.state env.metadata s.world = p at *
  split
  · exact .quiet .rfl rfl asked
  · rename_i world
    have scanned := (g.run_saves env.metadata env world).after asked
    have sound' := (sound g source).run env world
    obtain ⟨migration, -⟩ := g.run_buffered env world
    generalize g.run env world = r at *
    split
    · exact .quiet .rfl rfl scanned
    · rename_i world' g' result _
      refine .fansOut id _ g g'.buffered g'.errors known source standing pending ?_
        (Progress.generatorRan_fansOut h _ _) rfl scanned
      intro t mem
      obtain ⟨d, n, rfl⟩ := sound' t mem
      exact ⟨d, n, by rw [Generator.task_congr migration]⟩
  · rename_i world
    have saved := world.saveRecord_reports env.metadata id id false [] rfl
    generalize world.saveRecord env.metadata id id false = q at *
    obtain ⟨world', _ | more⟩ := q
    · exact .quiet .rfl rfl (saved.after asked)
    · refine .ends id id _ .passed more (Or.inl ⟨known, rfl⟩) standing ?_
        (Or.inr ⟨rfl, pending⟩) ?_ (Progress.generatorPassed_settles h more) rfl ?_
      · rw [show e.standing.phase = .pending from pending]
        rfl
      · intro c mem
        rw [tasks] at mem
        exact absurd mem List.not_mem_nil
      · rw [errors]
        exact World.Reports.after saved asked
  · exact .quiet (Progress.observe_stands _ _ _) rfl asked

/-- The verdict on a pending task has one of the effects. -/
theorem record_effect {s : RunState} (lawful : s.progress.Lawful) {t : Task} {e : Entry}
    (h : s.progress.children.find? t.id = some e) (pending : e.phase = .pending)
    (known : s.tasks.find? t.id = some t) {w : World} {verdict : Verdict}
    (reports : t.Concludes env.metadata s.world (w, verdict)) :
    Effect env s { s with world := w, progress := (record s.progress t.id verdict).1 } := by
  have task := lawful.apart (IdMap.contains_of_find? h)
  have standing := Progress.standing?_of_child task h
  -- A task that has ended is entered with its errors, in the same way for both kinds of end.
  have ended (clean : Phase) (more : List String) (q : Progress)
      (hc : clean = .succeeded ∨ clean = .passed)
      (settles : s.progress.Settles q t.id (e.standing.finish clean more))
      (saves : World.Reports env.metadata t.id t.migration more s.world w) :
      Effect env s { s with world := w, progress := q } := by
    obtain ⟨errors, -⟩ := lawful.bare standing (Or.inl pending)
    refine .ends t.id t.migration _ clean more (Or.inr ⟨task, t, known, rfl, rfl⟩) standing ?_
      (hc.imp_right fun passed => ⟨passed, pending⟩) ?_ settles rfl ?_
    · rw [show e.standing.phase = .pending from pending]
      rfl
    · exact fun c mem => absurd mem List.not_mem_nil
    · rw [errors]
      exact saves
  cases verdict with
  | executed more =>
    exact ended .succeeded more _ (Or.inl rfl) (Progress.childExecuted_settles task h more) reports
  | passed more =>
    exact ended .passed more _ (Or.inr rfl) (Progress.childPassed_settles task h more) reports
  | waiting state => exact .quiet (Progress.observe_stands _ _ _) rfl reports
  | canceled | lost => exact .quiet .rfl rfl reports

/-- A step of the tasks at work has one of the effects. -/
theorem work_effect {workers : Nat} {flights : List Flight} {s : RunState}
    (lawful : s.progress.Lawful) (expected : s.Expects flights)
    (keeps : ∀ f ∈ flights, f.evaluation.Obeys (fun a b => b.store.recordsOf.get env.metadata =
      a.store.recordsOf.get env.metadata) fun _ => True)
    {r : RunState × List Flight × Step} (works : Works env workers flights s r) :
    Effect env s r.1 := by
  have turn := s.world.saves_takeTurn env.metadata
  cases works with
  | goesOn before f behind world evaluation among room step =>
    have mem : f ∈ flights := among ▸ List.mem_append_cons_self
    have leads := f.evaluation.step_leads f.task (keeps f mem) s.world.takeTurn.2
    rw [step] at leads
    exact .quiet .rfl rfl (turn.before leads)
  | ends before f behind world verdict among room step =>
    have mem : f ∈ flights := among ▸ List.mem_append_cons_self
    have leads := f.evaluation.step_leads f.task (keeps f mem) s.world.takeTurn.2
    rw [step] at leads
    obtain ⟨e, found, pending⟩ := expected.pending f mem
    exact record_effect lawful found pending (expected.known f mem) (leads.after turn)

/-! ## Closing -/

/-- The closing of a settled migration, with what is known of its group, has one of the effects. -/
theorem close_effect (env : Environment) {s : RunState} (lawful : s.progress.Lawful)
    {id : Identifier} {g : GeneratorEntry} (h : s.progress.generators.find? id = some g)
    (settled : s.progress.isSettled g = true) :
    Effect env s (s.close env id
      (!g.entry.errors.isEmpty || decide (0 < s.progress.failedChildren g))).1 := by
  have known := IdMap.contains_of_find? h
  have standing := Progress.standing?_of_generator h
  have running : g.entry.phase = .running := by
    simp only [Progress.isSettled, Bool.and_eq_true, beq_iff_eq] at settled
    exact settled.1
  have done {c : Identifier} := lawful.settled_done (c := c) h settled
  generalize failed : s.progress.failedChildren g = n at *
  have errors_flag : (!g.entry.errors.isEmpty || decide (0 < n)) =
      !(g.entry.errors ++ Progress.failedChildrenErrors n).isEmpty := by
    have some_failed : decide (0 < n) = !(Progress.failedChildrenErrors n).isEmpty := by
      cases n with
      | zero => rfl
      | succ n => rfl
    rw [some_failed]
    cases g.entry.errors <;> rfl
  have saved := s.world.saveRecord_reports env.metadata id id _ _ errors_flag
  unfold close
  generalize s.world.saveRecord env.metadata id id _ = q at *
  obtain ⟨w, _ | more⟩ := q
  · exact .quiet .rfl rfl saved
  have settles := Progress.finalizeGenerator_settles h more
  rw [failed] at settles
  dsimp only at saved ⊢
  rw [List.append_assoc] at saved
  refine .ends id id _ .succeeded _ (Or.inl ⟨known, rfl⟩) standing ?_ (Or.inl rfl) ?_ settles rfl ?_
  · rw [show g.standing.phase = .running from running]
    rfl
  · intro c mem
    obtain ⟨st, at_c, terminal, clean⟩ := done mem
    refine ⟨st, at_c, terminal, fun none => clean ?_⟩
    rw [List.append_eq_nil_iff, List.append_eq_nil_iff] at none
    exact Progress.failedChildrenErrors_eq_nil.1 none.2.1
  · refine saved.before ?_
    split
    · exact World.saves_warn _ _ _
    · exact .refl _ _

end RunState

end GatedMigration
