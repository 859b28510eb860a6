import GatedMigration.Proofs.Acceptance
import GatedMigration.Proofs.Agreement
import GatedMigration.Proofs.Cancellation
import GatedMigration.Proofs.Completion
import GatedMigration.Proofs.Rounds

/-!
# Migrations that never come to run

A migration is stuck if its dependencies lead to a cycle or to a migration that is not part of the
run (`Stuck`). Each stuck migration comes after a stuck one (`Stuck.exists_after`), and while none
of them runs none gets a record, so that all of them stay blocked, whatever the other migrations do.

* `Oracle.state_of_unrecorded`: what has documents left is blocked by a prerequisite without a
  record.
* `Moment.next_going`: a run in a calm world is not cancelled.
* `Moment.Waits.next`: what is answered that it is blocked goes on to wait.
* `World.stuck_stay_blocked`: what becomes of the stuck migrations of a run.
-/

namespace GatedMigration

open Relation (ReflTransGen TransGen)

/-! ## Stuck migrations -/

section

variable {generators : List Generator} {id : Identifier}

/-- The dependencies of a migration lead to a cycle or to a migration that is not part of the
run. -/
def Stuck (generators : List Generator) (id : Identifier) : Prop :=
  ∃ a, ReflTransGen (DependsOn generators) id a ∧
    (a ∉ generators.map Generator.id ∨ TransGen (DependsOn generators) a a)

/-- What is not stuck can finish. -/
theorem stuck_iff : Stuck generators id ↔ ¬CanFinish generators id := by
  simp only [Stuck, CanFinish, not_forall, not_and_or, not_not, exists_prop]

/-- A stuck migration comes after a stuck one. -/
theorem Stuck.exists_after (distinct : (generators.map Generator.id).Nodup) {g : Generator}
    (given : g ∈ generators) (stuck : Stuck generators g.id) :
    ∃ a ∈ g.migration.after, Stuck generators a := by
  by_contra none
  refine stuck_iff.1 stuck (.of_all (List.mem_map_of_mem given) fun a edge => ?_)
  obtain ⟨g', given', same, after⟩ := edge
  obtain rfl : g' = g := List.inj_on_of_nodup_map distinct given' given same
  by_contra unable
  exact none ⟨a, after, stuck_iff.2 unable⟩

end

/-- A prerequisite without a record blocks what has documents left. -/
theorem Oracle.state_of_unrecorded {o : Oracle} {metadata : Namespace} {w : World} (calm : w.Calm)
    (total : o.selector.Total) (left : w.store.anyMatching o.namesp o.selector = true)
    {a : Identifier} (edge : a ∈ o.edges) (unrecorded : w.store.record? metadata a = none) :
    (o.state metadata w).2 = some .blocked := by
  obtain ⟨w', answer, -, -⟩ := calm.undisturbed.state o metadata
  obtain ⟨latency, faults⟩ := calm.faults
  have countable : w.store.countable o.namesp o.selector = true :=
    Store.countable_iff.2 ⟨by rw [faults], by rw [faults], fun d _ => total d⟩
  have some_edge : o.edges.toList.isEmpty = false :=
    List.isEmpty_eq_false_iff.2 (List.ne_nil_of_mem edge)
  have unreleased : w.store.releases metadata o.edges.toList = false := by
    refine eq_false_of_ne_true fun released => ?_
    obtain ⟨-, all, -⟩ := Store.releases_iff.1 released
    obtain ⟨r, stored, -⟩ := all a edge
    rw [unrecorded] at stored
    cases stored
  rw [answer, Store.decision, countable, left, some_edge, unreleased]
  rfl

/-! ## Calm runs -/

/-- A call that does not itself say that the run is cancelled. -/
def Call.Uncanceled {α : Type} (c : Call α) : Prop := ∀ s, (c.finish s).2 ≠ .error .canceled

namespace Store

variable {α : Type}

theorem underFaults_uncanceled (f : Faults) (error : Option String) (made : String → StoreFailure)
    (own : ∀ text, made text ≠ .canceled) {answer : Except StoreFailure α}
    (uncanceled : answer ≠ .error .canceled) :
    underFaults f (error.map made) answer ≠ .error .canceled := by
  unfold underFaults
  split
  · rintro ⟨⟩
  split
  · rename_i e failed
    obtain ⟨text, -, rfl⟩ := Option.map_eq_some_iff.1 failed
    exact fun same => own text (Except.error.inj same)
  · exact uncanceled

theorem reported_uncanceled (r : Except SelectorError α) : reported r ≠ .error .canceled := by
  cases r <;> rintro ⟨⟩

theorem count_uncanceled (s : Store) (ns : Namespace) (sel : Selector) :
    (s.count ns sel).Uncanceled := fun _ =>
  underFaults_uncanceled _ _ .query (by rintro _ ⟨⟩) (reported_uncanceled _)

theorem findRecords_uncanceled (s : Store) (ns : Namespace) (ids : List Identifier) :
    (s.findRecords ns ids).Uncanceled := fun now => by
  have found := underFaults_uncanceled s.faults s.faults.recordQueryError .query
    (by rintro _ ⟨⟩) (reported_uncanceled (matchingRecords (Selector.idIn ids) (now.records ns)))
  show (now.handOut _ _ _).2 ≠ _
  unfold handOut
  split
  · rintro ⟨⟩
  · rename_i e failed
    rw [failed] at found
    rintro ⟨⟩
    exact found rfl

theorem upsertRecord_uncanceled (s : Store) (ns : Namespace) (r : CompletionRecord) :
    (s.upsertRecord ns r).Uncanceled := fun now => by
  have written : underFaults s.faults (s.faults.upsertError.map .write) (.ok ()) ≠
      .error .canceled :=
    underFaults_uncanceled s.faults _ .write (by rintro _ ⟨⟩) (by rintro ⟨⟩)
  unfold upsertRecord
  dsimp only
  split
  · rintro ⟨⟩
  · rename_i e failed
    rw [failed] at written
    rintro ⟨⟩
    exact written rfl

end Store

section

variable {w : World} (calm : w.Calm)

include calm

theorem World.Calm.complete_uncanceled {α : Type} (call : Store → Call α) (q : Underway)
    (uncanceled : (call q.asked).Uncanceled) : (w.complete call q).2 ≠ .error .canceled := by
  obtain ⟨t, done⟩ := calm.undisturbed.complete call q
  rw [done]
  exact uncanceled w.store

/-- No question finds a calm run cancelled. -/
theorem Inquiry.step_uncanceled (o : Oracle) (metadata : Namespace) (i : Inquiry) :
    (i.step o metadata w).2 ≠ .inr none := by
  have called {α : Type} (c : Store → Call α) {underway : World.Underway → Inquiry}
      {answered : World × Except StoreFailure α → World × Next} :
      (call w.yield c underway answered).2 ≠ .inr none := by
    unfold call
    rw [calm.undisturbed.yield, calm.undisturbed.begin]
    rintro ⟨⟩
  cases i with
  | fresh | counted | reading => exact called _
  | counting q =>
    have done :=
      calm.complete_uncanceled o.count q (q.asked.count_uncanceled o.namesp o.selector)
    rw [step]
    unfold afterCount
    split
    · rename_i same
      exact absurd (congrArg Prod.snd same) done
    · rintro ⟨⟩
    · split
      · rintro ⟨⟩
      · split <;> rintro ⟨⟩
  | querying q =>
    have done := calm.complete_uncanceled (o.findRecords metadata) q
      (q.asked.findRecords_uncanceled metadata o.edges.toList)
    rw [step]
    unfold afterQuery
    split
    · rename_i same
      exact absurd (congrArg Prod.snd same) done
    · rintro ⟨⟩
    · rintro ⟨⟩
  | waiting c items satisfied q =>
    have done := calm.complete_uncanceled c.wait q fun _ => by rintro ⟨⟩
    rw [step]
    unfold afterWait
    split
    · rename_i same
      exact absurd (congrArg Prod.snd same) done
    · rintro ⟨⟩
    · split
      · rintro ⟨⟩
      · split
        · rintro ⟨⟩
        · split <;> rintro ⟨⟩

/-- No task at work finds a calm run cancelled. -/
theorem Evaluation.step_uncanceled (env : Environment) (t : Task) (e : Evaluation) :
    (e.step env t w).2 ≠ .inr .canceled := by
  -- Neither the answer to a question nor the saving of a record says so of itself.
  have saved {ending : Ending} {r : World × Except StoreFailure Unit}
      (uncanceled : r.2 ≠ .error .canceled) : (saved t ending r).2 ≠ .inr .canceled := by
    obtain ⟨v, e | _⟩ := r
    · cases e with
      | canceled => exact absurd rfl uncanceled
      | _ => cases ending <;> rintro ⟨⟩
    · cases ending <;> rintro ⟨⟩
  match e with
  | .asking i =>
    have asked := i.step_uncanceled calm t.oracle env.metadata
    rw [step]
    generalize i.step t.oracle env.metadata w = p at *
    obtain ⟨v, i' | _ | _ | _ | _ | _⟩ := p
    · rintro ⟨⟩
    · exact absurd rfl asked
    all_goals rintro ⟨⟩
  | .ready =>
    rw [step, launch]
    split <;> rintro ⟨⟩
  | .applying (.act part rest) => rintro ⟨⟩
  | .applying (.done outcome) =>
    rw [step]
    cases outcome with
    | succeeded | lost => rintro ⟨⟩
    | failed text =>
      have noted : (w.note (.returned t.id (.failed text))).Calm := calm.of_eq rfl rfl rfl
      unfold returned
      dsimp only
      rw [noted.undisturbed.yield, noted.undisturbed.isCanceled]
      rintro ⟨⟩
  | .saving ending =>
    rw [step, calm.undisturbed.yield, calm.undisturbed.begin]
    rintro ⟨⟩
  | .writing ending q =>
    exact saved (calm.complete_uncanceled _ q (q.asked.upsertRecord_uncanceled _ _))

end

namespace RunState

variable {env : Environment} {s : RunState} {id : Identifier} (calm : s.world.Calm)

include calm

theorem advance_uncanceled
    (total : ∀ g, s.generators.find? id = some g → g.migration.selector.Total) :
    (s.advance env id).2 ≠ .canceled := by
  unfold advance
  cases source : s.generators.find? id with
  | none => exact Step.noConfusion
  | some g =>
    have total := total g source
    obtain ⟨w, a, answered, calm', -, -⟩ := calm.state (o := g.oracle) total env.metadata
    dsimp only
    rw [answered]
    cases a with
    | unresolved | blocked => exact Step.noConfusion
    | ready =>
      obtain ⟨w', g', n, scanned, -, -⟩ := calm'.run total env
      dsimp only
      rw [scanned]
      exact Step.noConfusion
    | passed =>
      obtain ⟨w', saved, -⟩ := calm'.saveRecord env.metadata id id false
      dsimp only
      rw [saved]
      exact Step.noConfusion

theorem close_uncanceled (env : Environment) (id : Identifier) (hasErrors : Bool) :
    (s.close env id hasErrors).2 ≠ .canceled := by
  obtain ⟨w, saved, -⟩ := calm.saveRecord env.metadata id id hasErrors
  rw [close, saved]
  exact Step.noConfusion

theorem conclude_uncanceled (pollInterval : Nat) (progressed : Bool) :
    (s.conclude pollInterval progressed).2 ≠ some true := by
  unfold conclude
  dsimp only
  split
  · rintro ⟨⟩
  split
  · rintro ⟨⟩
  split
  · rintro ⟨⟩
  · obtain ⟨w, paused, -⟩ := calm.pause pollInterval
    rw [show (s.endRound progressed).world = s.world from rfl, paused]
    rintro ⟨⟩

end RunState

namespace Moment

variable {env : Environment} {options : RunOptions} {generators : List Generator} {w : World}
  {m : Moment} (calm : m.state.world.Calm)

include calm

/-- A step leaves a calm world calm, unless it is part of an operation that does not. -/
theorem next_calm (peaceful : ∀ part, m.Enacts env options part →
    (m.next env options).state.world.Calm) : (m.next env options).state.world.Calm := by
  rcases next_frame World.Calm.frame (fun w id o calm => calm.of_eq rfl rfl rfl) options m with
    kept | ⟨f, mem, deed⟩
  · exact kept calm
  cases deed with
  | call op ready known called =>
    rw [called]
    exact (World.Calm.frame.turn _ calm).of_eq rfl rfl rfl
  | part part rest at_work done => exact peaceful part ⟨⟨f, mem, rest, at_work⟩, done⟩

/-- A run in a calm world is not cancelled. -/
theorem next_going (sound : m.Sound env generators w)
    (total : ∀ g ∈ generators, g.migration.selector.Total) (going : ¬m.stage.Halting)
    (options : RunOptions) : ¬(m.next env options).stage.Halting := by
  obtain ⟨ok, todo, -⟩ := sound
  obtain ⟨stage, s⟩ := m
  match stage with
  | .opening =>
    rw [next, RunState.yield, calm.undisturbed.yield, calm.undisturbed.isCanceled]
    exact id
  | .asking [] _ => exact Bool.noConfusion
  | .over _ => exact going
  | .working [] _ canceled =>
    rw [next, eq_false_of_ne_true going]
    exact id
  | .asking (id :: ids) _ =>
    have known : s.progress.generators.contains id = true := by
      obtain ⟨e, found, -⟩ := todo.2 id List.mem_cons_self
      exact IdMap.contains_of_find? found
    obtain ⟨g, source, -, g₀, given, -, same⟩ := ok.sources id ((ok.migrations id).1 known)
    have step : (s.advance env id).2 ≠ .canceled := by
      refine RunState.advance_uncanceled calm fun g' source' => ?_
      cases source.symm.trans source'
      exact same ▸ total g₀ given
    rw [next]
    generalize s.advance env id = r at *
    obtain ⟨s', _ | _ | _⟩ := r
    · exact fun h => h
    · exact fun h => h
    · exact absurd rfl step
  | .working (f :: fs) progressed canceled =>
    obtain rfl : canceled = false := eq_false_of_ne_true going
    have works := RunState.work_cases env options.workers (List.cons_ne_nil f fs) s
    rw [next]
    generalize s.work env options.workers (f :: fs) = r at *
    cases works with
    | goesOn => exact Bool.noConfusion
    | ends front g behind world verdict among room step =>
      have uncanceled :=
        g.evaluation.step_uncanceled (World.Calm.frame.turn _ calm) env g.task
      rw [step] at uncanceled
      cases verdict with
      | canceled => exact absurd rfl uncanceled
      | _ => exact Bool.noConfusion
  | .closing [] progressed =>
    have ended := RunState.conclude_uncanceled calm options.pollInterval progressed
    rw [next]
    generalize s.conclude options.pollInterval progressed = r at *
    obtain ⟨s', _ | _ | _⟩ := r
    · exact fun h => h
    · exact Bool.noConfusion
    · exact absurd rfl ended
  | .closing ((id, hasErrors) :: _) _ =>
    have step := RunState.close_uncanceled calm env id hasErrors
    rw [next]
    generalize s.close env id hasErrors = r at *
    obtain ⟨s', _ | _ | _⟩ := r
    · exact fun h => h
    · exact fun h => h
    · exact absurd rfl step

end Moment

/-! ## Waiting migrations -/

namespace Stage

/-- The migration is asked next. -/
def Asks (id : Identifier) : Stage → Prop
  | .asking (id' :: _) _ => id' = id
  | _ => False

/-- In the round that has begun the migration is not to be asked any more. -/
def Told (id : Identifier) : Stage → Prop
  | .opening => False
  | .asking ids _ => id ∉ ids
  | _ => True

end Stage

namespace RunState

variable {env : Environment} {s : RunState} {id id' : Identifier}

/-- A question to a migration leaves the other generators alone. -/
theorem advance_source_of_ne (ne : id' ≠ id) :
    (s.advance env id).1.generators.find? id' = s.generators.find? id' := by
  unfold advance
  split
  · rfl
  split
  · rfl
  · split
    · exact IdMap.find?_insert_of_ne _ ne _
    · exact IdMap.find?_insert_of_ne _ ne _
  · split <;> rfl
  · rfl

/-- A migration that is blocked is told so, and nothing else comes of the question. -/
theorem advance_of_blocked {g : Generator} (source : s.generators.find? id = some g)
    (blocked : (g.oracle.state env.metadata s.world).2 = some .blocked) :
    (s.advance env id).1.generators = s.generators ∧
      (s.advance env id).1.progress = s.progress.observe id .blocked := by
  unfold advance
  rw [source]
  dsimp only
  generalize g.oracle.state env.metadata s.world = r at *
  obtain ⟨w, answer⟩ := r
  obtain rfl : answer = some .blocked := blocked
  exact ⟨rfl, rfl⟩

end RunState

/-- What a migration was told is kept. -/
theorem Progress.observe_generator {p : Progress} {id : Identifier} {e : GeneratorEntry}
    (found : p.generators.find? id = some e) (state : Readiness) :
    (p.observe id state).generators.find? id =
      some { e with entry := { e.entry with lastState := some state } } := by
  unfold observe
  rw [if_pos (IdMap.contains_of_find? found), IdMap.find?_adjust_self, found, Option.map_some]

namespace Moment

/-- The migration has not begun, its generator is as it was given, and if it was asked in this round
the answer was that it is blocked. -/
structure Waits (g : Generator) (m : Moment) : Prop where
  source : m.state.generators.find? g.id = some g
  entry : ∃ e, m.state.progress.generators.find? g.id = some e ∧ e.entry.phase = .pending ∧
    (m.stage.Told g.id → e.entry.lastState = some .blocked)

/-- The migration whose documents are scanned in the next step: it is asked, and it is ready. -/
def running? (env : Environment) (m : Moment) : Option Identifier :=
  match m.stage with
  | .asking (id :: _) _ =>
    match m.state.generators.find? id with
    | none => none
    | some g =>
      match g.oracle.state env.metadata m.state.world with
      | (_, some .ready) => some id
      | _ => none
  | _ => none

/-- The migration is pending and blocked, its generator is as it was given, it has no record, and
neither is it run next nor an operation called for a task of it. -/
structure Untouched (env : Environment) (options : RunOptions) (g : Generator) (m : Moment) :
    Prop where
  pending : m.state.progress.phase? g.id = some .pending
  blocked : (g.oracle.state env.metadata m.state.world).2 = some .blocked
  source : m.state.generators.find? g.id = some g
  unrecorded : m.state.world.store.record? env.metadata g.id = none
  resting : m.running? env ≠ some g.id
  uncalled : ∀ t, m.Calls env options t → t.migration ≠ g.id

variable {env : Environment} {generators : List Generator} {w : World} {m : Moment} {g : Generator}

/-- What is answered that it is blocked is not run. -/
theorem running?_ne_of_blocked (source : m.state.generators.find? g.id = some g)
    (blocked : (g.oracle.state env.metadata m.state.world).2 = some .blocked) :
    m.running? env ≠ some g.id := by
  intro running
  unfold running? at running
  split at running
  · rename_i id ids progressed stage
    split at running
    · cases running
    · rename_i g' source'
      split at running
      · rename_i w' ready
        obtain rfl := Option.some.inj running
        cases source.symm.trans source'
        rw [ready] at blocked
        cases blocked
      · cases running
  · cases running

theorem Waits.standing (h : m.Waits g) :
    ∃ st, m.state.progress.standing? g.id = some st ∧ st.phase = .pending := by
  obtain ⟨e, found, pending, -⟩ := h.entry
  exact ⟨e.standing, Progress.standing?_of_generator found, pending⟩

theorem Waits.phase (h : m.Waits g) : m.state.progress.phase? g.id = some .pending := by
  obtain ⟨st, at_g, pending⟩ := h.standing
  rw [Progress.phase?_eq_standing?, at_g, Option.map_some, pending]

/-- Whatever has no record at the start has none as long as it waits, or is unknown to the run. -/
theorem Sound.unrecorded (sound : m.Sound env generators w) {id : Identifier} (plain : Plain id)
    (waits : ∀ g ∈ generators, g.id = id → m.Waits g)
    (unrecorded : w.store.record? env.metadata id = none) :
    m.state.world.store.record? env.metadata id = none := by
  obtain ⟨rs, saves, recorded⟩ := sound.state.recorded
  rw [saves.find?_of_notMem, unrecorded]
  intro written
  obtain ⟨r, mem, rfl⟩ := List.mem_map.1 written
  rcases recorded.grouped r mem with ⟨migration, -⟩ | member
  · obtain ⟨g, given, named⟩ := List.mem_map.1 ((sound.state.migrations r.id).1 migration)
    obtain ⟨st, at_g, pending⟩ := (waits g given named).standing
    obtain ⟨-, st', at_r, terminal, -⟩ := recorded.truthful r mem
    rw [named] at at_g
    cases at_g.symm.trans at_r
    rw [pending] at terminal
    cases terminal
  · obtain ⟨d, k, named⟩ := sound.state.named member
    exact plain.ne_childId _ _ _ named

/-- No operation is called for a migration that waits: it has no tasks. -/
theorem Waits.uncalled {options : RunOptions} (h : m.Waits g) (sound : m.Sound env generators w)
    {t : Task} (calls : m.Calls env options t) : t.migration ≠ g.id := by
  obtain ⟨f, mem, -, -, rfl⟩ := calls.flight
  obtain ⟨-, -, -, st, at_group, member⟩ :=
    sound.state.tasks (sound.stage.expects.known f mem)
  obtain ⟨st', at_g, pending⟩ := h.standing
  intro same
  rw [same] at at_group
  cases at_group.symm.trans at_g
  rw [(sound.state.lawful.bare at_g (Or.inl pending)).2] at member
  cases member

/-- At the start every migration waits. -/
theorem start_waits (distinct : (generators.map Generator.id).Nodup) (given : g ∈ generators)
    {options : RunOptions} : Waits g ⟨.opening, .start w options generators⟩ := by
  have listed : g.id ∈ generators.map Generator.id := List.mem_map_of_mem given
  have source := (IdMap.contains_ofList generators Generator.id (fun g => g) g.id).2 listed
  obtain ⟨g', source⟩ := IdMap.find?_of_contains source
  obtain ⟨g'', given', same, rfl⟩ := IdMap.find?_ofList _ _ _ source
  obtain rfl : g'' = g := List.inj_on_of_nodup_map distinct given' given same
  have known := (Progress.start_contains _ options.maxIdleRounds g''.id).2 listed
  obtain ⟨e, found⟩ := IdMap.find?_of_contains known
  have fresh := Progress.start_standing (Progress.standing?_of_generator found)
  exact ⟨source, e, found, congrArg Standing.phase fresh, False.elim⟩

/-- What a step leaves of a migration that is blocked: it is told so if it is asked. -/
theorem next_of_blocked (sound : m.Sound env generators w)
    (source : m.state.generators.find? g.id = some g)
    (blocked : (g.oracle.state env.metadata m.state.world).2 = some .blocked) {e : GeneratorEntry}
    (found : m.state.progress.generators.find? g.id = some e) (pending : e.entry.phase = .pending)
    (options : RunOptions) :
    (m.next env options).state.generators.find? g.id = some g ∧
      ∃ e', (m.next env options).state.progress.generators.find? g.id = some e' ∧
        e'.entry.phase = .pending ∧
        (m.stage.Asks g.id → e'.entry.lastState = some .blocked) ∧
        (¬m.stage.Asks g.id → e'.entry.lastState = e.entry.lastState) := by
  rw [next_state]
  obtain ⟨ok, todo, -⟩ := sound
  obtain ⟨stage, s⟩ := m
  dsimp only at source blocked found
  match stage, todo with
  | .opening, _ | .asking [] _, _ | .working [] _ _, _ | .over _, _ =>
    exact ⟨source, e, found, pending, False.elim, fun _ => rfl⟩
  | .closing [] progressed, _ =>
    obtain ⟨w, counted, -⟩ := s.conclude_fst options.pollInterval progressed
    dsimp only
    rw [counted]
    exact ⟨source, e, found, pending, False.elim, fun _ => rfl⟩
  | .asking (id :: _) _, todo =>
    by_cases same : id = g.id
    · subst same
      have asked := RunState.advance_of_blocked source blocked
      have entered := Progress.observe_generator found .blocked
      dsimp only
      rw [asked.1, asked.2]
      exact ⟨source, _, entered, pending, fun _ => rfl, fun other => absurd rfl other⟩
    · obtain ⟨e', found', -⟩ := todo.2 id List.mem_cons_self
      have other : g.id ≠ id := fun e => same e.symm
      dsimp only
      rw [RunState.advance_source_of_ne other, RunState.advance_generators_of_ne found' other]
      exact ⟨source, e, found, pending, fun asked => absurd asked same, fun _ => rfl⟩
  | .working (f :: fs) _ _, expected =>
    have works := RunState.work_cases env options.workers (List.cons_ne_nil f fs) s
    have same := RunState.work_generators works ok.lawful expected
    dsimp only
    rw [same, RunState.work_sources works]
    exact ⟨source, e, found, pending, False.elim, fun _ => rfl⟩
  | .closing ((id, hasErrors) :: _) _, todo =>
    obtain ⟨g', found', settled, -⟩ := todo.2 (id, hasErrors) List.mem_cons_self
    -- What is closed has begun.
    have other : g.id ≠ id := by
      rintro rfl
      cases found.symm.trans found'
      rw [(Progress.isSettled_iff.1 settled).1] at pending
      cases pending
    dsimp only
    rw [RunState.close_generators, RunState.close_generators_of_ne other]
    exact ⟨source, e, found, pending, False.elim, fun _ => rfl⟩

/-- Whoever is told in a round has been told before, or is told by the next step. -/
theorem next_told {id : Identifier} {e : GeneratorEntry}
    (found : m.state.progress.generators.find? id = some e) (pending : e.entry.phase = .pending)
    (options : RunOptions) (going : ¬(m.next env options).stage.Halting)
    (told : (m.next env options).stage.Told id) : m.stage.Told id ∨ m.stage.Asks id := by
  obtain ⟨stage, s⟩ := m
  match stage with
  | .opening =>
    rw [next] at going told
    split at told
    · rename_i canceled
      rw [if_pos canceled] at going
      exact absurd rfl going
    · exact absurd (Progress.mem_pendingGenerators found pending) told
  | .asking [] _ => exact Or.inl List.not_mem_nil
  | .asking (id' :: ids) progressed =>
    have done (others : id ∉ ids) : Stage.Told id (.asking (id' :: ids) progressed) ∨
        Stage.Asks id (.asking (id' :: ids) progressed) := by
      by_cases same : id' = id
      · exact Or.inr same
      · refine Or.inl fun mem => ?_
        exact others ((List.mem_cons.1 mem).resolve_left fun e => same e.symm)
    rw [next] at going told
    generalize s.advance env id' = r at *
    obtain ⟨s', _ | _ | _⟩ := r
    · exact done told
    · exact done told
    · exact absurd rfl going
  | .working _ _ _ | .closing _ _ | .over _ => exact Or.inl trivial

/-- A migration that is answered that it is blocked goes on to wait. -/
theorem Waits.next (h : m.Waits g) (sound : m.Sound env generators w)
    (blocked : (g.oracle.state env.metadata m.state.world).2 = some .blocked) (options : RunOptions)
    (going : ¬(m.next env options).stage.Halting) : (m.next env options).Waits g := by
  obtain ⟨source, e, found, pending, was_told⟩ := h
  obtain ⟨source', e', found', pending', asked, unasked⟩ :=
    next_of_blocked sound source blocked found pending options
  refine ⟨source', e', found', pending', fun told => ?_⟩
  by_cases now : m.stage.Asks g.id
  · exact asked now
  · rw [unasked now]
    exact was_told ((next_told found pending options going told).resolve_right now)

end Moment

/-! ## Runs with stuck migrations -/

/-- A migration that waits is listed as waiting, with the last answer about it. -/
theorem Progress.blocked_of_generator {p : Progress} (laws : p.Lawful) {id : Identifier}
    {g : GeneratorEntry} (found : p.generators.find? id = some g)
    (waits : g.entry.phase.isTerminal = false) (canceled : Bool) :
    (p.report canceled).blocked.find? id = some g.entry.lastState := by
  have listed : (id, g.entry) ∈ p.entries :=
    List.mem_append_left _ (List.mem_map.2 ⟨(id, g), Keyed.mem_of_find?_eq_some found, rfl⟩)
  have waiting : (!g.entry.phase.isTerminal) = true := by
    rw [waits]
    rfl
  have known := (report_blocked_iff canceled).2 (mem_filter_of_mem_entries listed waiting)
  obtain ⟨state, found'⟩ := IdMap.find?_of_contains known
  refine found'.trans (congrArg some ?_)
  obtain ⟨⟨id', e⟩, mem, rfl, rfl⟩ := IdMap.find?_ofList _ _ _ found'
  -- No task has the identifier of a migration.
  rcases List.mem_append.1 (List.mem_filter.1 mem).1 with mem | mem
  · obtain ⟨⟨id', g'⟩, listed', same⟩ := List.mem_map.1 mem
    cases same
    have found' : p.generators.find? id' = some g' :=
      Keyed.find?_of_mem p.generators.ascending listed'
    cases found.symm.trans found'
    rfl
  · have task : p.children.find? id' = some e := Keyed.find?_of_mem p.children.ascending mem
    have apart := laws.apart (IdMap.contains_of_find? task)
    rw [IdMap.contains_of_find? found] at apart
    cases apart

namespace World

variable {w w₀ : World} {env : Environment} {options : RunOptions} {generators : List Generator}

/-- The operations that are at work in a run set no faults, and they neither end the run early nor
let others do so. -/
def Peaceful (w : World) (env : Environment) (options : RunOptions) (generators : List Generator) :
    Prop :=
  ∀ n part, (w.moment env options generators n).Enacts env options part →
    (w.moment env options generators n).state.world.Calm →
    (w.moment env options generators (n + 1)).state.world.Calm

/-- Operations that always leave a calm world calm are peaceful. -/
theorem peaceful_of_reliable (reliable : env.registry.Reliable) :
    w.Peaceful env options generators := by
  rintro n part ⟨⟨f, mem, rest, at_work⟩, done⟩ calm
  have obeys : (w.moment env options generators n).Obeys _ _ := moment_obeys reliable w options n
  have keeps := obeys f mem
  rw [at_work] at keeps
  have turned := World.Calm.frame.yield _ (World.Calm.frame.turn _ calm)
  obtain ⟨faults, context⟩ := (keeps (World.scene _)).1 ⟨turned.faults, turned.context⟩
  rw [moment, done]
  exact ⟨faults, context, turned.outside⟩

/-- A run whose operations do not disturb it stays calm, and it is not cancelled. -/
theorem moment_calm (plain : ∀ g ∈ generators, Plain g.id) (made : ∀ g ∈ generators, g.Made)
    (ops : env.registry.KeepsRecords env.metadata)
    (total : ∀ g ∈ generators, g.migration.selector.Total) (calm : w.Calm)
    (peaceful : w.Peaceful env options generators) (n : Nat) :
    (w.moment env options generators n).state.world.Calm ∧
      ¬(w.moment env options generators n).stage.Halting := by
  induction n with
  | zero => exact ⟨calm, id⟩
  | succ n ih =>
    obtain ⟨calm, going⟩ := ih
    have sound := moment_sound plain made ops w options n
    exact ⟨Moment.next_calm calm fun part enacts => peaceful n part enacts calm,
      Moment.next_going calm sound total going options⟩

section

variable (distinct : (generators.map Generator.id).Nodup)
  (plain : ∀ g ∈ generators, Plain g.id ∧ ∀ a ∈ g.migration.after, Plain a)
  (made : ∀ g ∈ generators, g.Made) (ops : env.registry.KeepsRecords env.metadata)
  (total : ∀ g ∈ generators, g.migration.selector.Total)
  (unrecorded : ∀ g ∈ generators, w.store.record? env.metadata g.id = none ∧
    ∀ a ∈ g.migration.after, w.store.record? env.metadata a = none)
  (calm : w.Calm) (peaceful : w.Peaceful env options generators)

include distinct plain made ops total unrecorded calm peaceful

/-- While the stuck migrations wait, each of them is answered that it is blocked. -/
theorem moment_blocked {n : Nat}
    (waits : ∀ g ∈ generators, Stuck generators g.id →
      (w.moment env options generators n).Waits g)
    {g : Generator} (given : g ∈ generators) (stuck : Stuck generators g.id)
    (left : (w.moment env options generators n).state.world.store.anyMatching g.migration.namesp
      g.migration.selector = true) :
    (g.oracle.state env.metadata (w.moment env options generators n).state.world).2 =
      some .blocked := by
  have plain_ids : ∀ g ∈ generators, Plain g.id := fun g given => (plain g given).1
  obtain ⟨calm', -⟩ := moment_calm plain_ids made ops total calm peaceful n
  have sound := moment_sound plain_ids made ops w options n
  obtain ⟨a, after, stuck_a⟩ := stuck.exists_after distinct given
  refine Oracle.state_of_unrecorded calm' (total g given) left (IdSet.mem_ofList.2 after) ?_
  refine sound.unrecorded ((plain g given).2 a after) (fun g' given' same => ?_)
    ((unrecorded g given).2 a after)
  exact waits g' given' (same ▸ stuck_a)

/-- The stuck migrations wait at every moment, if each of them has documents left. -/
theorem moment_waits
    (left : ∀ n, ∀ g ∈ generators, Stuck generators g.id →
      (w.moment env options generators n).state.world.store.anyMatching g.migration.namesp
        g.migration.selector = true) (n : Nat) :
    ∀ g ∈ generators, Stuck generators g.id → (w.moment env options generators n).Waits g := by
  have plain_ids : ∀ g ∈ generators, Plain g.id := fun g given => (plain g given).1
  induction n with
  | zero => exact fun g given _ => Moment.start_waits distinct given
  | succ n ih =>
    intro g given stuck
    have blocked := moment_blocked distinct plain made ops total unrecorded calm peaceful ih given
      stuck (left n g given stuck)
    obtain ⟨-, going⟩ := moment_calm plain_ids made ops total calm peaceful (n + 1)
    exact (ih g given stuck).next (moment_sound plain_ids made ops w options n) blocked
      options going

end

/-- Under a policy that only warns, stuck migrations stay blocked. In a calm world, without records
of the migrations and of what they come after, and with selectors that have an answer for every
document, a run over migrations with different identifiers takes place and comes to its end. If each
stuck migration has documents left throughout the run, then none of them is ever run, no operation
of it is applied and no record of it saved, whatever the other migrations do. At the end it is
reported as pending and as blocked, and if there is a stuck migration the outcome says that
something is blocked. -/
theorem stuck_stay_blocked (warns : options.validation = .warn)
    (distinct : (generators.map Generator.id).Nodup)
    (plain : ∀ g ∈ generators, Plain g.id ∧ ∀ a ∈ g.migration.after, Plain a)
    (made : ∀ g ∈ generators, g.Made) (ops : env.registry.KeepsRecords env.metadata)
    (total : ∀ g ∈ generators, g.migration.selector.Total)
    (unrecorded : ∀ g ∈ generators, w.store.record? env.metadata g.id = none ∧
      ∀ a ∈ g.migration.after, w.store.record? env.metadata a = none)
    (calm : w.Calm) :
    ∃ w₀, w.prepare env options generators = (w₀, .ok ()) ∧
      (w₀.Peaceful env options generators →
        (∀ n, ∀ g ∈ generators, Stuck generators g.id →
          (w₀.moment env options generators n).state.world.store.anyMatching g.migration.namesp
            g.migration.selector = true) →
        (∀ n, ∀ g ∈ generators, Stuck generators g.id →
          (w₀.moment env options generators n).Untouched env options g) ∧
        ∃ w' report, w.run env options generators = (w', .ok report) ∧
          (∀ g ∈ generators, Stuck generators g.id →
            report.generators.find? g.id = some .pending ∧
            report.blocked.find? g.id = some (some .blocked) ∧
            w'.store.record? env.metadata g.id = none) ∧
          ((∃ g ∈ generators, Stuck generators g.id) →
            report.outcome = .completedButBlocked)) := by
  obtain ⟨w₀, answer⟩ : ∃ w₀, w.prepare env options generators = (w₀, .ok ()) :=
    ⟨_, Prod.ext rfl (prepare_ok distinct fun requires => by
      rw [warns] at requires
      cases requires)⟩
  refine ⟨w₀, answer, fun peaceful left => ?_⟩
  have plain_ids : ∀ g ∈ generators, Plain g.id := fun g given => (plain g given).1
  have calm₀ : w₀.Calm := by
    obtain ⟨graph, journal, rfl⟩ := prepare_frame answer
    exact calm.of_eq rfl rfl rfl
  have kept (id : Identifier) : w₀.store.record? env.metadata id =
      w.store.record? env.metadata id :=
    (prepare_saves env.metadata answer).find?_of_notMem List.not_mem_nil
  have unrecorded₀ : ∀ g ∈ generators, w₀.store.record? env.metadata g.id = none ∧
      ∀ a ∈ g.migration.after, w₀.store.record? env.metadata a = none := by
    simpa only [kept] using unrecorded
  have sound := moment_sound plain_ids made ops w₀ options
  have waits := moment_waits distinct plain made ops total unrecorded₀ calm₀ peaceful left
  have none_stored (n : Nat) (g : Generator) (given : g ∈ generators)
      (stuck : Stuck generators g.id) :
      (w₀.moment env options generators n).state.world.store.record? env.metadata g.id = none := by
    refine (sound n).unrecorded (plain_ids g given) (fun g' given' same => ?_)
      (unrecorded₀ g given).1
    exact waits n g' given' (same ▸ stuck)
  refine ⟨fun n g given stuck => ?_, ?_⟩
  · have waiting := waits n g given stuck
    have blocked := moment_blocked distinct plain made ops total unrecorded₀ calm₀ peaceful
      (waits n) given stuck (left n g given stuck)
    refine ⟨waiting.phase, blocked, waiting.source, none_stored n g given stuck,
      Moment.running?_ne_of_blocked waiting.source blocked, fun t => waiting.uncalled (sound n)⟩
  · obtain ⟨n, canceled, s, ended, run⟩ := run_eq_moment answer
    have waits := waits n
    have none_stored := none_stored n
    have laws := (sound n).state.lawful
    obtain ⟨-, going⟩ := moment_calm plain_ids made ops total calm₀ peaceful n
    rw [ended] at waits none_stored laws going
    obtain rfl : canceled = false := eq_false_of_ne_true going
    have reported (g : Generator) (given : g ∈ generators) (stuck : Stuck generators g.id) :
        (s.progress.report false).generators.find? g.id = some .pending ∧
          (s.progress.report false).blocked.find? g.id = some (some .blocked) := by
      obtain ⟨e, found, pending, told⟩ := (waits g given stuck).entry
      have unfinished : e.entry.phase.isTerminal = false := by
        rw [pending]
        rfl
      refine ⟨?_, ?_⟩
      · rw [Progress.find?_report_generators, found, Option.map_some, pending]
      · rw [Progress.blocked_of_generator laws found unfinished, told trivial]
    refine ⟨s.world, _, run, fun g given stuck => ?_, fun ⟨g, given, stuck⟩ => ?_⟩
    · obtain ⟨pending, blocked⟩ := reported g given stuck
      exact ⟨pending, blocked, none_stored g given stuck⟩
    · obtain ⟨-, listed⟩ := reported g given stuck
      refine Progress.outcome_of_unfinished ((s.progress.blocked_size_pos false).1 ?_)
      exact List.length_pos_of_mem (Keyed.mem_of_find?_eq_some listed)

end World

/-! ## A run with a cycle -/

namespace Sample

/-- The migration `b` marks the invoices, after `c` and the orders. -/
def bills : Generator := .new ⟨"b", ⟨"db", "invoices"⟩, ⟨[]⟩, "mark", none, none, ["z", "c"]⟩

/-- The migration `c` marks the invoices, after `b`. -/
def checks : Generator := .new ⟨"c", ⟨"db", "invoices"⟩, ⟨[]⟩, "mark", none, none, ["b"]⟩

/-- The bills and the checks come after each other. -/
def entangled : List Generator := [orders, bills, checks]

/-- The world once the run over them is prepared. -/
def entangledReady : World := (world.prepare env impatient entangled).1

theorem entangled_prepared :
    world.prepare env impatient entangled = (entangledReady, .ok ()) :=
  Prod.ext rfl (by decide +kernel)

theorem entangled_over :
    (entangledReady.moment env impatient entangled 27).stage = .over false := by decide +kernel

theorem entangled_cases {g : Generator} (h : g ∈ entangled) :
    g = orders ∨ g = bills ∨ g = checks := by
  simpa only [entangled, List.mem_cons, List.not_mem_nil, or_false] using h

theorem entangled_left_within : ∀ n ≤ 27, ∀ g ∈ entangled,
    (entangledReady.moment env impatient entangled n).state.world.store.anyMatching
      g.migration.namesp g.migration.selector = true := by decide +kernel

/-- There are documents left for each of the migrations until the run is over, and from then on. -/
theorem entangled_left (n : Nat) {g : Generator} (given : g ∈ entangled) :
    (entangledReady.moment env impatient entangled n).state.world.store.anyMatching
      g.migration.namesp g.migration.selector = true := by
  rcases Nat.le_total n 27 with within | late
  · exact entangled_left_within n within g given
  · have ended := World.moment_over (World.moment_of_stage entangled_over) late
    rw [ended]
    dsimp only
    exact entangled_left_within 27 (Nat.le_refl 27) g given

theorem entangled_stuck {id : Identifier} (h : id = "b" ∨ id = "c") : Stuck entangled id := by
  have forth : DependsOn entangled "b" "c" := ⟨bills, by simp [entangled], rfl, by decide⟩
  have back : DependsOn entangled "c" "b" := ⟨checks, by simp [entangled], rfl, by decide⟩
  rcases h with rfl | rfl
  · exact ⟨"b", .refl, Or.inr ((TransGen.single forth).tail back)⟩
  · exact ⟨"c", .refl, Or.inr ((TransGen.single back).tail forth)⟩

end Sample

/-- The bills and the checks stay blocked, although the run finishes the orders. -/
theorem World.bills_and_checks_stay_blocked :
    (∀ n, (Sample.entangledReady.moment Sample.env Sample.impatient Sample.entangled n).Untouched
      Sample.env Sample.impatient Sample.bills) ∧
    ∃ w' report, Sample.world.run Sample.env Sample.impatient Sample.entangled =
        (w', .ok report) ∧
      report.generators.find? "z" = some .succeeded ∧
      report.blocked.find? "b" = some (some .blocked) ∧
      report.blocked.find? "c" = some (some .blocked) ∧
      report.outcome = .completedButBlocked := by
  have made : ∀ g ∈ Sample.entangled, g.Made := fun g given => by
    rcases Sample.entangled_cases given with rfl | rfl | rfl
    · exact .new _
    · exact .new _
    · exact .new _
  have total : ∀ g ∈ Sample.entangled, g.migration.selector.Total := fun g given => by
    rcases Sample.entangled_cases given with rfl | rfl | rfl
    · exact fun d => ⟨true, rfl⟩
    · exact fun d => ⟨true, rfl⟩
    · exact fun d => ⟨true, rfl⟩
  have warns : Sample.impatient.validation = .warn := rfl
  obtain ⟨w₀, prepared, stay⟩ := stuck_stay_blocked warns (by decide) (by decide) made
    (Sample.keepsRecords _) total (by decide +kernel) Sample.calm
  obtain rfl : Sample.entangledReady = w₀ :=
    (Prod.mk.inj (Sample.entangled_prepared.symm.trans prepared)).1
  obtain ⟨untouched, w', report, run, reported, outcome⟩ :=
    stay (peaceful_of_reliable Sample.reliable) fun n g given _ => Sample.entangled_left n given
  have bills : Sample.bills ∈ Sample.entangled := by simp [Sample.entangled]
  have checks : Sample.checks ∈ Sample.entangled := by simp [Sample.entangled]
  have ran := run_of_over Sample.entangled_prepared (moment_of_stage Sample.entangled_over)
  obtain ⟨-, same⟩ := Prod.mk.inj (run.symm.trans ran)
  have finished : report.generators.find? "z" = some .succeeded := by
    rw [Except.ok.inj same, Progress.find?_report_generators]
    decide +kernel
  exact ⟨fun n => untouched n _ bills (Sample.entangled_stuck (Or.inl rfl)), w', report, run,
    finished, (reported _ bills (Sample.entangled_stuck (Or.inl rfl))).2.1,
    (reported _ checks (Sample.entangled_stuck (Or.inr rfl))).2.1,
    outcome ⟨_, bills, Sample.entangled_stuck (Or.inl rfl)⟩⟩

end GatedMigration
