import GatedMigration.Proofs.Ledger
import GatedMigration.Proofs.Moment
import Mathlib.Data.Option.Basic

/-!
# The invariant of a run

At every moment of a run its bookkeeping keeps the laws and agrees with the records, its generators
are those it was given, and its tasks are theirs (`RunState.Consistent`); what is left to do in the
round is pending or settled (`Stage.Sound`). Together they are what each step needs
(`Moment.next_effect`) and leaves (`Moment.Sound.next`).

* `Moment.next_transition`: what a step of a run can be.
* `World.moment_sound`: the invariant holds at every moment.
* `World.moment_keeps`: what is finished stays as it is to the end of the run.
-/

namespace GatedMigration

/-- What is left to do in a round is there to be done. -/
def Stage.Sound (s : RunState) : Stage → Prop
  | .opening | .over _ => True
  | .asking ids _ => ids.Nodup ∧
      ∀ id ∈ ids, ∃ g, s.progress.generators.find? id = some g ∧ g.entry.phase = .pending
  | .working flights _ _ => s.Expects flights
  | .closing settled _ => (settled.map Prod.fst).Nodup ∧
      ∀ x ∈ settled, ∃ g, s.progress.generators.find? x.1 = some g ∧
        s.progress.isSettled g = true ∧
        x.2 = (!g.entry.errors.isEmpty || decide (0 < s.progress.failedChildren g))

/-- The tasks at work are known and pending, each of them once. -/
theorem Stage.Sound.expects {s : RunState} {stage : Stage} (h : stage.Sound s) :
    s.Expects stage.flights := by
  cases stage with
  | working flights progressed canceled => exact h
  | _ => exact ⟨List.nodup_nil, fun _ mem => absurd mem List.not_mem_nil,
      fun _ mem => absurd mem List.not_mem_nil⟩

namespace Progress

variable {p q : Progress}

/-- Whether a migration is settled depends on the tasks alone. -/
theorem isSettled_congr (h : q.children = p.children) (g : GeneratorEntry) :
    q.isSettled g = p.isSettled g := by
  unfold isSettled isDone
  rw [h]

theorem failedChildren_congr (h : q.children = p.children) (g : GeneratorEntry) :
    q.failedChildren g = p.failedChildren g := by
  unfold failedChildren hasFailed
  rw [h]

end Progress

namespace RunState

/-- From `s` to `s'` the generators keep their migrations and go on to hand out tasks of them. -/
def Sources (s s' : RunState) : Prop :=
  ∀ id, Option.Rel (fun g g' : Generator => g'.migration = g.migration ∧ (g.Sound → g'.Sound))
    (s.generators.find? id) (s'.generators.find? id)

/-- What holds of a run over these generators that has started in the world `w`. -/
structure Consistent (env : Environment) (generators : List Generator) (w : World)
    (s : RunState) : Prop where
  migrations : ∀ id, s.progress.generators.contains id = true ↔ id ∈ generators.map Generator.id
  sources : ∀ id ∈ generators.map Generator.id, ∃ g, s.generators.find? id = some g ∧ g.Sound ∧
    ∃ g₀ ∈ generators, g₀.id = id ∧ g.migration = g₀.migration
  /-- A task is known under its own identifier and belongs to its migration. -/
  tasks : ∀ {id t}, s.tasks.find? id = some t → t.id = id ∧
    (∃ g ∈ generators, ∃ d n, t = g.task d n) ∧ s.progress.Member t.migration id
  tasked : ∀ {id}, s.progress.children.contains id = true → s.tasks.contains id = true
  /-- The identifier of a task is made from that of its migration. -/
  named : ∀ {group id}, s.progress.Member group id → ∃ d n, id = childId group d n
  lawful : s.progress.Lawful
  recorded : ∃ rs, World.Saves env.metadata rs w s.world ∧ s.progress.Recorded rs

variable {env : Environment} {generators : List Generator} {w : World} {s s' : RunState}

theorem Sources.refl (s : RunState) : Sources s s := fun id => by
  cases s.generators.find? id with
  | none => exact .none
  | some g => exact .some ⟨rfl, fun sound => sound⟩

theorem Sources.of_eq (h : s'.generators = s.generators) : Sources s s' := fun id => by
  rw [h]
  exact Sources.refl s id

theorem Sources.insert {id : Identifier} {g g' : Generator} (h : s.generators.find? id = some g)
    (migration : g'.migration = g.migration) (sound : g.Sound → g'.Sound)
    (h' : s'.generators = s.generators.insert id g') : Sources s s' := by
  intro id'
  rw [h']
  by_cases e : id' = id
  · rw [e, h, IdMap.find?_insert_self]
    exact .some ⟨migration, sound⟩
  · rw [IdMap.find?_insert_of_ne _ e]
    exact Sources.refl s id'

/-- A question to a migration keeps the migrations of the generators. -/
theorem advance_sources (env : Environment) (id : Identifier) (s : RunState) :
    Sources s (s.advance env id).1 := by
  unfold advance
  split
  · exact .refl s
  rename_i g source
  generalize g.oracle.state env.metadata s.world = p
  split
  · exact .of_eq rfl
  · rename_i world
    obtain ⟨migration, -⟩ := g.run_buffered env world
    have sound (h : g.Sound) := h.run env world
    generalize g.run env world = r at *
    split
    · exact .insert source migration sound rfl
    · rename_i world' g' result _
      have handed : g'.jobs.2.migration = g.migration := migration
      exact .insert source handed (fun _ => Generator.Sound.jobs g') rfl
  · split <;> exact .of_eq rfl
  · exact .of_eq rfl

theorem Consistent.plain (ok : s.Consistent env generators w)
    (plain : ∀ g ∈ generators, Plain g.id) (id : Identifier)
    (migration : s.progress.generators.contains id = true) : Plain id := by
  obtain ⟨g, mem, rfl⟩ := List.mem_map.1 ((ok.migrations id).1 migration)
  exact plain g mem

/-- The tasks known after a step are known before, or a migration has just brought them. -/
theorem Effect.tasks (h : Effect env s s') (ok : s.Consistent env generators w) {id : Identifier}
    {t : Task} (found : s'.tasks.find? id = some t) :
    t.id = id ∧ (∃ g ∈ generators, ∃ d n, t = g.task d n) ∧ s'.progress.Member t.migration id := by
  have belongs := h.belongs
  have known (found : s.tasks.find? id = some t) : t.id = id ∧
      (∃ g ∈ generators, ∃ d n, t = g.task d n) ∧ s'.progress.Member t.migration id := by
    obtain ⟨named, own, member⟩ := ok.tasks found
    exact ⟨named, own, belongs.2 member⟩
  cases h with
  | quiet _ same => exact known (same ▸ found)
  | ends _ _ _ _ _ _ _ _ _ _ _ same => exact known (same ▸ found)
  | fansOut id' old g tasks errors migration source before pending own after taken =>
    rw [taken] at found
    rcases IdMap.find?_foldl_insert tasks Task.id (fun t => t) found with ⟨t, mem, rfl, rfl⟩ | found
    · obtain ⟨g', source', -, g₀, given, rfl, same⟩ :=
        ok.sources id' ((ok.migrations id').1 migration)
      cases source.symm.trans source'
      obtain ⟨d, n, rfl⟩ := own t mem
      refine ⟨rfl, ⟨g₀, given, d, n, by rw [Generator.task_congr same]⟩, ?_⟩
      have named : g.id = g₀.id := congrArg Migration.id same
      refine ⟨?_, _, named ▸ after.self, ?_⟩
      · show s'.progress.generators.contains g.id = true
        rw [named, belongs.1, migration]
      · exact List.mem_append_right _ (List.mem_map_of_mem mem)
    · exact known found

/-- Every task of the bookkeeping is known after a step. -/
theorem Effect.tasked (h : Effect env s s') (ok : s.Consistent env generators w) {id : Identifier}
    (known : s'.progress.children.contains id = true) : s'.tasks.contains id = true := by
  cases h with
  | quiet stands same =>
    rw [stands.children] at known
    rw [same]
    exact ok.tasked (known.resolve_right List.not_mem_nil)
  | ends _ _ _ _ _ _ _ _ _ _ after same =>
    rw [after.children] at known
    rw [same]
    exact ok.tasked (known.resolve_right List.not_mem_nil)
  | fansOut id' old g tasks errors migration source before pending own after taken =>
    rw [after.children] at known
    rw [taken, IdMap.contains_foldl_insert tasks Task.id fun t => t]
    exact known.symm.imp_right ok.tasked

/-- After a step the tasks of a migration have identifiers made from its own. -/
theorem Effect.named (h : Effect env s s') (ok : s.Consistent env generators w)
    {group id : Identifier} (member : s'.progress.Member group id) :
    ∃ d n, id = childId group d n := by
  obtain ⟨migration, st, at_group, mem⟩ := member
  rw [h.generators] at migration
  have known {st : Standing} (at_group : s.progress.standing? group = some st)
      (mem : id ∈ st.tasks) : ∃ d n, id = childId group d n :=
    ok.named ⟨migration, st, at_group, mem⟩
  cases h with
  | quiet stands => exact known (stands.standing ▸ at_group) mem
  | ends id' group' old clean errors owner before unfinished how done after =>
    by_cases e : group = id'
    · subst e
      cases at_group.symm.trans after.self
      exact known before mem
    · exact known (after.others group e ▸ at_group) mem
  | fansOut id' old g tasks errors _ source before pending own after =>
    by_cases e : group = id'
    · subst e
      cases at_group.symm.trans after.self
      rcases List.mem_append.1 mem with mem | mem
      · exact known before mem
      · obtain ⟨t, handed, rfl⟩ := List.mem_map.1 mem
        obtain ⟨d, n, rfl⟩ := own t handed
        obtain ⟨g', source', -, g₀, -, rfl, same⟩ :=
          ok.sources group ((ok.migrations group).1 migration)
        cases source.symm.trans source'
        exact ⟨d, n, congrArg (childId · d n) (congrArg Migration.id same)⟩
    · rw [after.others group e] at at_group
      cases old_at : s.progress.standing? group with
      | some st' =>
        rw [old_at, Option.some_or] at at_group
        cases at_group
        exact known old_at mem
      | none =>
        rw [old_at, Option.none_or] at at_group
        split at at_group
        · cases at_group
          cases mem
        · cases at_group

/-- A step keeps the invariant. -/
theorem Effect.consistent (h : Effect env s s') (sources : Sources s s')
    (plain : ∀ g ∈ generators, Plain g.id) (ok : s.Consistent env generators w) :
    s'.Consistent env generators w := by
  refine ⟨fun id => ?_, fun id mem => ?_, h.tasks ok, h.tasked ok,
    h.named ok, h.lawful ok.lawful (ok.plain plain), ?_⟩
  · rw [h.generators]
    exact ok.migrations id
  · obtain ⟨g, found, sound, g₀, given, named, same⟩ := ok.sources id mem
    have related := sources id
    rw [found] at related
    cases found' : s'.generators.find? id with
    | none =>
      rw [found'] at related
      cases related
    | some g' =>
      rw [found'] at related
      cases related with
      | some related =>
        exact ⟨g', rfl, related.2 sound, g₀, given, named, related.1.trans same⟩
  · obtain ⟨rs, saves, recorded⟩ := ok.recorded
    exact h.recorded saves recorded fun found => (ok.tasks found).2.2

/-! ## The start -/

/-- A generator is found under its identifier, if no other one has it. -/
theorem start_sources (w : World) (options : RunOptions) (made : ∀ g ∈ generators, g.Made)
    {id : Identifier} (mem : id ∈ generators.map Generator.id) :
    ∃ g, (start w options generators).generators.find? id = some g ∧ g.Sound ∧
      ∃ g₀ ∈ generators, g₀.id = id ∧ g.migration = g₀.migration := by
  have known := (IdMap.contains_ofList generators Generator.id (fun g => g) id).2 mem
  obtain ⟨g, found⟩ := IdMap.find?_of_contains known
  obtain ⟨g₀, given, named, rfl⟩ := IdMap.find?_ofList generators Generator.id (fun g => g) found
  exact ⟨g₀, found, (made g₀ given).sound, g₀, given, named, rfl⟩

theorem start_consistent (w : World) (options : RunOptions) (made : ∀ g ∈ generators, g.Made) :
    (start w options generators).Consistent env generators w := by
  refine ⟨Progress.start_contains _ _, fun id => start_sources w options made, ?_, ?_, ?_,
    Progress.start_lawful _ _, [], .refl _ w, List.nodup_nil, ?_, ?_, ?_⟩
  · exact fun found => by cases found
  · exact fun known => by cases known
  · rintro group id ⟨-, st, at_group, mem⟩
    rw [Progress.start_standing at_group] at mem
    cases mem
  · exact fun r mem => absurd mem List.not_mem_nil
  · exact fun r mem => absurd mem List.not_mem_nil
  · intro id st at_id clean
    rw [Progress.start_standing at_id] at clean
    cases clean

/-! ## Rounds -/

/-- What follows a round counts it and leaves everything else as it is. -/
theorem conclude_fst (pollInterval : Nat) (progressed : Bool) (s : RunState) :
    ∃ w, (s.conclude pollInterval progressed).1 = { s.endRound progressed with world := w } ∧
      ∀ R, World.Frame R → R s.world w := by
  have frame {R : World → World → Prop} (frame : World.Frame R) :=
    s.conclude_frame frame pollInterval progressed
  have counted : (s.conclude pollInterval progressed).1 = { s.endRound progressed with
      world := (s.conclude pollInterval progressed).1.world } := by
    unfold conclude
    dsimp only
    split
    · rfl
    split
    · rfl
    split
    · rfl
    split <;> rfl
  exact ⟨_, counted, fun _ => frame⟩

/-- The verdict on a task changes no migration. -/
theorem record_generators_of_task {p : Progress} {id : Identifier}
    (task : p.generators.contains id = false) (verdict : Verdict) :
    (record p id verdict).1.generators = p.generators := by
  cases verdict with
  | waiting state =>
    show (p.observe id state).generators = _
    rw [Progress.observe, task]
    rfl
  | _ => rfl

section

variable {env : Environment} {workers : Nat} {flights : List Flight} {s : RunState}
  {r : RunState × List Flight × Step} (works : Works env workers flights s r)

include works

theorem work_sources : r.1.generators = s.generators := by
  cases works <;> rfl

/-- The tasks at work change no migration. -/
theorem work_generators (lawful : s.progress.Lawful) (expected : s.Expects flights) :
    r.1.progress.generators = s.progress.generators := by
  cases works with
  | goesOn => rfl
  | ends before f behind world verdict among room step =>
    obtain ⟨e, found, -⟩ :=
      expected.pending f (among ▸ List.mem_append_cons_self)
    exact record_generators_of_task (lawful.apart (IdMap.contains_of_find? found)) verdict

end

theorem close_generators (env : Environment) (id : Identifier) (hasErrors : Bool) (s : RunState) :
    (s.close env id hasErrors).1.generators = s.generators := by
  unfold close
  split <;> rfl

theorem settledGenerators_flag {p : Progress} {x : Identifier × Bool}
    (h : x ∈ p.settledGenerators) : ∃ g, p.generators.find? x.1 = some g ∧ p.isSettled g = true ∧
      x.2 = (!g.entry.errors.isEmpty || decide (0 < p.failedChildren g)) := by
  obtain ⟨⟨id, g⟩, mem, rfl⟩ := List.mem_map.1 h
  obtain ⟨mem, settled⟩ := List.mem_filter.1 mem
  exact ⟨g, Keyed.find?_of_mem p.generators.ascending mem, settled, rfl⟩

theorem close_children (env : Environment) (id : Identifier) (hasErrors : Bool) (s : RunState) :
    (s.close env id hasErrors).1.progress.children = s.progress.children := by
  unfold close
  split <;> rfl

end RunState

namespace Moment

variable {env : Environment} {generators : List Generator} {w : World} {m : Moment}

/-- What the next step of a run is: a question to a migration, a step of one of the tasks at work,
or the closing of a migration; otherwise the tasks of a round begin, or time passes and rounds are
counted. -/
inductive Transition (env : Environment) (options : RunOptions) (m m' : Moment) : Prop where
  | asks (id : Identifier) (ids : List Identifier) (progressed : Bool)
      (stage : m.stage = .asking (id :: ids) progressed)
      (state : m'.state = (m.state.advance env id).1)
      (canceled : (m.state.advance env id).2 = .canceled → m'.stage = .over true)
      (grounded : m'.stage.flights = [])
  | starts (progressed : Bool) (stage : m.stage = .asking [] progressed)
      (next : m' = ⟨.working m.state.flights progressed false, m.state⟩)
  | works (flights : List Flight) (progressed canceled : Bool) (left : flights ≠ [])
      (stage : m.stage = .working flights progressed canceled)
      (r : RunState × List Flight × Step)
      (works : m.state.Works env options.workers flights r)
      (next : m' = ⟨.working r.2.1 (progressed || r.2.2 == .moved)
        (canceled || r.2.2 == .canceled), r.1⟩)
  | closes (id : Identifier) (hasErrors : Bool) (settled : List (Identifier × Bool))
      (progressed : Bool) (stage : m.stage = .closing ((id, hasErrors) :: settled) progressed)
      (state : m'.state = (m.state.close env id hasErrors).1) (grounded : m'.stage.flights = [])
  | waits (rounds idleRounds : Nat) (w : World)
      (idle : ∀ id ids progressed, m.stage ≠ .asking (id :: ids) progressed)
      (state : m'.state = { m.state with
        world := w, progress := { m.state.progress with rounds, idleRounds } })
      (frame : ∀ R, World.Frame R → R m.state.world w) (grounded : m'.stage.flights = [])

theorem next_transition (env : Environment) (options : RunOptions) (m : Moment) :
    Transition env options m (m.next env options) := by
  obtain ⟨stage, s⟩ := m
  match stage with
  | .opening =>
    rw [next]
    split <;> exact .waits _ _ s.yield.world (by simp) rfl (fun _ frame => frame.yield _) rfl
  | .over canceled => exact .waits _ _ s.world (by simp) rfl (fun _ frame => frame.refl _) rfl
  | .asking [] progressed => exact .starts progressed rfl rfl
  | .asking (id :: ids) progressed =>
    refine .asks id ids progressed rfl ?_ ?_ ?_
    · rw [next]
      obtain ⟨s', _ | _ | _⟩ := s.advance env id <;> rfl
    · rw [next]
      obtain ⟨s', _ | _ | _⟩ := s.advance env id <;> rintro ⟨⟩
      rfl
    · rw [next]
      obtain ⟨s', _ | _ | _⟩ := s.advance env id <;> rfl
  | .working [] progressed canceled =>
    rw [next]
    split <;> exact .waits _ _ s.world (by simp) rfl (fun _ frame => frame.refl _) rfl
  | .working (f :: fs) progressed canceled =>
    exact .works (f :: fs) progressed canceled (List.cons_ne_nil _ _) rfl _
      (RunState.work_cases env options.workers (List.cons_ne_nil f fs) s) rfl
  | .closing [] progressed =>
    obtain ⟨w, counted, frame⟩ := s.conclude_fst options.pollInterval progressed
    rw [next]
    generalize s.conclude options.pollInterval progressed = r at *
    obtain ⟨s', _ | _⟩ := r <;> exact .waits _ _ w (by simp) counted frame rfl
  | .closing ((id, hasErrors) :: settled) progressed =>
    refine .closes id hasErrors settled progressed rfl ?_ ?_
    · rw [next]
      obtain ⟨s', _ | _ | _⟩ := s.close env id hasErrors <;> rfl
    · rw [next]
      obtain ⟨s', _ | _ | _⟩ := s.close env id hasErrors <;> rfl

/-- While tasks are at work, the next step is one of theirs. -/
theorem next_of_flight {f : Flight} (mem : f ∈ m.stage.flights) (env : Environment)
    (options : RunOptions) : ∃ flights progressed canceled r,
      m.stage = .working flights progressed canceled ∧
      m.state.Works env options.workers flights r ∧
      m.next env options = ⟨.working r.2.1 (progressed || r.2.2 == .moved)
        (canceled || r.2.2 == .canceled), r.1⟩ := by
  obtain ⟨stage, s⟩ := m
  match stage, mem with
  | .working (g :: gs) progressed canceled, _ =>
    exact ⟨g :: gs, progressed, canceled, _, rfl,
      RunState.work_cases env options.workers (List.cons_ne_nil g gs) s, rfl⟩

/-! ## Tasks at work -/

/-- From `s` to `s'` a task goes one step further, or comes to its verdict. -/
inductive Goes (env : Environment) (f : Flight) (s : RunState) : RunState → Prop where
  | on {world : World} {evaluation : Evaluation}
      (step : f.evaluation.step env f.task s.world.takeTurn.2 = (world, .inl evaluation)) :
      Goes env f s { s with world }
  | ends {world : World} {verdict : Verdict}
      (step : f.evaluation.step env f.task s.world.takeTurn.2 = (world, .inr verdict)) :
      Goes env f s
        { s with world, progress := (RunState.record s.progress f.task.id verdict).1 }

theorem works_goes {env : Environment} {workers : Nat} {flights : List Flight} {s : RunState}
    {r : RunState × List Flight × Step} (h : s.Works env workers flights r) :
    ∃ f ∈ flights, Goes env f s r.1 := by
  cases h with
  | goesOn front f behind world evaluation among room step =>
    exact ⟨f, among ▸ List.mem_append_cons_self, .on step⟩
  | ends front f behind world verdict among room step =>
    exact ⟨f, among ▸ List.mem_append_cons_self, .ends step⟩

/-- What holds of each task that begins, and after its own steps and those of the others, holds of
all tasks at work after a step. -/
theorem next_flights {P : Flight → Prop} {options : RunOptions} (todo : m.stage.Sound m.state)
    (fresh : ∀ progressed, m.stage = .asking [] progressed →
      ∀ t, Flight.fresh t ∈ m.state.flights → P (.fresh t))
    (own : ∀ f ∈ m.stage.flights, ∀ world evaluation,
      (m.next env options).state = { m.state with world } →
      f.evaluation.step env f.task m.state.world.takeTurn.2 = (world, .inl evaluation) →
      P { f with evaluation })
    (others : ∀ f ∈ m.stage.flights, ∀ g ∈ m.stage.flights, g.task.id ≠ f.task.id →
      Goes env g m.state (m.next env options).state → P f) :
    ∀ f ∈ (m.next env options).stage.flights, P f := by
  cases m.next_transition env options with
  | asks _ _ _ _ _ _ grounded | closes _ _ _ _ _ _ grounded | waits _ _ _ _ _ _ grounded =>
    exact fun f mem => absurd (grounded ▸ mem) List.not_mem_nil
  | starts progressed stage next =>
    rw [next]
    intro f mem
    obtain ⟨id, -, found⟩ := List.mem_filterMap.1 mem
    obtain ⟨t, -, rfl⟩ := Option.map_eq_some_iff.1 found
    exact fresh progressed stage t mem
  | works flights progressed canceled left stage r works next =>
    rw [next] at own others ⊢
    rw [stage] at todo own others
    obtain ⟨distinct, -, -⟩ := todo
    -- The task that goes on stands between the others.
    have apart {front behind : List Flight} {g f : Flight} (among : flights = front ++ g :: behind)
        (mem : f ∈ front ++ behind) : f ∈ flights ∧ g ∈ flights ∧ g.task.id ≠ f.task.id := by
      subst among
      rw [List.map_append, List.map_cons, List.perm_middle.nodup_iff, List.nodup_cons,
        ← List.map_append] at distinct
      refine ⟨?_, List.mem_append_cons_self, fun e => distinct.1 ?_⟩
      · exact ((List.sublist_append_right [g] behind).append_left front).subset mem
      · exact e ▸ List.mem_map_of_mem mem
    intro f mem
    cases works with
    | goesOn front g behind world evaluation among room step =>
      by_cases moved : f ∈ front ++ behind
      · obtain ⟨mem, mem', ne⟩ := apart among moved
        exact others f mem g mem' ne (.on step)
      · have same : f = { g with evaluation } := by
          rcases List.mem_append.1 mem with mem | mem
          · exact absurd (List.mem_append_left _ mem) moved
          · exact (List.mem_cons.1 mem).resolve_right fun mem =>
              moved (List.mem_append_right _ mem)
        rw [same]
        exact own g (among ▸ List.mem_append_cons_self) world evaluation rfl step
    | ends front g behind world verdict among room step =>
      obtain ⟨mem, mem', ne⟩ := apart among mem
      exact others f mem g mem' ne (.ends step)

/-- What is left of the operations at work keeps to what is asked of them. -/
def Obeys (R : Task → Scene → Scene → Prop) (E : Task → Outcome → Prop) (m : Moment) : Prop :=
  ∀ f ∈ m.stage.flights, f.evaluation.Obeys (R f.task) (E f.task)

theorem Obeys.next {R : Task → Scene → Scene → Prop} {E : Task → Outcome → Prop}
    (ops : env.registry.Obeys R E) (options : RunOptions) (todo : m.stage.Sound m.state)
    (h : m.Obeys R E) : (m.next env options).Obeys R E :=
  next_flights (P := fun f => f.evaluation.Obeys (R f.task) (E f.task)) todo
    (fun _ _ _ _ => trivial) (fun f mem _ _ _ step => (h f mem).step ops step)
    fun f mem _ _ _ _ => h f mem

/-- The invariant of a run at a moment. -/
structure Sound (env : Environment) (generators : List Generator) (w : World) (m : Moment) :
    Prop where
  state : m.state.Consistent env generators w
  stage : m.stage.Sound m.state
  /-- No operation at work saves a completion record. -/
  scripts : m.Obeys (fun _ a b => b.store.recordsOf.get env.metadata =
    a.store.recordsOf.get env.metadata) fun _ _ => True

/-- Each step has one of the effects. -/
theorem next_effect (options : RunOptions) (h : m.Sound env generators w) :
    RunState.Effect env m.state (m.next env options).state ∧
      RunState.Sources m.state (m.next env options).state := by
  obtain ⟨ok, todo, keeps⟩ := h
  cases m.next_transition env options with
  | asks id ids progressed stage state =>
    rw [stage] at todo
    obtain ⟨e, found, pending⟩ := todo.2 id List.mem_cons_self
    rw [state]
    refine ⟨RunState.advance_effect ok.lawful found pending fun g source => ?_,
      RunState.advance_sources env id m.state⟩
    have known := IdMap.contains_of_find? found
    obtain ⟨g', source', sound, -⟩ := ok.sources id ((ok.migrations id).1 known)
    cases source.symm.trans source'
    exact sound
  | starts progressed stage next =>
    rw [next]
    exact ⟨.quiet .rfl rfl (.refl _ _), .refl _⟩
  | works flights progressed canceled left stage r works next =>
    rw [stage] at todo
    rw [next]
    refine ⟨RunState.work_effect ok.lawful todo (fun f mem => keeps f ?_) works, ?_⟩
    · rw [stage]
      exact mem
    · cases works <;> exact .of_eq rfl
  | closes id hasErrors settled progressed stage state =>
    rw [stage] at todo
    obtain ⟨g, found, is_settled, flag⟩ := todo.2 (id, hasErrors) List.mem_cons_self
    have effect := RunState.close_effect env ok.lawful found is_settled
    rw [← flag] at effect
    rw [state]
    exact ⟨effect, .of_eq (RunState.close_generators env id hasErrors m.state)⟩
  | waits rounds idleRounds world idle state frame =>
    rw [state]
    exact ⟨.quiet (Progress.counted_stands _ _ _) rfl (frame _ (World.saves_frame _)), .of_eq rfl⟩

/-- What is left to do stays there to be done: a question to one migration, a step of one task or
the closing of one migration changes no other one. -/
theorem next_stage (env : Environment) (options : RunOptions)
    (todo : m.stage.Sound m.state) :
    (m.next env options).stage.Sound (m.next env options).state := by
  obtain ⟨stage, s⟩ := m
  match stage, todo with
  | .opening, _ =>
    rw [next]
    split
    · trivial
    · exact ⟨RunState.pendingGenerators_nodup _, fun _ => RunState.mem_pendingGenerators⟩
  | .over canceled, _ => trivial
  | .asking [] progressed, _ => exact s.flights_expected
  | .asking (id :: ids) progressed, ⟨nodup, todo⟩ =>
    obtain ⟨new, nodup⟩ := List.nodup_cons.1 nodup
    obtain ⟨e, found, pending⟩ := todo id List.mem_cons_self
    have others {id' : Identifier} (mem : id' ∈ ids) :
        ∃ g, (s.advance env id).1.progress.generators.find? id' = some g ∧
          g.entry.phase = .pending := by
      rw [RunState.advance_generators_of_ne found fun e => new (e ▸ mem)]
      exact todo id' (List.mem_cons_of_mem _ mem)
    rw [next]
    generalize s.advance env id = r at *
    obtain ⟨s', _ | _ | _⟩ := r
    · exact ⟨nodup, fun _ => others⟩
    · exact ⟨nodup, fun _ => others⟩
    · trivial
  | .working [] progressed canceled, _ =>
    rw [next]
    split
    · trivial
    · exact ⟨RunState.settledGenerators_nodup _, fun _ => RunState.settledGenerators_flag⟩
  | .working (f :: fs) progressed canceled, expected =>
    exact RunState.Expects.work expected
      (RunState.work_cases env options.workers (List.cons_ne_nil f fs) s)
  | .closing [] progressed, _ =>
    rw [next]
    split <;> trivial
  | .closing ((id, hasErrors) :: settled) progressed, ⟨nodup, todo⟩ =>
    obtain ⟨new, nodup⟩ := List.nodup_cons.1 nodup
    have others {x : Identifier × Bool} (mem : x ∈ settled) :
        ∃ g, (s.close env id hasErrors).1.progress.generators.find? x.1 = some g ∧
          (s.close env id hasErrors).1.progress.isSettled g = true ∧
          x.2 = (!g.entry.errors.isEmpty ||
            decide (0 < (s.close env id hasErrors).1.progress.failedChildren g)) := by
      have ne : x.1 ≠ id := fun e => new (List.mem_map.2 ⟨x, mem, e⟩)
      have same := RunState.close_children env id hasErrors s
      simp only [RunState.close_generators_of_ne ne, Progress.isSettled_congr same,
        Progress.failedChildren_congr same]
      exact todo x (List.mem_cons_of_mem _ mem)
    rw [next]
    generalize s.close env id hasErrors = r at *
    obtain ⟨s', _ | _ | _⟩ := r
    · exact ⟨nodup, fun _ => others⟩
    · exact ⟨nodup, fun _ => others⟩
    · trivial

theorem Sound.next (ops : env.registry.KeepsRecords env.metadata)
    (plain : ∀ g ∈ generators, Plain g.id) (options : RunOptions) (h : m.Sound env generators w) :
    (m.next env options).Sound env generators w := by
  obtain ⟨effect, sources⟩ := m.next_effect options h
  exact ⟨effect.consistent sources plain h.state, m.next_stage env options h.stage,
    h.scripts.next ops options h.stage⟩

end Moment

/-! ## All moments -/

namespace World

variable {env : Environment} {generators : List Generator}

/-- What is left to do at a moment is there to be done. -/
theorem moment_stage (w : World) (options : RunOptions) (n : Nat) :
    (w.moment env options generators n).stage.Sound (w.moment env options generators n).state :=
  moment_induction (P := fun m => m.stage.Sound m.state) trivial
    (fun m => m.next_stage env options) n

/-- What is asked of operations is kept at each moment by what is left of them. -/
theorem moment_obeys {R : Task → Scene → Scene → Prop} {E : Task → Outcome → Prop}
    (ops : env.registry.Obeys R E) (w : World) (options : RunOptions) (n : Nat) :
    (w.moment env options generators n).Obeys R E := by
  induction n with
  | zero => exact fun _ mem => absurd mem List.not_mem_nil
  | succ n ih => exact ih.next ops options (moment_stage w options n)

section

variable (plain : ∀ g ∈ generators, Plain g.id) (made : ∀ g ∈ generators, g.Made)
  (ops : env.registry.KeepsRecords env.metadata)

include plain made ops

/-- The invariant holds at every moment of a run. -/
theorem moment_sound (w : World) (options : RunOptions) (n : Nat) :
    (w.moment env options generators n).Sound env generators w :=
  moment_induction ⟨RunState.start_consistent w options made, trivial,
    fun _ mem => absurd mem List.not_mem_nil⟩ (fun _ h => h.next ops plain options) n

theorem moment_effect (w : World) (options : RunOptions) (n : Nat) :
    RunState.Effect env (w.moment env options generators n).state
      (w.moment env options generators (n + 1)).state :=
  (Moment.next_effect options (moment_sound plain made ops w options n)).1

/-- What belongs to a migration at a moment belongs to it later. -/
theorem moment_belongs (w : World) (options : RunOptions) {n k : Nat} (later : n ≤ k) :
    Progress.Belongs (w.moment env options generators n).state.progress
      (w.moment env options generators k).state.progress := by
  induction later with
  | refl => exact ⟨fun _ => rfl, fun member => member⟩
  | @step k _ ih =>
    have step := (moment_effect plain made ops w options k).belongs
    exact ⟨fun id => (step.1 id).trans (ih.1 id), fun member => step.2 (ih.2 member)⟩

/-- The tasks of a migration that is no longer pending stay the same. -/
theorem moment_begun (w : World) (options : RunOptions) {n k : Nat} (later : n ≤ k)
    {id : Identifier} {st : Standing}
    (at_id : (w.moment env options generators n).state.progress.standing? id = some st)
    (begun : st.phase ≠ .pending) :
    ∃ st', (w.moment env options generators k).state.progress.standing? id = some st' ∧
      st'.phase ≠ .pending ∧ st'.tasks = st.tasks := by
  induction later with
  | refl => exact ⟨st, at_id, begun, rfl⟩
  | step _ ih =>
    obtain ⟨st', at_id, begun, same⟩ := ih
    obtain ⟨st'', at_id, begun, same'⟩ :=
      (moment_effect plain made ops w options _).begun at_id begun
    exact ⟨st'', at_id, begun, same'.trans same⟩

/-- What is finished at a moment stays as it is. -/
theorem moment_keeps (w : World) (options : RunOptions) {n k : Nat} (later : n ≤ k) :
    (w.moment env options generators n).state.progress.Keeps
      (w.moment env options generators k).state.progress := by
  induction later with
  | refl => exact fun at_id _ => at_id
  | step _ ih => exact Progress.Keeps.trans ih (moment_effect plain made ops w options _).keeps

end

end World

/-! ## A run of two migrations -/

/-- If there is one operation only, every one that is known is this one. -/
theorem Registry.get_single {name name' : String} {op op' : Operation}
    (h : (Registry.mk (IdMap.empty.insert name op)).get name' = .ok op') : op' = op := by
  unfold get at h
  split at h
  · rename_i op'' found
    cases h
    by_cases e : name' = name
    · rw [e] at found
      exact (Option.some.inj ((IdMap.find?_insert_self _ _ _).symm.trans found)).symm
    · cases (IdMap.find?_insert_of_ne IdMap.empty e op).symm.trans found
  · cases h

namespace Sample

/-- The document of a task gets a mark. -/
def mark : Operation := fun t =>
  .act (fun scene => ({ scene with
    store := (scene.store.setField t.namesp t.documentId "done" (.bool true)).1 }, []))
    fun _ => .done .succeeded

/-- Marking is the only operation. -/
def env : Environment := .ofRegistry ⟨IdMap.empty.insert "mark" mark⟩ .defaultMetadata

/-- The migration `z` marks the orders. -/
def orders : Generator := .new ⟨"z", ⟨"db", "orders"⟩, ⟨[]⟩, "mark", none, none, []⟩

/-- The migration `a` marks the invoices, after the orders. -/
def invoices : Generator := .new ⟨"a", ⟨"db", "invoices"⟩, ⟨[]⟩, "mark", none, none, ["z"]⟩

def generators : List Generator := [orders, invoices]

/-- One order and one invoice. -/
def world : World :=
  { World.initial with
    store := (Store.empty.insertMany ⟨"db", "orders"⟩ [[("_id", .int 1)]]).insertMany
      ⟨"db", "invoices"⟩ [[("_id", .int 1)]] }

theorem orders_mem : orders ∈ generators := List.mem_cons_self

theorem invoices_mem : invoices ∈ generators := List.mem_cons_of_mem _ List.mem_cons_self

theorem plain : ∀ g ∈ generators, Plain g.id := by decide

theorem made : ∀ g ∈ generators, g.Made := by
  intro g mem
  simp only [generators, List.mem_cons, List.not_mem_nil, or_false] at mem
  rcases mem with rfl | rfl
  · exact .new _
  · exact .new _

/-- Every operation that is known marks. -/
theorem get_eq_mark {name : String} {op : Operation} (h : env.registry.get name = .ok op) :
    op = mark :=
  Registry.get_single h

theorem keepsRecords (ns : Namespace) : env.registry.KeepsRecords ns := by
  intro name op known t
  rw [get_eq_mark known]
  refine fun scene => ⟨?_, trivial⟩
  show (scene.store.setField t.namesp t.documentId "done" (.bool true)).1.recordsOf.get ns = _
  unfold Store.setField
  split <;> rfl

/-- The world once the run is prepared. -/
def ready : World := (world.prepare env {} generators).1

theorem prepared : world.prepare env {} generators = (ready, .ok ()) :=
  Prod.ext rfl (by decide +kernel)

end Sample

end GatedMigration
