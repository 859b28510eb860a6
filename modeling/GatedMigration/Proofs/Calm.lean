import GatedMigration.Proofs.Decision
import GatedMigration.Proofs.Generators
import GatedMigration.Proofs.Inquiries

/-!
# Calm worlds

In a calm world no fault is set, and the run can neither be cancelled nor run out of time
(`World.Calm`). There everything that a run does succeeds at once, if its selectors have an answer
for every document (`Selector.Total`), and the world stays calm.

* `World.Calm.state`: an oracle answers, and it never blocks what has all its prerequisites.
* `World.Calm.run`: a scan has no failure.
* `World.Calm.saveRecord`: a record is saved.
* `Evaluation.Smooth.step`: a task at work whose prerequisites have satisfied records goes on to its
  end without errors, whatever the other tasks do to the documents meanwhile.
-/

namespace GatedMigration

/-- The selector has an answer for every document. -/
def Selector.Total (s : Selector) : Prop := ∀ d, ∃ hit, s.accepts d = .ok hit

/-- No fault is set, though calls may take time. -/
def Store.Faultless (s : Store) : Prop := ∃ latency, s.faults = { latency }

/-- No fault is set; nothing ends the run early, and nobody else is at work. -/
structure World.Calm (w : World) : Prop where
  faults : w.store.Faultless
  context : w.context = {}
  outside : w.outside = []

/-! ## Queries over documents -/

theorem Selector.Total.findMatching {s : Selector} (h : s.Total) (room : Option Nat)
    (docs : List Document) : ∃ ids, Store.findMatching s room docs = .ok ids := by
  induction docs generalizing room with
  | nil => exact ⟨[], by unfold Store.findMatching; split <;> trivial⟩
  | cons d docs ih =>
    by_cases full : room = some 0
    · exact ⟨[], by rw [full, Store.findMatching]⟩
    obtain ⟨hit, accepted⟩ := h d
    rw [Store.findMatching, accepted]
    · cases hit with
      | false => exact ih room
      | true =>
        obtain ⟨ids, found⟩ := ih (room.map (· - 1))
        exact ⟨Document.id d :: ids, by rw [found]; rfl⟩
    · exact full

namespace World.Calm

variable {w : World} (h : w.Calm)

include h

/-- Calm does not depend on the time, the documents and the records. -/
theorem of_eq {w' : World} (faults : w'.store.faults = w.store.faults)
    (context : w'.context = w.context) (outside : w'.outside = w.outside) : w'.Calm :=
  ⟨h.faults.imp fun _ same => faults.trans same, context.trans h.context,
    outside.trans h.outside⟩

theorem undisturbed : w.Undisturbed := ⟨h.context, h.outside⟩

omit h in
/-- Whatever a run does without operations leaves a calm world calm. -/
theorem frame : WideFrame fun w w' => w.Calm → w'.Calm where
  trans h k calm := k (h calm)
  yield w calm := calm.undisturbed.yield.symm ▸ calm
  turn w calm := by
    unfold takeTurn
    split
    · exact calm
    · exact calm.of_eq rfl rfl rfl
  clock _ _ calm := calm.of_eq rfl rfl rfl
  warn _ _ calm := calm.of_eq rfl rfl rfl
  counters _ _ calm := calm.of_eq rfl rfl rfl
  cursors _ _ calm := calm.of_eq rfl rfl rfl
  note _ _ _ calm := calm.of_eq rfl rfl rfl
  putRecord _ _ _ calm := calm.of_eq rfl rfl rfl
  graph _ _ calm := calm.of_eq rfl rfl rfl

/-! ## Waiting -/

theorem guardWait (ms : Nat) : ∃ w', w.guardWait ms = (w', .ok ()) ∧ w'.Calm :=
  ⟨_, h.undisturbed.guardWait ms, h.of_eq rfl rfl rfl⟩

theorem pause (ms : Nat) : ∃ w', w.pause ms = (w', true) ∧ w'.Calm :=
  ⟨_, h.undisturbed.pause ms, h.of_eq rfl rfl rfl⟩

/-! ## Queries -/

theorem findIds (env : Environment) {sel : Selector} (total : sel.Total) (ns : Namespace)
    (limit : Option Nat) : ∃ w' c, w.guard (env.findIds w.store ns sel limit) = (w', .ok c) ∧
      w'.Calm ∧ c.failsAfter = none := by
  obtain ⟨latency, faults⟩ := h.faults
  obtain ⟨t, guarded⟩ := h.undisturbed.guard (env.findIds w.store ns sel limit)
  obtain ⟨ids, found⟩ := total.findMatching (if env.limitsQueries then limit else none)
    (w.store.documents ns)
  have handed : (env.findIds w.store ns sel limit).finish
      ((env.findIds w.store ns sel limit).start w.store) =
      Store.handOut _ (Store.underFaults w.store.faults _ (Store.reported
        (Store.findMatching sel _ (w.store.documents ns)))) w.store.faults.findCursorFailsAfter
          w.store.faults.latency := rfl
  rw [handed, faults, found] at guarded
  exact ⟨_, _, guarded, h.of_eq rfl rfl rfl, rfl⟩

theorem saveRecord (metadata : Namespace) (id group : Identifier) (hasErrors : Bool) :
    ∃ w', w.saveRecord metadata id group hasErrors = (w', some []) ∧ w'.Calm := by
  obtain ⟨latency, faults⟩ := h.faults
  obtain ⟨t, guarded⟩ := h.undisturbed.guard
    (w.store.upsertRecord metadata (.finished id group hasErrors))
  have upserted (now : Store) :
      (w.store.upsertRecord metadata (.finished id group hasErrors)).finish now =
        (now.putRecord metadata (.finished id group hasErrors), .ok ()) := by
    unfold Store.upsertRecord
    rw [faults]
    rfl
  rw [upserted] at guarded
  rw [World.saveRecord, World.finishMigration, h.undisturbed.yield, guarded]
  exact ⟨_, rfl, h.of_eq rfl rfl rfl⟩

/-! ## Oracles -/

/-- An oracle has an answer, and it does not block if every prerequisite has a satisfied record. -/
theorem state {o : Oracle} (total : o.selector.Total) (metadata : Namespace) :
    ∃ w' a, o.state metadata w = (w', some a) ∧ w'.Calm ∧ a ≠ .unresolved ∧
      ((∀ id ∈ o.edges, w.Satisfied metadata id) → a ≠ .blocked) := by
  obtain ⟨w', answer, undisturbed, same⟩ := h.undisturbed.state o metadata
  obtain ⟨latency, faults⟩ := h.faults
  have countable : w.store.countable o.namesp o.selector = true :=
    Store.countable_iff.2 ⟨by rw [faults], by rw [faults], fun d _ => total d⟩
  refine ⟨w', _, answer, ⟨⟨latency, same.trans faults⟩, undisturbed.context,
    undisturbed.outside⟩, ?_, fun all => ?_⟩ <;> rw [Store.decision, countable]
  · cases w.store.anyMatching o.namesp o.selector <;> cases o.edges.toList.isEmpty <;>
      cases w.store.releases metadata o.edges.toList <;> decide
  · have released : w.store.releases metadata o.edges.toList = true :=
      Store.releases_iff.2 ⟨by rw [faults], all, fun n fails => by
        rw [faults] at fails
        cases fails⟩
    rw [released, Bool.or_true]
    cases w.store.anyMatching o.namesp o.selector <;> decide

/-! ## Scans -/

theorem collect (g : Generator) {c : Cursor Value} (sound : c.failsAfter = none)
    (items : List Value) (produced : Nat) :
    ∃ w' tasks, g.collect c items produced w = (w', tasks, .ok ()) ∧ w'.Calm := by
  have unfailing (n : Nat) : Cursor.failure? { c with yielded := n } = none := by
    rw [Cursor.failure?, sound]
  induction items generalizing produced w with
  | nil =>
    obtain ⟨w', waited, calm⟩ := h.guardWait c.latency
    rw [Generator.collect, waited]
    dsimp only
    rw [unfailing]
    exact ⟨w', _, rfl, calm⟩
  | cons d items ih =>
    obtain ⟨w', waited, calm⟩ := h.guardWait c.latency
    rw [Generator.collect, waited]
    dsimp only
    rw [unfailing]
    dsimp only
    split
    · exact ⟨w', _, rfl, calm⟩
    · obtain ⟨w'', tasks, collected, calm⟩ := ih calm (produced + 1)
      rw [collected]
      exact ⟨w'', _, rfl, calm⟩

/-- A scan comes to its end without a failure. -/
theorem run {g : Generator} (total : g.migration.selector.Total) (env : Environment) :
    ∃ w' g' n, g.run env w = (w', g', .ok n) ∧ w'.Calm ∧ g'.errors = g.errors := by
  obtain ⟨w', c, found, calm, sound⟩ :=
    h.findIds env total g.migration.namesp g.migration.limit
  obtain ⟨w'', tasks, collected, calm⟩ := calm.collect g sound c.items c.yielded
  rw [Generator.run, Generator.scan, h.undisturbed.yield, found]
  dsimp only
  rw [collected]
  exact ⟨_, _, _, rfl, calm.of_eq rfl rfl rfl, rfl⟩

end World.Calm

/-! ## Tasks at work -/

/-- No fault is set, and nothing ends the run early. -/
structure Scene.Calm (scene : Scene) : Prop where
  faults : scene.store.Faultless
  context : scene.context = {}

/-- Operations that always succeed and leave a calm world calm. -/
def Registry.Reliable (r : Registry) : Prop :=
  r.Obeys (fun _ a b => a.Calm → b.Calm) fun _ outcome => outcome = .succeeded

theorem Registry.get_of_contains {r : Registry} {name : String} (h : r.contains name = true) :
    ∃ op, r.get name = .ok op := by
  obtain ⟨op, found⟩ := Option.isSome_iff_exists.1 h
  exact ⟨op, by rw [Registry.get, found]⟩

namespace Inquiry

variable {o : Oracle} {metadata : Namespace} {w : World}

/-- A question that is going to find a task with satisfied prerequisites ready, or finished. -/
def Smooth (o : Oracle) : Inquiry → Prop
  | fresh | counted => True
  | counting q | querying q => q.asked.Faultless
  | reading c items satisfied | waiting c items satisfied _ => c.failsAfter = none ∧
      (∀ r ∈ items, r.satisfied = true) ∧ o.edges.toList.length ≤ satisfied + items.length

/-- What the next step of such a question leads to. -/
def Next.Smooth (o : Oracle) : Next → Prop
  | .inl i => i.Smooth o
  | .inr answer => answer = some .ready ∨ answer = some .passed

theorem afterCount_smooth (total : o.selector.Total) {q : World.Underway}
    (smooth : q.asked.Faultless) (calm : w.Calm) :
    (afterCount o (w.complete o.count q)).2.Smooth o := by
  obtain ⟨latency, faults⟩ := smooth
  obtain ⟨t, done⟩ := calm.undisturbed.complete o.count q
  obtain ⟨n, counted, -⟩ := Store.countMatching_ok (w.store.documents o.namesp)
    fun d _ => total d
  have finish : (o.count q.asked).finish w.store = (w.store, Store.underFaults q.asked.faults
      (q.asked.faults.countError.map .query)
      (Store.reported (Store.countMatching o.selector (w.store.documents o.namesp)))) := rfl
  rw [faults, counted] at finish
  rw [done, finish]
  unfold afterCount
  dsimp only [Store.underFaults, Store.reported, Except.mapError, Option.map_none]
  split
  · exact Or.inr rfl
  split
  · exact Or.inl rfl
  · trivial

theorem afterQuery_smooth (released : ∀ id ∈ o.edges, w.Satisfied metadata id)
    {q : World.Underway} (smooth : q.asked.Faultless) (calm : w.Calm) :
    (afterQuery metadata (w.complete (o.findRecords metadata) q)).2.Smooth o := by
  obtain ⟨latency, faults⟩ := smooth
  obtain ⟨t, done⟩ := calm.undisturbed.complete (o.findRecords metadata) q
  have finish : (o.findRecords metadata q.asked).finish w.store =
      w.store.handOut (Store.underFaults q.asked.faults
        (q.asked.faults.recordQueryError.map .query) (Store.reported
          (Store.matchingRecords (Selector.idIn o.edges.toList) (w.store.records metadata))))
        q.asked.faults.recordCursorFailsAfter q.asked.faults.latency := rfl
  rw [faults, Store.matchingRecords_idIn] at finish
  rw [done, finish]
  obtain ⟨good, enough⟩ := RecordBook.among_of_find?
    (Keyed.nodup_of_ascending o.edges.ascending) released
  exact ⟨rfl, good, (Nat.zero_add _).symm ▸ enough⟩

theorem afterWait_smooth {c : Cursor CompletionRecord} {items : List CompletionRecord}
    {satisfied : Nat} (sound : c.failsAfter = none) (good : ∀ r ∈ items, r.satisfied = true)
    (enough : o.edges.toList.length ≤ satisfied + items.length) {q : World.Underway}
    (calm : w.Calm) :
    (afterWait o metadata c items satisfied (w.complete c.wait q)).2.Smooth o := by
  obtain ⟨t, done⟩ := calm.undisturbed.complete c.wait q
  have unfailing : Cursor.failure? { c with yielded := satisfied } = none := by
    rw [Cursor.failure?, sound]
  rw [done]
  unfold afterWait
  dsimp only [Cursor.wait]
  rw [unfailing]
  cases items with
  | nil => exact Or.inl (congrArg some (if_neg (Nat.not_lt.2 enough)))
  | cons r items =>
    dsimp only
    rw [if_pos (good r List.mem_cons_self)]
    refine ⟨sound, fun r mem => good r (List.mem_cons_of_mem _ mem), ?_⟩
    rw [List.length_cons] at enough
    omega

/-- A question of a task whose prerequisites have satisfied records goes on to its answer. -/
theorem Smooth.step {i : Inquiry} (smooth : i.Smooth o) (total : o.selector.Total) (calm : w.Calm)
    (released : ∀ id ∈ o.edges, w.Satisfied metadata id) : (i.step o metadata w).2.Smooth o := by
  -- A call starts, and what it asks is asked without faults.
  have started {α : Type} (c : Store → Call α) {underway : World.Underway → Inquiry}
      {answered : World × Except StoreFailure α → World × Next}
      (smooth : ∀ q, q.asked.Faultless → (underway q).Smooth o) :
      (call w.yield c underway answered).2.Smooth o := by
    unfold call
    rw [calm.undisturbed.yield, calm.undisturbed.begin]
    exact smooth _ calm.faults
  cases i with
  | fresh => exact started o.count fun _ faultless => faultless
  | counting q => exact afterCount_smooth total smooth calm
  | counted => exact started (o.findRecords metadata) fun _ faultless => faultless
  | querying q => exact afterQuery_smooth released smooth calm
  | reading c items satisfied => exact started c.wait fun _ _ => smooth
  | waiting c items satisfied q =>
    obtain ⟨sound, good, enough⟩ := smooth
    exact afterWait_smooth sound good enough calm

end Inquiry

namespace Evaluation

variable {env : Environment} {t : Task} {w : World}

/-- A task at work that is going to come to its end without errors. -/
def Smooth (t : Task) : Evaluation → Prop
  | asking i => i.Smooth t.oracle
  | ready => True
  | applying script => script.Keeps (fun a b => a.Calm → b.Calm) fun outcome => outcome = .succeeded
  | saving ending => ending.errors = []
  | writing ending q => ending.errors = [] ∧ q.asked.Faultless

/-- What the next step of such a task leads to. -/
def Next.Smooth (t : Task) : Next → Prop
  | .inl e => e.Smooth t
  | .inr verdict => verdict = .executed [] ∨ verdict = .passed []

/-- A task whose prerequisites have satisfied records goes on to its end without errors. -/
theorem Smooth.step {e : Evaluation} (smooth : e.Smooth t) (reliable : env.registry.Reliable)
    (registered : env.registry.contains t.operation = true) (total : t.oracle.selector.Total)
    (calm : w.Calm) (released : ∀ id ∈ t.oracle.edges, w.Satisfied env.metadata id) :
    (e.step env t w).1.Calm ∧ (e.step env t w).2.Smooth t := by
  match e with
  | .asking i =>
    have next := Inquiry.Smooth.step smooth total calm released
    have calm := i.step_frame World.Calm.frame.toFrame t.oracle env.metadata w calm
    rw [Evaluation.step]
    generalize i.step t.oracle env.metadata w = p at *
    obtain ⟨v, i' | answer⟩ := p
    · exact ⟨calm, next⟩
    · rcases next with rfl | rfl
      · exact ⟨calm, trivial⟩
      · exact ⟨calm, rfl⟩
  | .ready =>
    obtain ⟨op, known⟩ := Registry.get_of_contains registered
    rw [Evaluation.step, launch, known]
    exact ⟨calm.of_eq rfl rfl rfl, reliable known t⟩
  | .applying (.act part rest) =>
    rw [Evaluation.step, calm.undisturbed.yield]
    obtain ⟨keeps, rest⟩ := smooth w.scene
    obtain ⟨faults, context⟩ := keeps ⟨calm.faults, calm.context⟩
    exact ⟨⟨faults, context, calm.outside⟩, rest⟩
  | .applying (.done outcome) =>
    obtain rfl : outcome = .succeeded := smooth
    exact ⟨calm.of_eq rfl rfl rfl, rfl⟩
  | .saving ending =>
    rw [Evaluation.step, calm.undisturbed.yield, calm.undisturbed.begin]
    exact ⟨calm.of_eq rfl rfl rfl, smooth, calm.faults⟩
  | .writing ending q =>
    obtain ⟨none, latency, faults⟩ := smooth
    obtain ⟨c, done⟩ := calm.undisturbed.complete (save env t ending) q
    have finish : (save env t ending q.asked).finish w.store =
        (w.store.putRecord env.metadata (record t ending), .ok ()) := by
      unfold save Store.upsertRecord
      rw [faults]
      rfl
    rw [Evaluation.step, done, finish]
    refine ⟨calm.of_eq rfl rfl rfl, ?_⟩
    cases ending with
    | passed => exact Or.inr rfl
    | executed error =>
      obtain rfl : error = .none := Option.toList_eq_nil_iff.1 none
      exact Or.inl rfl

end Evaluation

end GatedMigration
