import GatedMigration.Run

/-!
# What a run does apart from its operations

Operations may do anything to what they can reach. Everything else that a run does to the world is
put together of a few things. To ask an oracle or to scan a migration is made of waits, queries and
warnings: a relation between worlds that holds across these (`World.Frame`) holds across the whole
question (`Oracle.state_frame`, `Inquiry.step_frame`) and across the whole scan
(`Generator.scan_frame`). If it also holds across the saving of a record and across lines of the
journal that are about no operation (`World.RecordFrame`), it holds across the closing of a
migration and the steps of a task other than those of its operation (`RunState.close_frame`,
`Evaluation.step_frame`). If it holds across changes of the graph too (`World.WideFrame`), it holds
across the question to a migration that fans out (`RunState.advance_frame`).
-/

namespace GatedMigration

/-- A relation between an earlier and a later world that holds across waits, queries and
warnings. -/
structure World.Frame (R : World → World → Prop) : Prop where
  trans : ∀ {u v w}, R u v → R v w → R u w
  yield : ∀ w, R w w.yield
  turn : ∀ w, R w w.takeTurn.2
  clock : ∀ w t, R w { w with clock := t }
  warn : ∀ w x, R w (w.warn x)
  counters : ∀ w counters, R w { w with store := { w.store with counters } }
  cursors : ∀ w openCursors, R w { w with store := { w.store with openCursors } }

/-- The task that an event is about: its operation was called, or has ended. -/
def Event.about? : Event → Option Identifier
  | applied t => some t.id
  | returned id _ => some id
  | _ => none

/-- A relation between an earlier and a later world that also holds when a record is saved and
something is noted, other than the beginning and the end of an operation. -/
structure World.RecordFrame (R : World → World → Prop) : Prop extends World.Frame R where
  note : ∀ w e, e.about? = none → R w (w.note e)
  putRecord : ∀ w ns r, R w { w with store := w.store.putRecord ns r }

/-- A relation between an earlier and a later world that holds across whatever a run does without
operations. -/
structure World.WideFrame (R : World → World → Prop) : Prop extends World.RecordFrame R where
  graph : ∀ w graph, R w { w with graph }

/-- A query, which changes nothing but the counters and the number of open cursors. -/
structure Call.Asks {α : Type} (c : Call α) : Prop where
  start : ∀ s : Store, ∃ counters, c.start s = { s with counters }
  finish : ∀ s : Store, ∃ openCursors, (c.finish s).1 = { s with openCursors }

/-! ## Queries -/

section

variable {α : Type}

theorem Store.handOut_fst (s : Store) (items : Except StoreFailure (List α))
    (failsAfter : Option Nat) (latency : Nat) :
    ∃ openCursors, (s.handOut items failsAfter latency).1 = { s with openCursors } := by
  unfold handOut
  split <;> exact ⟨_, rfl⟩

theorem Store.count_asks (s : Store) (ns : Namespace) (sel : Selector) : (s.count ns sel).Asks :=
  ⟨fun _ => ⟨_, rfl⟩, fun s => ⟨s.openCursors, rfl⟩⟩

theorem Store.findRecords_asks (s : Store) (ns : Namespace) (ids : List Identifier) :
    (s.findRecords ns ids).Asks :=
  ⟨fun _ => ⟨_, rfl⟩, fun _ => handOut_fst _ _ _ _⟩

theorem Environment.findIds_asks (env : Environment) (s : Store) (ns : Namespace) (sel : Selector)
    (limit : Option Nat) : (env.findIds s ns sel limit).Asks :=
  ⟨fun _ => ⟨_, rfl⟩, fun _ => Store.handOut_fst _ _ _ _⟩

theorem Cursor.wait_asks (c : Cursor α) (s : Store) : (c.wait s).Asks :=
  ⟨fun s => ⟨s.counters, rfl⟩, fun s => ⟨s.openCursors, rfl⟩⟩

end

namespace World

variable {α : Type}

/-- A wait moves the time and nothing else. -/
theorem wait_fst (w : World) (ms : Nat) : ∃ t, (w.wait ms).1 = { w with clock := t } := by
  unfold wait
  dsimp only
  split
  · split
    · exact ⟨_, rfl⟩
    · split <;> exact ⟨_, rfl⟩
  · split <;> exact ⟨_, rfl⟩
  · split <;> exact ⟨_, rfl⟩
  · exact ⟨_, rfl⟩

/-- A guarded call ends without its effect, or with it. -/
theorem guard_cases (w : World) (call : Call α) :
    (∃ t e, (w.guard call).2 = .error e ∧
      ((w.guard call).1 = { w with clock := t } ∨
        (w.guard call).1 = { w with clock := t, store := call.start w.store })) ∨
    ∃ t, w.guard call = ({ w with clock := t, store := (call.finish (call.start w.store)).1 },
      (call.finish (call.start w.store)).2) := by
  unfold guard
  split
  · exact Or.inl ⟨w.clock, _, rfl, Or.inl rfl⟩
  · obtain ⟨t, ht⟩ := { w with store := call.start w.store }.wait_fst call.latency
    split
    · rename_i w' e h
      rw [h] at ht
      exact Or.inl ⟨t, e, rfl, Or.inr ht⟩
    · rename_i w' h
      rw [h] at ht
      obtain rfl : w' = _ := ht
      exact Or.inr ⟨t, rfl⟩

/-- A guarded call does not start, or it starts. -/
theorem begin_cases (w : World) (call : Store → Call α) :
    (∃ e, w.begin call = (w, .error e)) ∨
    ∃ due, w.begin call =
      ({ w with store := (call w.store).start w.store }, .ok ⟨w.store, due⟩) := by
  unfold begin
  split
  · exact Or.inl ⟨_, rfl⟩
  · exact Or.inr ⟨_, rfl⟩

/-- A guarded call that has started ends without its effect, or with it. -/
theorem complete_cases (w : World) (call : Store → Call α) (q : Underway) :
    (∃ t e, w.complete call q = ({ w with clock := t }, .error e)) ∨
    ∃ t, w.complete call q = ({ w with clock := t, store := ((call q.asked).finish w.store).1 },
      ((call q.asked).finish w.store).2) := by
  have waited : ∃ t, (if (call q.asked).latency = 0 then (w, .ok ()) else w.wake q.due).1 =
      { w with clock := t } := by
    split
    · exact ⟨w.clock, rfl⟩
    · unfold wake
      dsimp only
      split <;> exact ⟨_, rfl⟩
  unfold complete
  generalize (if (call q.asked).latency = 0 then (w, .ok ()) else w.wake q.due) = p at *
  obtain ⟨t, moved⟩ := waited
  obtain ⟨w', e | _⟩ := p <;> obtain rfl : w' = _ := moved
  · exact Or.inl ⟨t, e, rfl⟩
  · exact Or.inr ⟨t, rfl⟩

namespace Frame

variable {R : World → World → Prop} (frame : Frame R)

include frame

theorem refl (w : World) : R w w := frame.clock w w.clock

theorem closeCursor (w : World) : R w w.closeCursor := frame.cursors w (w.store.openCursors - 1)

theorem guard {w : World} {call : Call α} (asks : call.Asks) : R w (w.guard call).1 := by
  obtain ⟨counters, started⟩ := asks.start w.store
  obtain ⟨openCursors, finished⟩ := asks.finish (call.start w.store)
  have start (t : Nat) := frame.trans (frame.counters w counters) (frame.clock _ t)
  rcases w.guard_cases call with ⟨t, e, -, h | h⟩ | ⟨t, h⟩
  · rw [h]
    exact frame.clock w t
  · rw [h, started]
    exact start t
  · rw [h, finished, started]
    exact frame.trans (start t) (frame.cursors _ openCursors)

theorem guardWait (w : World) (ms : Nat) : R w (w.guardWait ms).1 := by
  unfold World.guardWait
  dsimp only
  split
  · exact frame.yield w
  · obtain ⟨t, e⟩ := w.yield.wait_fst ms
    rw [e]
    exact frame.trans (frame.yield w) (frame.clock _ t)

theorem pause (w : World) (ms : Nat) : R w (w.pause ms).1 := by
  refine frame.trans (frame.yield w) ?_
  unfold World.pause
  dsimp only
  split
  · exact frame.refl _
  · split
    · split
      · exact frame.clock _ _
      · exact frame.clock _ _
    · exact frame.clock _ _

theorem begin {w : World} {call : Store → Call α} (asks : (call w.store).Asks) :
    R w (w.begin call).1 := by
  obtain ⟨counters, started⟩ := asks.start w.store
  rcases w.begin_cases call with ⟨e, h⟩ | ⟨due, h⟩
  · rw [h]
    exact frame.refl w
  · rw [h, started]
    exact frame.counters w counters

theorem complete {w : World} {call : Store → Call α} {q : Underway} (asks : (call q.asked).Asks) :
    R w (w.complete call q).1 := by
  obtain ⟨openCursors, finished⟩ := asks.finish w.store
  rcases w.complete_cases call q with ⟨t, e, h⟩ | ⟨t, h⟩
  · rw [h]
    exact frame.clock w t
  · rw [h, finished]
    exact frame.trans (frame.clock w t) (frame.cursors _ openCursors)

end Frame

end World

/-! ## Questions and scans -/

section

variable {R : World → World → Prop} (frame : World.Frame R)

include frame

theorem Oracle.readRecords_frame (o : Oracle) (metadata : Namespace) (c : Cursor CompletionRecord)
    (items : List CompletionRecord) (satisfied : Nat) (w : World) :
    R w (o.readRecords metadata c items satisfied w).1 := by
  have waited := frame.guardWait w c.latency
  induction items generalizing satisfied w with
  | nil =>
    rw [readRecords]
    generalize w.guardWait c.latency = p at *
    split
    · exact waited
    · exact frame.trans waited (frame.warn _ _)
    · split
      · exact frame.trans waited (frame.warn _ _)
      · exact waited
  | cons r items ih =>
    rw [readRecords]
    generalize w.guardWait c.latency = p at *
    split
    · exact waited
    · exact frame.trans waited (frame.warn _ _)
    · split
      · exact frame.trans waited (frame.warn _ _)
      · dsimp only
        split
        · exact frame.trans waited (ih _ _ (frame.guardWait _ _))
        · exact waited

theorem Oracle.prerequisites_frame (o : Oracle) (metadata : Namespace) (w : World) :
    R w (o.prerequisites metadata w).1 := by
  refine frame.trans (frame.yield w) ?_
  unfold prerequisites
  dsimp only
  have asked := frame.guard (w.yield.store.findRecords_asks metadata o.edges.toList)
    (w := w.yield)
  generalize w.yield.guard _ = p at *
  split
  · exact asked
  · exact frame.trans asked (frame.warn _ _)
  · exact frame.trans asked
      (frame.trans (o.readRecords_frame frame metadata _ _ _ _) (frame.closeCursor _))

theorem Oracle.state_frame (o : Oracle) (metadata : Namespace) (w : World) :
    R w (o.state metadata w).1 := by
  refine frame.trans (frame.yield w) ?_
  unfold state
  dsimp only
  have asked := frame.guard (w.yield.store.count_asks o.namesp o.selector) (w := w.yield)
  generalize w.yield.guard _ = p at *
  split
  · exact asked
  · exact frame.trans asked (frame.warn _ _)
  · split
    · exact asked
    · split
      · exact asked
      · exact frame.trans asked (o.prerequisites_frame frame metadata _)

theorem Inquiry.step_frame (o : Oracle) (metadata : Namespace) (i : Inquiry) (w : World) :
    R w (i.step o metadata w).1 := by
  have called {α : Type} {c : Store → Call α} {underway : World.Underway → Inquiry}
      {answered : World × Except StoreFailure α → World × Next} (asks : ∀ s, (c s).Asks)
      (failed : ∀ w e, R w (answered (w, .error e)).1) :
      R w (call w.yield c underway answered).1 := by
    refine frame.trans (frame.yield w) ?_
    have begun := frame.begin (asks w.yield.store)
    unfold call
    generalize w.yield.begin c = p at *
    obtain ⟨w', e | q⟩ := p
    · exact frame.trans begun (failed w' e)
    · exact begun
  have counted (r : World × Except StoreFailure Nat) : R r.1 (afterCount o r).1 := by
    unfold afterCount
    split
    · exact frame.refl _
    · exact frame.warn _ _
    · split
      · exact frame.refl _
      · split <;> exact frame.refl _
  have found (r : World × Except StoreFailure (Cursor CompletionRecord)) :
      R r.1 (afterQuery metadata r).1 := by
    unfold afterQuery
    split
    · exact frame.refl _
    · exact frame.warn _ _
    · exact frame.refl _
  have read (c : Cursor CompletionRecord) (items : List CompletionRecord) (satisfied : Nat)
      (r : World × Except StoreFailure Unit) :
      R r.1 (afterWait o metadata c items satisfied r).1 := by
    unfold afterWait
    split
    · exact frame.closeCursor _
    · exact frame.trans (frame.warn _ _) (frame.closeCursor _)
    · split
      · exact frame.trans (frame.warn _ _) (frame.closeCursor _)
      · split
        · exact frame.closeCursor _
        · split
          · exact frame.refl _
          · exact frame.closeCursor _
  cases i with
  | fresh => exact called (fun s => s.count_asks _ _) fun w e => counted (w, .error e)
  | counting q => exact frame.trans (frame.complete (q.asked.count_asks _ _)) (counted _)
  | counted => exact called (fun s => s.findRecords_asks _ _) fun w e => found (w, .error e)
  | querying q => exact frame.trans (frame.complete (q.asked.findRecords_asks _ _)) (found _)
  | reading c items satisfied =>
    exact called (fun s => c.wait_asks s) fun w e => read c items satisfied (w, .error e)
  | waiting c items satisfied q =>
    exact frame.trans (frame.complete (c.wait_asks _)) (read c items satisfied _)

theorem Generator.collect_frame (g : Generator) (c : Cursor Value) (items : List Value)
    (produced : Nat) (w : World) : R w (g.collect c items produced w).1 := by
  have waited := frame.guardWait w c.latency
  induction items generalizing produced w with
  | nil =>
    rw [collect]
    generalize w.guardWait c.latency = p at *
    split
    · exact waited
    · split <;> exact waited
  | cons d items ih =>
    rw [collect]
    generalize w.guardWait c.latency = p at *
    split
    · exact waited
    split
    · exact waited
    dsimp only
    split
    · exact waited
    · exact frame.trans waited (ih _ _ (frame.guardWait _ _))

theorem Generator.scan_frame (g : Generator) (env : Environment) (w : World) :
    R w (g.scan env w).1 := by
  refine frame.trans (frame.yield w) ?_
  unfold scan
  dsimp only
  have asked := frame.guard (env.findIds_asks w.yield.store g.migration.namesp
    g.migration.selector g.migration.limit) (w := w.yield)
  generalize w.yield.guard _ = p at *
  split
  · exact asked
  · exact frame.trans asked (frame.trans (g.collect_frame frame _ _ _ _) (frame.closeCursor _))

end

/-! ## Records -/

namespace World.RecordFrame

variable {R : World → World → Prop} (frame : RecordFrame R)

include frame

/-- A record is written when its call ends, or not at all. -/
theorem upsertRecord {s : Store} (ns : Namespace) (r : CompletionRecord) (w : World) :
    R w { w with store := ((s.upsertRecord ns r).finish w.store).1 } := by
  unfold Store.upsertRecord
  dsimp only
  split
  · exact frame.putRecord w ns r
  · exact frame.refl w

theorem saveRecord (w : World) (ns : Namespace) (id group : Identifier) (hasErrors : Bool) :
    R w (w.saveRecord ns id group hasErrors).1 := by
  have written : R w.yield (w.yield.guard
      (w.yield.store.upsertRecord ns (.finished id group hasErrors))).1 := by
    have start (t : Nat) := frame.trans (frame.counters w.yield
      { w.yield.store.counters with upserts := w.yield.store.counters.upserts + 1 })
      (frame.clock _ t)
    rcases w.yield.guard_cases (w.yield.store.upsertRecord ns (.finished id group hasErrors)) with
      ⟨t, e, -, h | h⟩ | ⟨t, h⟩
    · rw [h]
      exact frame.clock _ t
    · rw [h]
      exact start t
    · rw [h]
      exact frame.trans (start t) (frame.upsertRecord ns _ _)
  have finished : R w (w.finishMigration ns id group hasErrors).1 := by
    refine frame.trans (frame.yield w) ?_
    unfold finishMigration
    dsimp only
    generalize w.yield.guard _ = p at *
    split
    · exact frame.trans written (frame.note _ _ rfl)
    · exact written
  unfold World.saveRecord
  generalize w.finishMigration ns id group hasErrors = p at *
  split
  · exact finished
  · exact finished
  · exact frame.trans finished (frame.warn _ _)

end World.RecordFrame

theorem World.WideFrame.run {R : World → World → Prop} (frame : World.WideFrame R) (g : Generator)
    (env : Environment) (w : World) : R w (g.run env w).1 := by
  have scanned := g.scan_frame frame.toFrame env w
  unfold Generator.run
  generalize g.scan env w = p at *
  obtain ⟨w', tasks, result⟩ := p
  dsimp only
  have grouped := frame.trans scanned
    (frame.graph w' (w'.graph.addGroup g.id (tasks.map Task.id)))
  cases result with
  | ok => exact grouped
  | error e => exact frame.trans grouped (frame.warn _ _)

/-! ## Steps -/

section

variable {R : World → World → Prop} {env : Environment}

section

variable (frame : World.RecordFrame R)

include frame

theorem Evaluation.saved_frame (t : Task) (ending : Ending)
    (r : World × Except StoreFailure Unit) : R r.1 (saved t ending r).1 := by
  unfold saved
  split
  · exact frame.note _ _ rfl
  · exact frame.refl _
  · exact frame.warn _ _

/-- Once it is noted that an operation has ended, nothing else is noted of it. -/
theorem Evaluation.returned_frame (t : Task) (outcome : Outcome) (w : World) :
    R (w.note (.returned t.id outcome)) (returned t outcome w).1 := by
  unfold Evaluation.returned
  dsimp only
  split
  · exact frame.refl _
  · exact frame.note _ _ rfl
  · split
    · exact frame.yield _
    · exact frame.trans (frame.yield _) (frame.warn _ _)

/-- A step of a task at work that neither calls its operation nor is part of it. -/
theorem Evaluation.step_frame {t : Task} {e : Evaluation}
    (returned : ∀ o, e = .applying (.done o) → ∀ w, R w (w.note (.returned t.id o)))
    (idle : e ≠ .ready) (between : ∀ part rest, e ≠ .applying (.act part rest)) (w : World) :
    R w (e.step env t w).1 := by
  match e with
  | .asking i =>
    have asked := i.step_frame frame.toFrame t.oracle env.metadata w
    rw [step]
    generalize i.step t.oracle env.metadata w = p at *
    obtain ⟨w', i' | _ | _ | _ | _ | _⟩ := p <;> exact asked
  | .ready => exact absurd rfl idle
  | .applying (.act part rest) => exact absurd rfl (between part rest)
  | .applying (.done outcome) =>
    rw [step]
    exact frame.trans (returned outcome rfl w) (returned_frame frame t outcome w)
  | .saving ending =>
    refine frame.trans (frame.yield w) ?_
    rw [step]
    rcases w.yield.begin_cases (save env t ending) with ⟨e, h⟩ | ⟨due, h⟩
    · rw [h]
      exact saved_frame frame t ending (_, _)
    · rw [h]
      exact frame.counters _ _
  | .writing ending q =>
    rw [step]
    refine frame.trans ?_ (saved_frame frame t ending _)
    rcases w.complete_cases (save env t ending) q with ⟨t, e, h⟩ | ⟨t, h⟩
    · rw [h]
      exact frame.clock w t
    · rw [h]
      exact frame.trans (frame.clock w t) (frame.upsertRecord _ _ _)

theorem RunState.close_frame (s : RunState) (id : Identifier) (hasErrors : Bool) :
    R s.world (s.close env id hasErrors).1.world := by
  have saved := frame.saveRecord s.world env.metadata id id hasErrors
  unfold close
  generalize s.world.saveRecord env.metadata id id hasErrors = p at *
  split
  · exact saved
  · dsimp only
    split
    · exact frame.trans saved (frame.warn _ _)
    · exact saved

end

namespace RunState

theorem advance_frame (frame : World.WideFrame R) (s : RunState) (id : Identifier) :
    R s.world (s.advance env id).1.world := by
  unfold advance
  cases source : s.generators.find? id with
  | none => exact frame.refl _
  | some g =>
    have asked := g.oracle.state_frame frame.toFrame env.metadata s.world
    dsimp only
    generalize g.oracle.state env.metadata s.world = p at *
    obtain ⟨world, answer⟩ := p
    match answer with
    | none => exact asked
    | some .blocked => exact asked
    | some .unresolved => exact asked
    | some .passed =>
      have saved := frame.trans asked (frame.saveRecord world env.metadata id id false)
      dsimp only
      generalize world.saveRecord env.metadata id id false = q at *
      obtain ⟨world', _ | _⟩ := q
      · exact saved
      · exact saved
    | some .ready =>
      have ran := frame.trans asked (frame.run g env world)
      dsimp only
      generalize g.run env world = r at *
      split <;> exact ran

theorem conclude_frame (frame : World.Frame R) (s : RunState) (pollInterval : Nat)
    (progressed : Bool) : R s.world (s.conclude pollInterval progressed).1.world := by
  have paused : R s.world ((s.endRound progressed).world.pause pollInterval).1 :=
    frame.pause s.world pollInterval
  unfold conclude
  dsimp only
  split
  · exact frame.refl _
  split
  · exact frame.warn _ _
  split
  · exact frame.refl _
  generalize (s.endRound progressed).world.pause pollInterval = p at *
  split <;> exact paused

end RunState

end

end GatedMigration
