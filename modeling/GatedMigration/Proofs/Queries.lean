import GatedMigration.Proofs.Decision
import GatedMigration.Proofs.Frames
import GatedMigration.Proofs.Groups
import GatedMigration.Proofs.Preparation

/-!
# Queries leave no trace

An oracle and a scan look at the store through queries and cursors. They leave its documents and
records as they are, start no more queries than they need, and close each cursor on whichever way
they come to an end (`World.Asked`). While several tasks are at work each of them may have cursors
open: the question of a task has one while it reads records (`Inquiry.cursors`), and its operation
whichever it has opened and not closed (`Script.Closes`). At any moment of a run these are open, and
as many others as at its start (`Moment.Spares`).

* `Oracle.state_asked`: a question to an oracle starts one query to count documents at most, and one
  for records.
* `Oracle.state_asks`: it starts both if it is not cut short and nothing else decides.
* `Evaluation.Holds.step`: a task at work opens and closes cursors of its own only.
* `World.queries_leave_no_trace`: oracles, scans and runs.
-/

namespace GatedMigration

instance : Add Counters :=
  ⟨fun c d => ⟨c.count + d.count, c.find + d.find, c.record + d.record, c.upserts + d.upserts⟩⟩

namespace Counters

theorem add_zero (c : Counters) : c + {} = c := rfl

theorem add_assoc (c d e : Counters) : c + d + e = c + (d + e) := by
  show mk _ _ _ _ = mk _ _ _ _
  rw [mk.injEq]
  exact ⟨Nat.add_assoc _ _ _, Nat.add_assoc _ _ _, Nat.add_assoc _ _ _, Nat.add_assoc _ _ _⟩

end Counters

namespace World

/-- From `w` to `w'` the store was only asked: `started` queries were started, and `opened` more
cursors are open. -/
structure Asked (started : Counters) (opened : Nat) (w w' : World) : Prop where
  documents : w'.store.collections = w.store.collections
  books : w'.store.recordsOf = w.store.recordsOf
  counters : w'.store.counters = w.store.counters + started
  cursors : w'.store.openCursors = w.store.openCursors + opened

variable {w w' w'' : World} {started started' : Counters} {opened : Nat}

namespace Asked

theorem of_eq (documents : w'.store.collections = w.store.collections)
    (books : w'.store.recordsOf = w.store.recordsOf)
    (counters : w'.store.counters = w.store.counters)
    (cursors : w'.store.openCursors = w.store.openCursors) : Asked {} 0 w w' :=
  ⟨documents, books, counters, cursors⟩

theorem trans (h : Asked started opened w w') (k : Asked started' 0 w' w'') :
    Asked (started + started') opened w w'' := by
  refine ⟨k.documents.trans h.documents, k.books.trans h.books, ?_, k.cursors.trans h.cursors⟩
  rw [k.counters, h.counters, Counters.add_assoc]

/-- Nothing was asked before. -/
theorem after (h : Asked started opened w' w'') (k : Asked {} 0 w w') :
    Asked started opened w w'' := by
  refine ⟨h.documents.trans k.documents, h.books.trans k.books, ?_, ?_⟩
  · rw [h.counters, k.counters, Counters.add_zero]
  · rw [h.cursors, k.cursors, Nat.add_zero]

/-- Nothing is asked afterwards. -/
theorem before (h : Asked started opened w w') (k : Asked {} 0 w' w'') :
    Asked started opened w w'' := h.trans k

/-- A cursor that was opened is closed. -/
theorem close (h : Asked started 1 w w') : Asked started 0 w w'.closeCursor :=
  ⟨h.documents, h.books, h.counters, congrArg (· - 1) h.cursors⟩

end Asked

/-! ## What asks nothing -/

theorem asked_yield (w : World) : Asked {} 0 w w.yield := by
  unfold yield
  split
  · exact .of_eq rfl rfl rfl rfl
  · dsimp only
    split <;> exact .of_eq rfl rfl rfl rfl

theorem asked_guardWait (w : World) (ms : Nat) : Asked {} 0 w (w.guardWait ms).1 := by
  unfold guardWait
  dsimp only
  split
  · exact w.asked_yield
  · obtain ⟨t, waited⟩ := w.yield.wait_fst ms
    rw [waited]
    exact w.asked_yield.before (.of_eq rfl rfl rfl rfl)

/-! ## Queries -/

/-- A query for a number: it is started or not, and opens no cursor. -/
theorem asked_count (w : World) (ns : Namespace) (sel : Selector) :
    ∃ n ≤ 1, Asked { count := n } 0 w (w.guard (w.store.count ns sel)).1 := by
  rcases w.guard_cases (w.store.count ns sel) with ⟨t, e, -, asked | asked⟩ | ⟨t, asked⟩
  · exact ⟨0, Nat.zero_le _, asked ▸ .of_eq rfl rfl rfl rfl⟩
  · exact ⟨1, Nat.le_refl _, asked ▸ ⟨rfl, rfl, rfl, rfl⟩⟩
  · exact ⟨1, Nat.le_refl _, asked ▸ ⟨rfl, rfl, rfl, rfl⟩⟩

end World

/-- A query that hands out a cursor if it succeeds, counted by `kind` when it starts. -/
structure Call.HandsOut {α : Type} (call : Call (Cursor α)) (kind : Counters) : Prop where
  start : ∀ s, call.start s = { s with counters := s.counters + kind }
  finish : ∀ s, ∃ items failsAfter latency, call.finish s = s.handOut items failsAfter latency

theorem Store.findIds_handsOut (s : Store) (env : Environment) (ns : Namespace) (sel : Selector)
    (limit : Option Nat) : (env.findIds s ns sel limit).HandsOut { find := 1 } :=
  ⟨fun _ => rfl, fun _ => ⟨_, _, _, rfl⟩⟩

theorem Store.findRecords_handsOut (s : Store) (ns : Namespace) (ids : List Identifier) :
    (s.findRecords ns ids).HandsOut { record := 1 } :=
  ⟨fun _ => rfl, fun _ => ⟨_, _, _, rfl⟩⟩

namespace World

variable {w : World} {kind : Counters}

/-- A query that was started has opened a cursor if it has succeeded, and none else. -/
structure Opens {α : Type} (started : Counters) (w : World)
    (r : World × Except StoreFailure (Cursor α)) : Prop where
  failed : ∀ {e}, r.2 = .error e → Asked started 0 w r.1
  given : ∀ {c}, r.2 = .ok c → Asked started 1 w r.1

variable {α : Type} {call : Call (Cursor α)}

/-- A query for a cursor that has its effect. -/
theorem opens_of_finish (h : call.HandsOut kind) {t : Nat}
    (asked : w.guard call = ({ w with clock := t, store := (call.finish (call.start w.store)).1 },
      (call.finish (call.start w.store)).2)) : Opens kind w (w.guard call) := by
  obtain ⟨items, failsAfter, latency, finish⟩ := h.finish (call.start w.store)
  rw [asked, finish, h.start]
  unfold Store.handOut
  cases items with
  | error e => exact ⟨fun _ => ⟨rfl, rfl, rfl, rfl⟩, fun given => (by cases given)⟩
  | ok items => exact ⟨fun failed => (by cases failed), fun _ => ⟨rfl, rfl, rfl, rfl⟩⟩

/-- A query for a cursor is started or not. -/
theorem opens_of_handsOut (h : call.HandsOut kind) (w : World) :
    Opens {} w (w.guard call) ∨ Opens kind w (w.guard call) := by
  rcases w.guard_cases call with ⟨t, e, failed, asked | asked⟩ | ⟨t, asked⟩
  · refine Or.inl ⟨fun _ => asked ▸ .of_eq rfl rfl rfl rfl, fun given => ?_⟩
    cases failed.symm.trans given
  · refine Or.inr ⟨fun _ => ?_, fun given => by cases failed.symm.trans given⟩
    rw [asked, h.start]
    exact ⟨rfl, rfl, rfl, rfl⟩
  · exact Or.inr (opens_of_finish h asked)

end World

namespace Oracle

open World (Asked)

theorem readRecords_asked (o : Oracle) (metadata : Namespace) (c : Cursor CompletionRecord)
    (items : List CompletionRecord) (satisfied : Nat) (w : World) :
    Asked {} 0 w (o.readRecords metadata c items satisfied w).1 := by
  have waited := w.asked_guardWait c.latency
  induction items generalizing satisfied w with
  | nil =>
    rw [readRecords]
    generalize w.guardWait c.latency = p at *
    split
    · exact waited
    · exact waited.before (.of_eq rfl rfl rfl rfl)
    · split
      · exact waited.before (.of_eq rfl rfl rfl rfl)
      · exact waited
  | cons r items ih =>
    rw [readRecords]
    generalize w.guardWait c.latency = p at *
    split
    · exact waited
    · exact waited.before (.of_eq rfl rfl rfl rfl)
    split
    · exact waited.before (.of_eq rfl rfl rfl rfl)
    dsimp only
    split
    · exact (ih _ _ (World.asked_guardWait _ _)).after waited
    · exact waited

/-- Whatever query is started for the records of the prerequisites, its cursor is closed again. -/
theorem prerequisites_asked (o : Oracle) (metadata : Namespace) (w : World) {started : Counters}
    (opens : World.Opens started w.yield
      (w.yield.guard (w.yield.store.findRecords metadata o.edges.toList))) :
    Asked started 0 w (o.prerequisites metadata w).1 := by
  refine Asked.after ?_ w.asked_yield
  unfold prerequisites
  dsimp only
  generalize w.yield.guard _ = p at *
  split
  · exact opens.failed rfl
  · exact (opens.failed rfl).before (.of_eq rfl rfl rfl rfl)
  · rename_i w' c
    exact ((opens.given rfl).before (o.readRecords_asked metadata c c.items c.yielded w')).close

/-- A question to an oracle starts one query to count documents at most, and one for records. -/
theorem state_asked (o : Oracle) (metadata : Namespace) (w : World) :
    ∃ counts ≤ 1, ∃ records ≤ 1,
      Asked { count := counts, record := records } 0 w (o.state metadata w).1 := by
  obtain ⟨counts, few, asked⟩ := w.yield.asked_count o.namesp o.selector
  replace asked := asked.after w.asked_yield
  refine ⟨counts, few, ?_⟩
  unfold state
  dsimp only
  generalize w.yield.guard _ = p at *
  split
  · exact ⟨0, Nat.zero_le _, asked⟩
  · exact ⟨0, Nat.zero_le _, asked.before (.of_eq rfl rfl rfl rfl)⟩
  split
  · exact ⟨0, Nat.zero_le _, asked⟩
  split
  · exact ⟨0, Nat.zero_le _, asked⟩
  · rename_i w' _ _ _
    rcases World.opens_of_handsOut (w'.yield.store.findRecords_handsOut metadata o.edges.toList)
      w'.yield with unasked | once
    · exact ⟨0, Nat.zero_le _, asked.trans (o.prerequisites_asked metadata w' unasked)⟩
    · exact ⟨1, Nat.le_refl _, asked.trans (o.prerequisites_asked metadata w' once)⟩

end Oracle

/-! ## Questions that are not cut short -/

namespace World

variable {w : World}

theorem yield_deadline (w : World) : w.yield.context.deadline = w.context.deadline := by
  unfold yield
  split
  · rfl
  · dsimp only
    split <;> rfl

/-- A wait comes to its end, unless the run is cancelled or its time is over by then. -/
theorem wait_ends (w : World) (ms : Nat) :
    ((w.wait ms).2 = .error .canceled ∧ (w.wait ms).1.isCanceled = true) ∨
    ((w.wait ms).2 = .error .deadlineExceeded ∧
      due w.context.deadline (w.wait ms).1.clock = true) ∨
    w.wait ms = ({ w with clock := w.waitEnd ms }, .ok ()) := by
  have reached (t : Nat) : due (some t) t = true := decide_eq_true (Nat.le_refl t)
  have canceled {c : Nat} (time : w.context.cancelAt = some c) :
      ({ w with clock := c } : World).isCanceled = true := by
    rw [isCanceled, time]
    exact reached c
  unfold wait
  dsimp only
  split
  · rename_i c d time deadline
    split
    · exact Or.inl ⟨rfl, canceled time⟩
    split
    · exact Or.inr (Or.inl ⟨rfl, deadline ▸ reached d⟩)
    · exact Or.inr (Or.inr rfl)
  · rename_i c time _
    split
    · exact Or.inl ⟨rfl, canceled time⟩
    · exact Or.inr (Or.inr rfl)
  · rename_i d _ deadline
    split
    · exact Or.inr (Or.inl ⟨rfl, deadline ▸ reached d⟩)
    · exact Or.inr (Or.inr rfl)
  · exact Or.inr (Or.inr rfl)

/-- A guarded call has its effect, unless the run is cancelled or its time is over by then. -/
theorem guard_ends {α : Type} (w : World) (call : Call α) :
    ((w.guard call).2 = .error .canceled ∧ (w.guard call).1.isCanceled = true) ∨
    ((w.guard call).2 = .error .deadlineExceeded ∧
      due w.context.deadline (w.guard call).1.clock = true) ∨
    ∃ t, w.guard call = ({ w with clock := t, store := (call.finish (call.start w.store)).1 },
      (call.finish (call.start w.store)).2) := by
  by_cases canceled : w.isCanceled = true
  · rw [guard_of_canceled canceled]
    exact Or.inl ⟨rfl, canceled⟩
  by_cases late : due w.context.deadline w.clock = true
  · rw [guard, refusal?, if_neg canceled, if_pos late]
    exact Or.inr (Or.inl ⟨rfl, late⟩)
  rw [guard, refusal?, if_neg canceled, if_neg late]
  dsimp only
  rcases wait_ends { w with store := call.start w.store } call.latency with
    ⟨interrupted, canceled⟩ | ⟨interrupted, late⟩ | done
  · generalize wait _ _ = p at *
    obtain ⟨w', _⟩ := p
    cases interrupted
    exact Or.inl ⟨rfl, canceled⟩
  · generalize wait _ _ = p at *
    obtain ⟨w', _⟩ := p
    cases interrupted
    exact Or.inr (Or.inl ⟨rfl, late⟩)
  · rw [done]
    exact Or.inr (Or.inr ⟨_, rfl⟩)

theorem guard_of_uncanceled {α : Type} {call : Call α} (free : w.context.deadline = none)
    (uncanceled : (w.guard call).1.isCanceled = false) :
    ∃ t, w.guard call = ({ w with clock := t, store := (call.finish (call.start w.store)).1 },
      (call.finish (call.start w.store)).2) := by
  rcases w.guard_ends call with ⟨-, canceled⟩ | ⟨-, late⟩ | done
  · cases canceled.symm.trans uncanceled
  · rw [free] at late
    cases late
  · exact done

end World

namespace Oracle

open World (Asked)

variable {w : World}

/-- The records are not read to the end once the run is cancelled. -/
theorem readRecords_of_canceled (canceled : w.isCanceled = true) (o : Oracle)
    (metadata : Namespace) (c : Cursor CompletionRecord) (items : List CompletionRecord)
    (satisfied : Nat) : o.readRecords metadata c items satisfied w = (w.yield, none) := by
  have refused := World.refusal?_of_canceled (World.isCanceled_yield canceled)
  unfold readRecords World.guardWait
  dsimp only
  rw [refused]

theorem prerequisites_of_canceled (canceled : w.isCanceled = true) (o : Oracle)
    (metadata : Namespace) : o.prerequisites metadata w = (w.yield, none) := by
  rw [prerequisites, World.guard_of_canceled (World.isCanceled_yield canceled)]

/-- The question what is satisfied of the prerequisites is put to the store unless the run is
cancelled. -/
theorem prerequisites_asks (o : Oracle) (metadata : Namespace)
    (free : w.context.deadline = none)
    (uncanceled : (o.prerequisites metadata w).1.isCanceled = false) :
    Asked { record := 1 } 0 w (o.prerequisites metadata w).1 := by
  have going : (w.yield.guard
      (w.yield.store.findRecords metadata o.edges.toList)).1.isCanceled = false := by
    by_contra canceled
    rw [Bool.not_eq_false] at canceled
    unfold prerequisites at uncanceled
    dsimp only at uncanceled
    generalize w.yield.guard _ = p at *
    split at uncanceled
    · cases canceled.symm.trans uncanceled
    · cases canceled.symm.trans uncanceled
    · rename_i w' c
      rw [readRecords_of_canceled canceled] at uncanceled
      cases (World.isCanceled_yield canceled).symm.trans uncanceled
  obtain ⟨t, asked⟩ := World.guard_of_uncanceled (w.yield_deadline.trans free) going
  exact o.prerequisites_asked metadata w
    (World.opens_of_finish (w.yield.store.findRecords_handsOut metadata o.edges.toList) asked)

/-- An oracle starts one query of each kind if the run is not cancelled and has no deadline, some
documents are left, and there are prerequisites. -/
theorem state_asks (o : Oracle) (metadata : Namespace) (free : w.context.deadline = none)
    (uncanceled : (o.state metadata w).1.isCanceled = false) {n : Nat}
    (counted : w.yield.store.counted o.namesp o.selector = .ok n) (left : n ≠ 0)
    (edges : o.edges.toList ≠ []) :
    Asked { count := 1, record := 1 } 0 w (o.state metadata w).1 := by
  have going : (w.yield.guard (w.yield.store.count o.namesp o.selector)).1.isCanceled = false := by
    by_contra canceled
    rw [Bool.not_eq_false] at canceled
    unfold state at uncanceled
    dsimp only at uncanceled
    generalize w.yield.guard _ = p at *
    split at uncanceled
    · cases canceled.symm.trans uncanceled
    · cases canceled.symm.trans uncanceled
    split at uncanceled
    · cases canceled.symm.trans uncanceled
    split at uncanceled
    · cases canceled.symm.trans uncanceled
    · rw [prerequisites_of_canceled canceled] at uncanceled
      cases (World.isCanceled_yield canceled).symm.trans uncanceled
  obtain ⟨t, asked⟩ := World.guard_of_uncanceled (w.yield_deadline.trans free) going
  have answer : (w.yield.guard (w.yield.store.count o.namesp o.selector)).2 = .ok n := by
    rw [asked]
    exact counted
  have once : Asked { count := 1 } 0 w.yield
      (w.yield.guard (w.yield.store.count o.namesp o.selector)).1 := by
    rw [asked]
    exact ⟨rfl, rfl, rfl, rfl⟩
  have unlimited : (w.yield.guard
      (w.yield.store.count o.namesp o.selector)).1.context.deadline = none := by
    rw [asked]
    exact w.yield_deadline.trans free
  unfold state at uncanceled ⊢
  dsimp only at uncanceled ⊢
  generalize w.yield.guard _ = p at *
  obtain ⟨w', _⟩ := p
  cases answer
  dsimp only at uncanceled ⊢
  rw [if_neg left, if_neg (by rwa [List.isEmpty_iff])] at uncanceled ⊢
  exact (once.after w.asked_yield).trans (o.prerequisites_asks metadata unlimited uncanceled)

end Oracle

/-! ## Scans -/

namespace Generator

open World (Asked)

theorem collect_asked (g : Generator) (c : Cursor Value) (items : List Value) (produced : Nat)
    (w : World) : Asked {} 0 w (g.collect c items produced w).1 := by
  have waited := w.asked_guardWait c.latency
  induction items generalizing produced w with
  | nil =>
    rw [collect]
    generalize w.guardWait c.latency = p at *
    split
    · exact waited
    · split <;> exact waited
  | cons d items ih =>
    rw [collect]
    generalize w.guardWait c.latency = p at *
    split
    · exact waited
    split
    · exact waited
    dsimp only
    split
    · exact waited
    · exact (ih _ _ (World.asked_guardWait _ _)).after waited

/-- A scan starts one query for documents at most, and closes its cursor. -/
theorem scan_asked (g : Generator) (env : Environment) (w : World) :
    ∃ n ≤ 1, Asked { find := n } 0 w (g.scan env w).1 := by
  have scanned {started : Counters} (opens : World.Opens started w.yield (w.yield.guard (env.findIds
      w.yield.store g.migration.namesp g.migration.selector g.migration.limit))) :
      Asked started 0 w (g.scan env w).1 := by
    refine Asked.after ?_ w.asked_yield
    unfold scan
    dsimp only
    generalize w.yield.guard _ = p at *
    split
    · exact opens.failed rfl
    · rename_i w' c
      exact ((opens.given rfl).before (g.collect_asked c c.items c.yielded w')).close
  rcases World.opens_of_handsOut (w.yield.store.findIds_handsOut env g.migration.namesp
    g.migration.selector g.migration.limit) w.yield with unasked | once
  · exact ⟨0, Nat.zero_le _, scanned unasked⟩
  · exact ⟨1, Nat.le_refl _, scanned once⟩

theorem run_cursors (g : Generator) (env : Environment) (w : World) :
    (g.run env w).1.store.openCursors = w.store.openCursors := by
  obtain ⟨_, -, asked⟩ := g.scan_asked env w
  have asked := asked.cursors
  unfold run
  generalize g.scan env w = p at *
  dsimp only
  split <;> exact asked

end Generator

/-! ## Tasks at work -/

/-- A script that has so many cursors of its own open, and has closed each of them at its end,
whatever scenes its parts begin with. -/
def Script.Closes : Script → Nat → Prop
  | .done _, held => held = 0
  | .act part rest, held => ∀ scene, held ≤ scene.store.openCursors → ∃ held',
      (part scene).1.store.openCursors + held = scene.store.openCursors + held' ∧
        (rest scene).Closes held'

/-- Operations that close each cursor they open, and no other. -/
def Registry.ClosesCursors (r : Registry) : Prop :=
  ∀ {name : String} {op : Operation}, r.get name = .ok op → ∀ t, (op t).Closes 0

/-- A record is written without a cursor. -/
theorem Store.upsertRecord_cursors (s : Store) (ns : Namespace) (r : CompletionRecord)
    (now : Store) : ((s.upsertRecord ns r).finish now).1.openCursors = now.openCursors := by
  unfold upsertRecord
  dsimp only
  split <;> rfl

namespace Inquiry

/-- How many cursors a question has open that has come so far. -/
def cursors : Inquiry → Nat
  | reading _ _ _ | waiting _ _ _ _ => 1
  | _ => 0

/-- How many it has open after a step, none if it has its answer. -/
def Next.cursors : Next → Nat
  | .inl i => i.cursors
  | .inr _ => 0

variable {o : Oracle} {metadata : Namespace} {w : World}

/-- A cursor is opened and closed with the question that holds it. -/
theorem step_cursors (i : Inquiry) (opened : i.cursors ≤ w.store.openCursors) :
    (i.step o metadata w).1.store.openCursors + i.cursors =
      w.store.openCursors + (i.step o metadata w).2.cursors := by
  have turn := w.asked_yield.cursors
  cases i with
  | fresh =>
    rw [step, call]
    rcases w.yield.begin_cases o.count with ⟨e, h⟩ | ⟨due, h⟩ <;> rw [h]
    · cases e <;> exact turn
    · exact turn
  | counting q =>
    rw [step]
    rcases w.complete_cases o.count q with ⟨t, e, h⟩ | ⟨t, h⟩ <;> rw [h]
    · cases e <;> rfl
    · generalize ((o.count q.asked).finish w.store).2 = answer
      cases answer with
      | error e => cases e <;> rfl
      | ok n =>
        unfold afterCount
        dsimp only
        split
        · rfl
        · split <;> rfl
  | counted =>
    rw [step, call]
    rcases w.yield.begin_cases (o.findRecords metadata) with ⟨e, h⟩ | ⟨due, h⟩ <;> rw [h]
    · cases e <;> exact turn
    · exact turn
  | querying q =>
    rw [step]
    rcases w.complete_cases (o.findRecords metadata) q with ⟨t, e, h⟩ | ⟨t, h⟩ <;> rw [h]
    · cases e <;> rfl
    · obtain ⟨items, failsAfter, latency, finish⟩ :=
        (q.asked.findRecords_handsOut metadata o.edges.toList).finish w.store
      rw [show (o.findRecords metadata q.asked).finish w.store = _ from finish]
      unfold Store.handOut
      cases items with
      | error e => cases e <;> rfl
      | ok items => rfl
  | reading c items satisfied =>
    have closed := Nat.sub_add_cancel opened
    rw [step, call]
    rcases w.yield.begin_cases c.wait with ⟨e, h⟩ | ⟨due, h⟩ <;> rw [h]
    · cases e <;> exact (congrArg (· - 1 + 1) turn).trans closed
    · exact congrArg (· + 1) turn
  | waiting c items satisfied q =>
    have closed := Nat.sub_add_cancel opened
    rw [step]
    rcases w.complete_cases c.wait q with ⟨t, e, h⟩ | ⟨t, h⟩ <;> rw [h]
    · cases e <;> exact closed
    · rw [show (c.wait q.asked).finish w.store = (w.store, .ok ()) from rfl]
      dsimp only [afterWait]
      split
      · exact closed
      split
      · exact closed
      split
      · rfl
      · exact closed

end Inquiry

namespace Evaluation

/-- A task that has come so far has so many cursors open. -/
def Holds : Evaluation → Nat → Prop
  | asking i, held => held = i.cursors
  | applying script, held => script.Closes held
  | _, held => held = 0

/-- What a step leaves open, nothing with the verdict. -/
def Next.Holds : Next → Nat → Prop
  | .inl e, held => e.Holds held
  | .inr _, held => held = 0

variable {env : Environment} {t : Task} {w : World} {held : Nat}

theorem saved_holds (ending : Ending) (r : World × Except StoreFailure Unit) :
    (saved t ending r).2.Holds 0 ∧
      (saved t ending r).1.store.openCursors = r.1.store.openCursors := by
  unfold saved
  split <;> exact ⟨rfl, rfl⟩

/-- Each cursor is opened and closed by the task that holds it. -/
theorem Holds.step {e : Evaluation} (holds : e.Holds held) (ops : env.registry.ClosesCursors)
    (opened : held ≤ w.store.openCursors) :
    ∃ held', (e.step env t w).2.Holds held' ∧
      (e.step env t w).1.store.openCursors + held = w.store.openCursors + held' := by
  have turn (w : World) := w.asked_yield.cursors
  match e with
  | .asking i =>
    obtain rfl : held = i.cursors := holds
    have asked : (i.step t.oracle env.metadata w).1.store.openCursors + i.cursors =
        w.store.openCursors + (i.step t.oracle env.metadata w).2.cursors :=
      i.step_cursors opened
    rw [Evaluation.step]
    generalize i.step t.oracle env.metadata w = p at *
    obtain ⟨v, i' | _ | _ | _ | _ | _⟩ := p
    · exact ⟨_, rfl, asked⟩
    all_goals exact ⟨0, rfl, asked⟩
  | .ready =>
    obtain rfl : held = 0 := holds
    rw [Evaluation.step, launch]
    cases known : env.registry.get t.operation with
    | error e => exact ⟨0, rfl, rfl⟩
    | ok op => exact ⟨0, ops known t, rfl⟩
  | .applying (.act part rest) =>
    obtain ⟨held', did, rest⟩ := holds w.yield.scene ((turn w).symm ▸ opened)
    exact ⟨held', rest, did.trans (congrArg (· + held') (turn w))⟩
  | .applying (.done outcome) =>
    obtain rfl : held = 0 := holds
    refine ⟨0, ?_⟩
    rw [Evaluation.step]
    cases outcome with
    | succeeded | lost => exact ⟨rfl, rfl⟩
    | failed text =>
      have noted := turn (w.note (.returned t.id (.failed text)))
      unfold returned
      dsimp only
      split <;> exact ⟨rfl, noted⟩
  | .saving ending =>
    obtain rfl : held = 0 := holds
    rw [Evaluation.step]
    rcases w.yield.begin_cases (save env t ending) with ⟨e, h⟩ | ⟨due, h⟩ <;> rw [h]
    · obtain ⟨none_held, same⟩ := saved_holds (t := t) ending (w.yield, .error e)
      exact ⟨0, none_held, same.trans (turn w)⟩
    · exact ⟨0, rfl, turn w⟩
  | .writing ending q =>
    obtain rfl : held = 0 := holds
    obtain ⟨none_held, same⟩ := saved_holds (t := t) ending (w.complete (save env t ending) q)
    refine ⟨0, none_held, same.trans ?_⟩
    rcases w.complete_cases (save env t ending) q with ⟨t, e, h⟩ | ⟨t, h⟩
    · rw [h]
      rfl
    · rw [h]
      exact q.asked.upsertRecord_cursors _ _ w.store

end Evaluation

/-- Tasks at work have so many cursors open altogether. -/
inductive Holding : List Flight → Nat → Prop
  | nil : Holding [] 0
  | cons {f : Flight} {fs : List Flight} {held others : Nat} (own : f.evaluation.Holds held)
      (rest : Holding fs others) : Holding (f :: fs) (held + others)

namespace Holding

/-- The cursors of one of the tasks are its own. -/
theorem apart {front : List Flight} {f : Flight} {behind : List Flight} {n : Nat}
    (h : Holding (front ++ f :: behind) n) : ∃ held others, n = held + others ∧
      f.evaluation.Holds held ∧ Holding (front ++ behind) others ∧
      ∀ {f' held'}, f'.evaluation.Holds held' →
        Holding (front ++ f' :: behind) (held' + others) := by
  induction front generalizing n with
  | nil =>
    cases h with
    | cons own rest => exact ⟨_, _, rfl, own, rest, fun own' => .cons own' rest⟩
  | cons g front ih =>
    cases h with
    | @cons _ _ held₀ _ own₀ rest =>
      obtain ⟨held, others, rfl, own, rest, others_kept⟩ := ih rest
      refine ⟨held, held₀ + others, Nat.add_left_comm _ _ _, own, .cons own₀ rest, ?_⟩
      intro f' held' own'
      rw [Nat.add_left_comm]
      exact .cons own₀ (others_kept own')

/-- Tasks that have not begun hold no cursors. -/
theorem fresh {flights : List Flight} (h : ∀ f ∈ flights, ∃ t, f = .fresh t) :
    Holding flights 0 := by
  induction flights with
  | nil => exact .nil
  | cons f fs ih =>
    obtain ⟨t, rfl⟩ := h f List.mem_cons_self
    have own : (Flight.fresh t).evaluation.Holds 0 := rfl
    exact .cons own (ih fun f mem => h f (List.mem_cons_of_mem _ mem))

end Holding

/-! ## Runs -/

theorem World.saveRecord_cursors (w : World) (ns : Namespace) (id group : Identifier)
    (hasErrors : Bool) :
    (w.saveRecord ns id group hasErrors).1.store.openCursors = w.store.openCursors := by
  have written : (w.yield.guard (w.yield.store.upsertRecord ns
      (.finished id group hasErrors))).1.store.openCursors = w.store.openCursors := by
    refine Eq.trans ?_ w.asked_yield.cursors
    rcases w.yield.guard_cases (w.yield.store.upsertRecord ns (.finished id group hasErrors)) with
      ⟨t, e, -, h | h⟩ | ⟨t, h⟩
    · rw [h]
    · rw [h]
      rfl
    · rw [h]
      exact w.yield.store.upsertRecord_cursors _ _ _
  unfold saveRecord finishMigration
  dsimp only
  generalize w.yield.guard _ = p at *
  obtain ⟨v, e | _⟩ := p
  · cases e <;> exact written
  · exact written

namespace RunState

variable {env : Environment} {s : RunState}

theorem advance_cursors (id : Identifier) :
    (s.advance env id).1.world.store.openCursors = s.world.store.openCursors := by
  unfold advance
  cases source : s.generators.find? id with
  | none => rfl
  | some g =>
    obtain ⟨_, -, _, -, asked⟩ := g.oracle.state_asked env.metadata s.world
    have asked := asked.cursors
    dsimp only
    generalize g.oracle.state env.metadata s.world = p at *
    obtain ⟨world, answer⟩ := p
    match answer with
    | none | some .blocked | some .unresolved => exact asked
    | some .passed =>
      have saved := world.saveRecord_cursors env.metadata id id false
      dsimp only
      generalize world.saveRecord env.metadata id id false = q at *
      obtain ⟨world', _ | _⟩ := q <;> exact saved.trans asked
    | some .ready =>
      have ran := g.run_cursors env world
      dsimp only
      generalize g.run env world = r at *
      split <;> exact ran.trans asked

theorem close_cursors (id : Identifier) (hasErrors : Bool) :
    (s.close env id hasErrors).1.world.store.openCursors = s.world.store.openCursors := by
  have saved := s.world.saveRecord_cursors env.metadata id id hasErrors
  unfold close
  generalize s.world.saveRecord env.metadata id id hasErrors = p at *
  obtain ⟨world, _ | _⟩ := p
  · exact saved
  · dsimp only
    split <;> exact saved

theorem conclude_cursors (pollInterval : Nat) (progressed : Bool) :
    (s.conclude pollInterval progressed).1.world.store.openCursors =
      s.world.store.openCursors := by
  have paused : (((s.endRound progressed).world.pause pollInterval).1.store).openCursors =
      s.world.store.openCursors := by
    refine Eq.trans ?_ s.world.asked_yield.cursors
    unfold World.pause
    dsimp only
    split
    · rfl
    split
    · split <;> rfl
    · rfl
  unfold conclude
  dsimp only
  split
  · rfl
  split
  · rfl
  split
  · rfl
  · generalize (s.endRound progressed).world.pause pollInterval = p at *
    split <;> exact paused

/-- A step of a task at work opens and closes only its own cursors. -/
theorem work_cursors {workers base n : Nat} {flights : List Flight}
    {r : RunState × List Flight × Step} (works : Works env workers flights s r)
    (ops : env.registry.ClosesCursors) (holding : Holding flights n)
    (cursors : s.world.store.openCursors = base + n) :
    ∃ n', Holding r.2.1 n' ∧ r.1.world.store.openCursors = base + n' := by
  have turn : s.world.takeTurn.2.store = s.world.store := by
    unfold World.takeTurn
    split <;> rfl
  -- The cursors of the others stay as they are.
  have goes {front : List Flight} {g : Flight} {behind : List Flight}
      (among : flights = front ++ g :: behind) : ∃ held others,
      (g.evaluation.step env g.task s.world.takeTurn.2).2.Holds held ∧
      (g.evaluation.step env g.task s.world.takeTurn.2).1.store.openCursors =
        base + (held + others) ∧ Holding (front ++ behind) others ∧
      ∀ {f' held'}, f'.evaluation.Holds held' →
        Holding (front ++ f' :: behind) (held' + others) := by
    obtain ⟨held, others, rfl, own, rest, kept⟩ := (among ▸ holding).apart
    obtain ⟨held', own', did⟩ := own.step (t := g.task) ops
      (show held ≤ s.world.takeTurn.2.store.openCursors by rw [turn]; omega)
    refine ⟨held', others, own', ?_, rest, kept⟩
    rw [turn] at did
    omega
  cases works with
  | goesOn front g behind world evaluation among room step =>
    obtain ⟨held, others, own, did, -, kept⟩ := goes among
    rw [step] at own did
    exact ⟨held + others, kept own, did⟩
  | ends front g behind world verdict among room step =>
    obtain ⟨held, others, own, did, rest, -⟩ := goes among
    rw [step] at own did
    obtain rfl : held = 0 := own
    exact ⟨others, rest, did.trans (congrArg (base + ·) (Nat.zero_add others))⟩

end RunState

namespace Moment

variable {env : Environment} {m : Moment}

/-- Apart from the cursors of the tasks at work, so many are open. -/
def Spares (base : Nat) (m : Moment) : Prop :=
  ∃ n, Holding m.stage.flights n ∧ m.state.world.store.openCursors = base + n

/-- A step opens and closes only cursors of tasks at work. -/
theorem Spares.next {base : Nat} (h : m.Spares base) (ops : env.registry.ClosesCursors)
    (options : RunOptions) : (m.next env options).Spares base := by
  obtain ⟨n, holding, cursors⟩ := h
  obtain ⟨stage, s⟩ := m
  dsimp only at holding cursors
  -- Apart from the tasks at work, no step leaves more cursors open, or fewer.
  have still {m' : Moment} (grounded : m'.stage.flights = []) (none : stage.flights = [])
      (same : m'.state.world.store.openCursors = s.world.store.openCursors) : m'.Spares base := by
    rw [none] at holding
    cases holding
    exact ⟨0, grounded ▸ .nil, same.trans cursors⟩
  match stage with
  | .opening =>
    rw [Moment.next]
    split <;> exact still rfl rfl s.world.asked_yield.cursors
  | .over canceled => exact still rfl rfl rfl
  | .asking [] progressed =>
    cases holding
    refine ⟨0, .fresh fun f mem => ?_, cursors⟩
    obtain ⟨id, -, found⟩ := List.mem_filterMap.1 mem
    obtain ⟨t, -, rfl⟩ := Option.map_eq_some_iff.1 found
    exact ⟨t, rfl⟩
  | .asking (id :: ids) progressed =>
    have same : (s.advance env id).1.world.store.openCursors = s.world.store.openCursors :=
      s.advance_cursors id
    rw [Moment.next]
    generalize s.advance env id = r at *
    obtain ⟨s', _ | _ | _⟩ := r <;> exact still rfl rfl same
  | .working [] progressed canceled =>
    rw [Moment.next]
    split <;> exact still rfl rfl rfl
  | .working (f :: fs) progressed canceled =>
    rw [Moment.next]
    exact RunState.work_cursors
      (RunState.work_cases env options.workers (List.cons_ne_nil f fs) s) ops holding cursors
  | .closing [] progressed =>
    have same := s.conclude_cursors options.pollInterval progressed
    rw [Moment.next]
    generalize s.conclude options.pollInterval progressed = r at *
    obtain ⟨s', _ | _⟩ := r <;> exact still rfl rfl same
  | .closing ((id, hasErrors) :: settled) progressed =>
    have same :
        (s.close env id hasErrors).1.world.store.openCursors = s.world.store.openCursors :=
      s.close_cursors id hasErrors
    rw [Moment.next]
    generalize s.close env id hasErrors = r at *
    obtain ⟨s', _ | _ | _⟩ := r <;> exact still rfl rfl same

end Moment

namespace World

/-- At each moment of a run the tasks at work have open whatever was not open at its start. -/
theorem moment_spares {env : Environment} {options : RunOptions} {generators : List Generator}
    (ops : env.registry.ClosesCursors) (w : World) (n : Nat) :
    (w.moment env options generators n).Spares w.store.openCursors :=
  moment_induction ⟨0, .nil, rfl⟩ (fun _ h => h.next ops options) n

/-- A question to an oracle changes no document, no record and no dependency or group. It starts one
query to count documents at most and one for records, and no other; just one of each if the run is
not cancelled and has no deadline, some documents are left and there are prerequisites. After a
question, a scan or a run as many cursors are open as before, if the operations of the run close the
cursors they open, and no other. -/
theorem queries_leave_no_trace :
    (∀ (o : Oracle) (metadata : Namespace) (w : World),
      (∃ counts ≤ 1, ∃ records ≤ 1,
        Asked { count := counts, record := records } 0 w (o.state metadata w).1) ∧
      (o.state metadata w).1.graph = w.graph ∧
      ∀ n, w.context.deadline = none → (o.state metadata w).1.isCanceled = false →
        w.yield.store.counted o.namesp o.selector = .ok n → 0 < n → o.edges.toList ≠ [] →
        Asked { count := 1, record := 1 } 0 w (o.state metadata w).1) ∧
    (∀ (g : Generator) (env : Environment) (w : World),
      (g.run env w).1.store.openCursors = w.store.openCursors) ∧
    ∀ (w : World) (env : Environment) (options : RunOptions) (generators : List Generator),
      env.registry.ClosesCursors →
      (w.run env options generators).1.store.openCursors = w.store.openCursors := by
  refine ⟨fun o metadata w => ⟨o.state_asked metadata w, ?_,
      fun n free uncanceled counted left edges =>
        o.state_asks metadata free uncanceled counted (Nat.pos_iff_ne_zero.1 left) edges⟩,
    fun g env w => g.run_cursors env w, fun w env options generators ops => ?_⟩
  · exact o.state_frame graph_frame.toFrame metadata w
  cases prepared : w.prepare env options generators with
  | mk w₀ answer =>
    obtain ⟨graph, journal, frame⟩ := prepare_frame prepared
    have same : w₀.store.openCursors = w.store.openCursors := by rw [frame]
    cases answer with
    | error e =>
      rw [run, prepared]
      exact same
    | ok =>
      obtain ⟨n, canceled, s, ended, result⟩ := run_eq_moment prepared
      obtain ⟨held, holding, cursors⟩ :
          (w₀.moment env options generators n).Spares w₀.store.openCursors :=
        moment_spares ops w₀ n
      rw [ended] at holding cursors
      cases holding
      rw [result]
      exact cursors.trans same

end World

/-- Marking opens no cursor. -/
theorem Sample.closesCursors : Sample.env.registry.ClosesCursors := by
  intro name op known t
  rw [get_eq_mark known]
  refine fun scene _ => ⟨0, ?_, rfl⟩
  show (scene.store.setField t.namesp t.documentId "done" (.bool true)).1.openCursors = _
  unfold Store.setField
  split <;> rfl

namespace World

/-- The oracle of the invoices asks for the number of invoices and for the record of the orders. -/
theorem queries_of_sample :
    Asked { count := 1, record := 1 } 0 Sample.world
      (Sample.invoices.oracle.state .defaultMetadata Sample.world).1 ∧
    (Sample.invoices.run Sample.env Sample.world).1.store.openCursors = 0 ∧
    (Sample.world.run Sample.env {} Sample.generators).1.store.openCursors = 0 := by
  obtain ⟨questions, scans, runs⟩ := queries_leave_no_trace
  refine ⟨(questions _ _ _).2.2 1 rfl (by decide +kernel) rfl Nat.one_pos (by decide +kernel),
    scans _ _ _, ?_⟩
  exact runs Sample.world Sample.env {} Sample.generators Sample.closesCursors

end World

end GatedMigration
