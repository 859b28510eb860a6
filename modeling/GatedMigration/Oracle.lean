import GatedMigration.Readiness
import GatedMigration.World

/-!
# Readiness oracles

An oracle knows the documents that a task is about and what the task waits for. It answers from the
store alone, anew at each question: first it counts the documents that are left, then it reads the
records of the prerequisites through one cursor, up to the first that is not satisfied. A store that
fails never makes a task ready; only cancellation leaves the question open.

While several tasks are at work, others may come in between any two steps of a question; how far it
has come is an `Inquiry` then. Step by step and without anything in between, an inquiry leads to the
answer `Oracle.state`.

* `Inquiry.step_lt`: every step leaves less of a question.
-/

namespace GatedMigration

namespace Oracle

/-- The records of the prerequisites read to the end or to the first that is not satisfied; there is
no answer if the run is cancelled meanwhile. -/
def readRecords (o : Oracle) (metadata : Namespace) (c : Cursor CompletionRecord) :
    List CompletionRecord → Nat → World → World × Option Readiness
  | items, satisfied, w =>
    match w.guardWait c.latency with
    | (w, .error .canceled) => (w, none)
    | (w, .error e) => (w.warn (.recordCursorFailed metadata e), some .blocked)
    | (w, .ok ()) =>
      match { c with yielded := satisfied }.failure? with
      | some e => (w.warn (.recordCursorFailed metadata e), some .blocked)
      | none =>
        match items with
        | [] =>
          (w, some (if satisfied < o.edges.toList.length then .blocked else .ready))
        | r :: rest =>
          if r.satisfied then readRecords o metadata c rest (satisfied + 1) w
          else (w, some .blocked)

/-- The answer from the prerequisites. -/
def prerequisites (o : Oracle) (metadata : Namespace) (w : World) : World × Option Readiness :=
  let w := w.yield
  match w.guard (w.store.findRecords metadata o.edges.toList) with
  | (w, .error .canceled) => (w, none)
  | (w, .error e) => (w.warn (.unreadableRecords metadata e), some .blocked)
  | (w, .ok c) =>
    let (w, answer) := o.readRecords metadata c c.items c.yielded w
    (w.closeCursor, answer)

/-- Whether the task may run now; there is no answer if the run is cancelled. -/
def state (o : Oracle) (metadata : Namespace) (w : World) : World × Option Readiness :=
  let w := w.yield
  match w.guard (w.store.count o.namesp o.selector) with
  | (w, .error .canceled) => (w, none)
  | (w, .error e) => (w.warn (.uncountable o.namesp e), some .unresolved)
  | (w, .ok remaining) =>
    if remaining = 0 then (w, some .passed)
    else if o.edges.toList.isEmpty then (w, some .ready)
    else o.prerequisites metadata w

end Oracle

/-! ## Step by step -/

/-- How far a question to an oracle has come. -/
inductive Inquiry where
  | fresh
  /-- The documents that are left are being counted. -/
  | counting (q : World.Underway)
  /-- There are some, and there are prerequisites. -/
  | counted
  /-- The records of the prerequisites are being looked for. -/
  | querying (q : World.Underway)
  /-- These records are left to be read through the cursor; so many before were satisfied. -/
  | reading (c : Cursor CompletionRecord) (items : List CompletionRecord) (satisfied : Nat)
  /-- The cursor takes its time before it gives the next record. -/
  | waiting (c : Cursor CompletionRecord) (items : List CompletionRecord) (satisfied : Nat)
      (q : World.Underway)

/-- The documents that are left counted. -/
def Oracle.count (o : Oracle) (s : Store) : Call Nat := s.count o.namesp o.selector

/-- The records of the prerequisites looked for. -/
def Oracle.findRecords (o : Oracle) (metadata : Namespace) (s : Store) :
    Call (Cursor CompletionRecord) :=
  s.findRecords metadata o.edges.toList

/-- The next item of a cursor waited for, which takes its time and nothing else. -/
def Cursor.wait {α : Type} (c : Cursor α) (_ : Store) : Call Unit where
  start := fun s => s
  latency := c.latency
  finish := fun s => (s, .ok ())

namespace Inquiry

/-- The rest of a question, or its answer; there is no answer if the run is cancelled. -/
abbrev Next := Inquiry ⊕ Option Readiness

/-- A call made, or what becomes of the question if it is not started. -/
def call {α : Type} (w : World) (c : Store → Call α) (underway : World.Underway → Inquiry)
    (answered : World × Except StoreFailure α → World × Next) : World × Next :=
  match w.begin c with
  | (w, .ok q) => (w, .inl (underway q))
  | (w, .error e) => answered (w, .error e)

variable (o : Oracle) (metadata : Namespace)

/-- The documents were counted, or not. -/
def afterCount : World × Except StoreFailure Nat → World × Next
  | (w, .error .canceled) => (w, .inr none)
  | (w, .error e) => (w.warn (.uncountable o.namesp e), .inr (some .unresolved))
  | (w, .ok remaining) =>
    if remaining = 0 then (w, .inr (some .passed))
    else if o.edges.toList.isEmpty then (w, .inr (some .ready))
    else (w, .inl .counted)

/-- The records were found, or not. -/
def afterQuery : World × Except StoreFailure (Cursor CompletionRecord) → World × Next
  | (w, .error .canceled) => (w, .inr none)
  | (w, .error e) => (w.warn (.unreadableRecords metadata e), .inr (some .blocked))
  | (w, .ok c) => (w, .inl (.reading c c.items c.yielded))

/-- The cursor gives the next record, or not; it is taken back with the answer. -/
def afterWait (c : Cursor CompletionRecord) (items : List CompletionRecord) (satisfied : Nat) :
    World × Except StoreFailure Unit → World × Next
  | (w, .error .canceled) => (w.closeCursor, .inr none)
  | (w, .error e) => ((w.warn (.recordCursorFailed metadata e)).closeCursor, .inr (some .blocked))
  | (w, .ok ()) =>
    match { c with yielded := satisfied }.failure? with
    | some e => ((w.warn (.recordCursorFailed metadata e)).closeCursor, .inr (some .blocked))
    | none =>
      match items with
      | [] =>
        (w.closeCursor,
          .inr (some (if satisfied < o.edges.toList.length then .blocked else .ready)))
      | r :: rest =>
        if r.satisfied then (w, .inl (.reading c rest (satisfied + 1)))
        else (w.closeCursor, .inr (some .blocked))

/-- A question taken one step further. -/
def step : Inquiry → World → World × Next
  | .fresh, w => call w.yield o.count .counting (afterCount o)
  | .counting q, w => afterCount o (w.complete o.count q)
  | .counted, w => call w.yield (o.findRecords metadata) .querying (afterQuery metadata)
  | .querying q, w => afterQuery metadata (w.complete (o.findRecords metadata) q)
  | .reading c items satisfied, w =>
    call w.yield c.wait (.waiting c items satisfied) (afterWait o metadata c items satisfied)
  | .waiting c items satisfied q, w => afterWait o metadata c items satisfied (w.complete c.wait q)

/-! ## Every question comes to its end -/

/-- What is left of a question: the steps that are left if nothing is known of how many records
there are, and then the records to be read. -/
def left : Inquiry → Nat × Nat
  | fresh => (5, 0)
  | counting _ => (4, 0)
  | counted => (3, 0)
  | querying _ => (2, 0)
  | reading _ items _ => (1, 2 * items.length + 1)
  | waiting _ items _ _ => (1, 2 * items.length)

variable {o metadata} {w : World} {i' : Inquiry}

theorem call_lt {α : Type} {c : Store → Call α} {underway : World.Underway → Inquiry}
    {answered : World × Except StoreFailure α → World × Next} {bound : Nat × Nat}
    (h : (call w c underway answered).2 = .inl i')
    (started : ∀ q, Prod.Lex (· < ·) (· < ·) (underway q).left bound)
    (failed : ∀ w e, (answered (w, .error e)).2 ≠ .inl i') :
    Prod.Lex (· < ·) (· < ·) i'.left bound := by
  unfold call at h
  split at h
  · cases h
    exact started _
  · exact absurd h (failed _ _)

theorem afterCount_error (w : World) (e : StoreFailure) :
    (afterCount o (w, .error e)).2 ≠ .inl i' := by
  cases e <;> exact fun h => by cases h

theorem afterQuery_error (w : World) (e : StoreFailure) :
    (afterQuery metadata (w, .error e)).2 ≠ .inl i' := by
  cases e <;> exact fun h => by cases h

theorem afterWait_error {c : Cursor CompletionRecord} {items : List CompletionRecord}
    {satisfied : Nat} (w : World) (e : StoreFailure) :
    (afterWait o metadata c items satisfied (w, .error e)).2 ≠ .inl i' := by
  cases e <;> exact fun h => by cases h

/-- Every step leaves less of a question. -/
theorem step_lt {i : Inquiry} (h : (i.step o metadata w).2 = .inl i') :
    Prod.Lex (· < ·) (· < ·) i'.left i.left := by
  cases i with
  | fresh => exact call_lt h (fun _ => .left _ _ (by decide)) afterCount_error
  | counting q =>
    rw [step] at h
    generalize w.complete _ q = p at h
    obtain ⟨w', e | n⟩ := p
    · exact absurd h (afterCount_error w' e)
    unfold afterCount at h
    dsimp only at h
    split at h
    · cases h
    split at h
    · cases h
    · cases h
      exact .left _ _ (by decide)
  | counted => exact call_lt h (fun _ => .left _ _ (by decide)) afterQuery_error
  | querying q =>
    rw [step] at h
    generalize w.complete _ q = p at h
    obtain ⟨w', e | c⟩ := p
    · exact absurd h (afterQuery_error w' e)
    · cases h
      exact .left _ _ (by decide)
  | reading c items satisfied =>
    exact call_lt h (fun _ => .right _ (Nat.lt_succ_self _)) afterWait_error
  | waiting c items satisfied q =>
    rw [step] at h
    generalize w.complete _ q = p at h
    obtain ⟨w', e | _⟩ := p
    · exact absurd h (afterWait_error w' e)
    unfold afterWait at h
    dsimp only at h
    split at h
    · cases h
    split at h
    · cases h
    split at h
    · cases h
      exact .right _ (by simp only [List.length_cons]; omega)
    · cases h

end Inquiry

end GatedMigration
