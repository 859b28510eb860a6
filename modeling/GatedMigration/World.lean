import GatedMigration.Graph
import GatedMigration.Journal
import GatedMigration.Store

/-!
# The world of a run

Everything that a run reads and changes outside its own bookkeeping: the store, the dependency
graph, the time, the context that can end the run early, and the journal. Time is counted in
milliseconds and moves only while something waits; no wait is longer than thirty years. A guarded
call does not start once the run is cancelled or its time is over, and it ends without its effect if
that happens before it is done; a pause heeds cancellation alone.

The store and the context may be in other hands too. Whoever holds them can set the faults of the
store and cancel the run between any two steps of it: whatever they do (`World.outside`) takes its
turn whenever the run is about to call the store, to wait, or to look at the context
(`World.yield`). Which of several tasks at work goes on next is in other hands as well
(`World.turns`), so a guarded call of a task is made in two steps: it starts (`World.begin`), and it
comes to its end (`World.complete`) when the task has its turn again, perhaps later than it might.
-/

namespace GatedMigration

/-- When a run is to end early. -/
structure Context where
  /-- From this time on the run is cancelled. -/
  cancelAt : Option Nat := none
  /-- From this time on no guarded call succeeds. -/
  deadline : Option Nat := none
deriving DecidableEq, Inhabited

/-- What others do at one of their turns. -/
structure Interference where
  /-- The faults that they set, if they set any. -/
  faults : Option Faults := none
  /-- In how many milliseconds they cancel the run, if they do. -/
  cancelIn : Option Nat := none
deriving Inhabited

/-- The state of everything outside the bookkeeping of a run. -/
structure World where
  store : Store
  graph : Graph
  clock : Nat
  context : Context
  /-- What has happened, the latest first. -/
  journal : List Event
  /-- What others are going to do, turn by turn. -/
  outside : List Interference
  /-- Which of the tasks at work goes on, turn by turn; the first one once this list is used up. -/
  turns : List Nat

namespace World

/-- The world at the beginning. -/
def initial : World := ⟨Store.empty, Graph.empty, 0, {}, [], [], []⟩

instance : Inhabited World := ⟨initial⟩

/-- One more line in the journal. -/
def note (w : World) (e : Event) : World := { w with journal := e :: w.journal }

/-- A warning in the journal. -/
def warn (w : World) (x : Warning) : World := w.note (.warned x)

/-- A list of warnings in the journal. -/
def warnAll (w : World) (xs : List Warning) : World := xs.foldl warn w

/-! ## Cancellation and deadline -/

/-- The longest wait, thirty years of 365 days: one that asks for more time is over by then too. -/
def longestWait : Nat := 30 * 365 * 24 * 60 * 60 * 1000

/-- When a wait that starts now is over. -/
def waitEnd (w : World) (ms : Nat) : Nat := w.clock + min ms longestWait

/-- Whether a time is set and not later than another. -/
def due (time : Option Nat) (now : Nat) : Bool := time.any fun t => decide (t ≤ now)

/-- Whether the run is cancelled. -/
def isCanceled (w : World) : Bool := due w.context.cancelAt w.clock

/-- The earlier of a time and one that may be set. -/
def earlier (t : Nat) : Option Nat → Nat
  | none => t
  | some u => min t u

/-- The run cancelled in some time from now, unless it already will be earlier. -/
def cancelAfter (w : World) (ms : Nat) : World :=
  { w with context := { w.context with
      cancelAt := some (earlier (w.waitEnd ms) w.context.cancelAt) } }

/-- The run cancelled. -/
def cancel (w : World) : World := w.cancelAfter 0

/-- A new context, whose time is over in some time from now. -/
def renewContext (w : World) (timeout : Option Nat) : World :=
  { w with context := ⟨none, timeout.map (w.clock + ·)⟩ }

/-- Others have their turn. -/
def yield (w : World) : World :=
  match w.outside with
  | [] => w
  | i :: rest =>
    let store := { w.store with faults := i.faults.getD w.store.faults }
    let w := { w with store, outside := rest }
    match i.cancelIn with
    | none => w
    | some ms => w.cancelAfter ms

/-- Which of the tasks at work goes on. -/
def takeTurn (w : World) : Nat × World :=
  match w.turns with
  | [] => (0, w)
  | turn :: turns => (turn, { w with turns })

/-! ## Waiting -/

/-- Time passed without regard to the context. -/
def pass (w : World) (ms : Nat) : World := { w with clock := w.waitEnd ms }

/-- Why a guarded call does not start, if it does not. -/
def refusal? (w : World) : Option StoreFailure :=
  if w.isCanceled then some .canceled
  else if due w.context.deadline w.clock then some .deadlineExceeded
  else none

/-- A wait that ends at the time of cancellation or at the deadline if that comes first. -/
def wait (w : World) (ms : Nat) : World × Except StoreFailure Unit :=
  let done := w.waitEnd ms
  match w.context.cancelAt, w.context.deadline with
  | some c, some d =>
    if c ≤ done ∧ c ≤ d then ({ w with clock := c }, .error .canceled)
    else if d ≤ done then ({ w with clock := d }, .error .deadlineExceeded)
    else ({ w with clock := done }, .ok ())
  | some c, none =>
    if c ≤ done then ({ w with clock := c }, .error .canceled)
    else ({ w with clock := done }, .ok ())
  | none, some d =>
    if d ≤ done then ({ w with clock := d }, .error .deadlineExceeded)
    else ({ w with clock := done }, .ok ())
  | none, none => ({ w with clock := done }, .ok ())

/-- A guarded wait: it does not start once the run is to end. -/
def guardWait (w : World) (ms : Nat) : World × Except StoreFailure Unit :=
  let w := w.yield
  match w.refusal? with
  | some e => (w, .error e)
  | none => w.wait ms

/-- A pause; whether it came to its end before the run was cancelled. -/
def pause (w : World) (ms : Nat) : World × Bool :=
  let w := w.yield
  if w.isCanceled then (w, false)
  else
    match w.context.cancelAt with
    | some c => if c ≤ w.waitEnd ms then ({ w with clock := c }, false) else (w.pass ms, true)
    | none => (w.pass ms, true)

/-! ## Calls to the store -/

variable {α : Type}

/-- A call, guarded by the context. -/
def guard (w : World) (call : Call α) : World × Except StoreFailure α :=
  match w.refusal? with
  | some e => (w, .error e)
  | none =>
    match { w with store := call.start w.store }.wait call.latency with
    | (w, .error e) => (w, .error e)
    | (w, .ok ()) =>
      let (store, answer) := call.finish w.store
      ({ w with store }, answer)

/-- A guarded call that has started. -/
structure Underway where
  /-- The store when the call was made. -/
  asked : Store
  /-- When the call may come to its end. -/
  due : Nat

/-- A guarded call started, unless the run is to end. -/
def begin (w : World) (call : Store → Call α) : World × Except StoreFailure Underway :=
  match w.refusal? with
  | some e => (w, .error e)
  | none =>
    ({ w with store := (call w.store).start w.store },
      .ok ⟨w.store, w.waitEnd (call w.store).latency⟩)

/-- Woken up at some time, or earlier if the run is to end, or later if that time has passed. -/
def wake (w : World) (time : Nat) : World × Except StoreFailure Unit :=
  let time := earlier (earlier time w.context.cancelAt) w.context.deadline
  let w := { w with clock := max w.clock time }
  match w.refusal? with
  | some e => (w, .error e)
  | none => (w, .ok ())

/-- A guarded call brought to its end. One that takes no time is not interrupted any more. -/
def complete (w : World) (call : Store → Call α) (q : Underway) : World × Except StoreFailure α :=
  match if (call q.asked).latency = 0 then (w, .ok ()) else w.wake q.due with
  | (w, .error e) => (w, .error e)
  | (w, .ok ()) =>
    let (store, answer) := (call q.asked).finish w.store
    ({ w with store }, answer)

/-- A call without regard to the context. -/
def await (w : World) (call : Call α) : World × Except StoreFailure α :=
  let w := { w with store := call.start w.store }.pass call.latency
  let (store, answer) := call.finish w.store
  ({ w with store }, answer)

/-- A cursor taken back. -/
def closeCursor (w : World) : World := { w with store := w.store.closeCursor }

/-- The completion record of a finished task saved, guarded by the context. -/
def finishMigration (w : World) (ns : Namespace) (id group : Identifier) (hasErrors : Bool) :
    World × Except StoreFailure Unit :=
  let w := w.yield
  let r := CompletionRecord.finished id group hasErrors
  match w.guard (w.store.upsertRecord ns r) with
  | (w, .ok ()) => (w.note (.recorded r), .ok ())
  | (w, .error e) => (w, .error e)

end World

end GatedMigration
