import GatedMigration.Failure
import GatedMigration.Namespace
import GatedMigration.Record
import GatedMigration.Selector

/-!
# Stores

A store keeps documents in collections, in the order of their insertion, and completion records in
books. It counts the queries it is asked, and it can be told to fail (`Faults`). A query is a
`Call`: it is counted when it starts, takes the store's latency, and has its answer and its effect
at its end, under the faults that were set when it started. The answers of a query come through a
`Cursor`, which may fail on the way; the store knows how many cursors are open.
-/

namespace GatedMigration

/-- The failures that a store is told to show. -/
structure Faults where
  /-- Every call fails. -/
  unreachable : Option String := none
  countError : Option String := none
  findError : Option String := none
  recordQueryError : Option String := none
  upsertError : Option String := none
  /-- A cursor over documents fails after so many. -/
  findCursorFailsAfter : Option Nat := none
  /-- A cursor over records fails after so many. -/
  recordCursorFailsAfter : Option Nat := none
  /-- What every query and every step of a cursor takes, in milliseconds. -/
  latency : Nat := 0
deriving Inhabited

/-- How many queries of each kind were started. -/
structure Counters where
  count : Nat := 0
  find : Nat := 0
  record : Nat := 0
  upserts : Nat := 0
deriving DecidableEq, Inhabited

/-- A store with its documents and records. -/
structure Store where
  collections : PerNamespace (List Document)
  recordsOf : PerNamespace RecordBook
  faults : Faults
  counters : Counters
  openCursors : Nat

/-- The rest of the answers of a query. -/
structure Cursor (α : Type) where
  items : List α
  yielded : Nat
  failsAfter : Option Nat
  latency : Nat

/-- A query to a store. -/
structure Call (α : Type) where
  /-- The store once the query is started. -/
  start : Store → Store
  /-- How long the query takes. -/
  latency : Nat
  /-- The store and the answer once the query ends. -/
  finish : Store → Store × Except StoreFailure α

namespace Cursor

variable {α : Type}

/-- A cursor at its start. -/
def ofItems (items : List α) (failsAfter : Option Nat) (latency : Nat) : Cursor α :=
  ⟨items, 0, failsAfter, latency⟩

/-- Why the cursor fails now, if it does. -/
def failure? (c : Cursor α) : Option StoreFailure :=
  match c.failsAfter with
  | some n =>
    if n ≤ c.yielded then
      some (.cursor ("cursor failed after " ++ toString c.yielded ++ " items"))
    else none
  | none => none

/-- The cursor behind its next item. -/
def advance (c : Cursor α) (rest : List α) : Cursor α :=
  { c with items := rest, yielded := c.yielded + 1 }

/-- The next item and the cursor behind it; at the end there is no item. -/
def next (c : Cursor α) : Except StoreFailure (Option α × Cursor α) :=
  match c.failure? with
  | some e => .error e
  | none =>
    match c.items with
    | [] => .ok (none, c)
    | a :: rest => .ok (some a, c.advance rest)

end Cursor

namespace Store

/-- The store that holds nothing. -/
def empty : Store := ⟨.empty, .empty, {}, {}, 0⟩

instance : Inhabited Store := ⟨empty⟩

/-! ## Documents -/

/-- The documents of a namespace in the order of their insertion. -/
def documents (s : Store) (ns : Namespace) : List Document := s.collections.get ns

/-- The documents of a namespace replaced. -/
def setDocuments (s : Store) (ns : Namespace) (docs : List Document) : Store :=
  { s with collections := s.collections.set ns docs }

/-- Documents put behind the others of a namespace. -/
def insertMany (s : Store) (ns : Namespace) (docs : List Document) : Store :=
  s.setDocuments ns (s.documents ns ++ docs)

/-- The documents that match a selector changed one after the other, up to the first on which the
selector fails; `touched` have been changed before. -/
def updateMatching (sel : Selector) (change : Document → Document) (touched : Nat) :
    List Document → List Document × Except SelectorError Nat
  | [] => ([], .ok touched)
  | d :: ds =>
    match sel.accepts d with
    | .error e => (d :: ds, .error e)
    | .ok hit =>
      let (ds, result) := updateMatching sel change (if hit then touched + 1 else touched) ds
      ((if hit then change d else d) :: ds, result)

/-- The documents of a namespace that match a selector changed; the answer is their number. -/
def updateWhere (s : Store) (ns : Namespace) (sel : Selector) (change : Document → Document) :
    Store × Except StoreFailure Nat :=
  let (docs, result) := updateMatching sel change 0 (s.documents ns)
  (s.setDocuments ns docs, result.mapError fun e => .query e.message)

/-- The first document with an identifying value changed, if there is one. -/
def changeFirst (id : Value) (change : Document → Document) :
    List Document → Option (List Document)
  | [] => none
  | d :: ds =>
    if Keyed.find? idField d == some id then some (change d :: ds)
    else (changeFirst id change ds).map (d :: ·)

/-- A field written into the first document with an identifying value; the answer is whether there
is such a document. -/
def setField (s : Store) (ns : Namespace) (id : Value) (field : String) (v : Value) :
    Store × Bool :=
  match changeFirst id (Keyed.insert field v) (s.documents ns) with
  | some docs => (s.setDocuments ns docs, true)
  | none => (s, false)

/-! ## Records -/

/-- The record of an identifier. -/
def record? (s : Store) (ns : Namespace) (id : Identifier) : Option CompletionRecord :=
  (s.recordsOf.get ns).find? id

/-- The records of a namespace in ascending order of their identifiers. -/
def records (s : Store) (ns : Namespace) : List CompletionRecord := (s.recordsOf.get ns).toList

/-- A record written over an older one of its identifier. -/
def putRecord (s : Store) (ns : Namespace) (r : CompletionRecord) : Store :=
  { s with recordsOf := s.recordsOf.set ns ((s.recordsOf.get ns).put r) }

/-! ## Queries -/

/-- How many of the documents match. -/
def countMatching (sel : Selector) : List Document → Except SelectorError Nat
  | [] => .ok 0
  | d :: ds =>
    match sel.accepts d with
    | .error e => .error e
    | .ok hit => (countMatching sel ds).map fun n => if hit then n + 1 else n

/-- The identifying values of the documents that match, in order; `room` bounds their number, and
nothing is looked at once there is no room. -/
def findMatching (sel : Selector) : Option Nat → List Document → Except SelectorError (List Value)
  | some 0, _ => .ok []
  | _, [] => .ok []
  | room, d :: ds =>
    match sel.accepts d with
    | .error e => .error e
    | .ok true => (findMatching sel (room.map (· - 1)) ds).map (Document.id d :: ·)
    | .ok false => findMatching sel room ds

/-- The records whose documents match, in order. -/
def matchingRecords (sel : Selector) :
    List CompletionRecord → Except SelectorError (List CompletionRecord)
  | [] => .ok []
  | r :: rs =>
    match sel.accepts r.toDocument with
    | .error e => .error e
    | .ok hit => (matchingRecords sel rs).map fun found => if hit then r :: found else found

/-- An answer, unless the faults let every call fail or this kind of call. -/
def underFaults {α : Type} (f : Faults) (own : Option StoreFailure)
    (answer : Except StoreFailure α) : Except StoreFailure α :=
  match f.unreachable with
  | some text => .error (.unreachable text)
  | none =>
    match own with
    | some e => .error e
    | none => answer

/-- A failed evaluation of a selector, as the store reports it. -/
def reported {α : Type} (r : Except SelectorError α) : Except StoreFailure α :=
  r.mapError fun e => .query e.message

/-- A cursor handed out, if the query succeeded. -/
def handOut {α : Type} (s : Store) (items : Except StoreFailure (List α)) (failsAfter : Option Nat)
    (latency : Nat) : Store × Except StoreFailure (Cursor α) :=
  match items with
  | .ok items =>
    ({ s with openCursors := s.openCursors + 1 }, .ok (Cursor.ofItems items failsAfter latency))
  | .error e => (s, .error e)

/-- A cursor taken back. -/
def closeCursor (s : Store) : Store := { s with openCursors := s.openCursors - 1 }

/-- How many documents of a namespace match a selector. -/
def count (s : Store) (ns : Namespace) (sel : Selector) : Call Nat where
  start := fun s => { s with counters := { s.counters with count := s.counters.count + 1 } }
  latency := s.faults.latency
  finish := fun now => (now,
    underFaults s.faults (s.faults.countError.map .query)
      (reported (countMatching sel (now.documents ns))))

/-- The identifying values of the documents of a namespace that match a selector, at most as many
as the limit says. -/
def findIds (s : Store) (ns : Namespace) (sel : Selector) (limit : Option Nat) :
    Call (Cursor Value) where
  start := fun s => { s with counters := { s.counters with find := s.counters.find + 1 } }
  latency := s.faults.latency
  finish := fun now => now.handOut
    (underFaults s.faults (s.faults.findError.map .query)
      (reported (findMatching sel limit (now.documents ns))))
    s.faults.findCursorFailsAfter s.faults.latency

/-- The records of a namespace that have one of some identifiers. -/
def findRecords (s : Store) (ns : Namespace) (ids : List Identifier) :
    Call (Cursor CompletionRecord) where
  start := fun s => { s with counters := { s.counters with record := s.counters.record + 1 } }
  latency := s.faults.latency
  finish := fun now => now.handOut
    (underFaults s.faults (s.faults.recordQueryError.map .query)
      (reported (matchingRecords (Selector.idIn ids) (now.records ns))))
    s.faults.recordCursorFailsAfter s.faults.latency

/-- A record written. -/
def upsertRecord (s : Store) (ns : Namespace) (r : CompletionRecord) : Call Unit where
  start := fun s => { s with counters := { s.counters with upserts := s.counters.upserts + 1 } }
  latency := s.faults.latency
  finish := fun now =>
    match underFaults s.faults (s.faults.upsertError.map .write) (.ok ()) with
    | .ok () => (now.putRecord ns r, .ok ())
    | .error e => (now, .error e)

end Store

end GatedMigration
