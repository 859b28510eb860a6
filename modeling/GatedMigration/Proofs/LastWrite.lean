import GatedMigration.Proofs.Prerequisites
import GatedMigration.Proofs.Counting

/-!
# The last record written

Records are written under their identifiers, one over the other, and they are found by going over
all of them with a selector. To whoever asks, a namespace is nevertheless a map from identifiers to
the records that were last written under them: a query for identifiers gives what looking up one
after the other gives (`RecordBook.among_eq`), and each write changes the answer for one identifier
in one namespace (`Filing.agrees_deposit`).

* `Filing.last_write_found`: what is found of the records after any sequence of writes.
-/

namespace GatedMigration

/-! ## Finding many and looking up one -/

/-- Ascending lists with the same members are equal. -/
theorem CompletionRecord.eq_of_ascending {rs rs' : List CompletionRecord}
    (ascending : rs.Pairwise fun r r' => r.id < r'.id)
    (ascending' : rs'.Pairwise fun r r' => r.id < r'.id) (same : ∀ r, r ∈ rs ↔ r ∈ rs') :
    rs = rs' := by
  have distinct {rs : List CompletionRecord} (h : rs.Pairwise fun r r' => r.id < r'.id) :
      rs.Nodup := by
    refine h.imp fun {r r'} less => ?_
    rintro rfl
    exact String.lt_irrefl _ less
  refine List.Perm.eq_of_pairwise ?_ ascending ascending' ?_
  · intro r r' _ _ less greater
    exact absurd (String.lt_trans less greater) (String.lt_irrefl _)
  · exact (List.perm_ext_iff_of_nodup (distinct ascending) (distinct ascending')).2 same

/-- The records of some identifiers are what is found under each of them, in ascending order. -/
theorem RecordBook.among_eq (b : RecordBook) (ids : List Identifier) :
    b.among ids = (IdSet.ofList ids).toList.filterMap b.find? := by
  -- Both sides are ascending, so their members decide.
  refine CompletionRecord.eq_of_ascending ?_ ?_ fun r => ?_
  · exact (List.pairwise_map.1 b.ids_ascending).sublist List.filter_sublist
  · refine List.Pairwise.filterMap _ (fun id id' less r found r' found' => ?_)
      (IdSet.ofList ids).ascending
    rw [b.filed found, b.filed found']
    exact less
  · rw [mem_among, List.mem_filterMap]
    constructor
    · rintro ⟨stored, mem⟩
      exact ⟨r.id, IdSet.mem_ofList.2 mem, stored⟩
    · rintro ⟨id, mem, stored⟩
      obtain rfl : r.id = id := b.filed stored
      exact ⟨stored, IdSet.mem_ofList.1 mem⟩

/-! ## Calls that are about records -/

/-- Writing a record does not fail. -/
structure Faults.SpareUpserts (f : Faults) : Prop where
  reachable : f.unreachable = none
  upsert : f.upsertError = none

/-- To query records does not fail, and neither do the cursors over them. -/
structure Faults.SpareRecords (f : Faults) : Prop where
  reachable : f.unreachable = none
  query : f.recordQueryError = none
  cursor : f.recordCursorFailsAfter = none

/-- A call has its answer unless the faults prevent it, and otherwise it fails. -/
theorem Store.underFaults_cases {α : Type} (f : Faults) (own : Option StoreFailure)
    (answer : Except StoreFailure α) :
    ((f.unreachable = none ∧ own = none) ∧ underFaults f own answer = answer) ∨
      (¬(f.unreachable = none ∧ own = none) ∧ ∃ e, underFaults f own answer = .error e) := by
  unfold underFaults
  cases f.unreachable with
  | some text => simp
  | none => cases own <;> simp

theorem Store.record?_putRecord (s : Store) (ns ns' : Namespace) (r : CompletionRecord)
    (id : Identifier) : (s.putRecord ns r).record? ns' id =
      if ns = ns' ∧ r.id = id then some r else s.record? ns' id := by
  show ((s.recordsOf.set ns ((s.recordsOf.get ns).put r)).get ns').find? id = _
  by_cases here : ns = ns'
  · subst here
    rw [PerNamespace.get_set_self]
    by_cases same : r.id = id
    · subst same
      rw [if_pos ⟨rfl, rfl⟩, RecordBook.find?_put_self]
    · rw [if_neg fun h => same h.2]
      exact RecordBook.find?_put_of_ne _ (Ne.symm same)
  · rw [if_neg fun h => here h.1, PerNamespace.get_set_of_ne _ (Ne.symm here)]
    rfl

namespace World

variable (w : World) (ns : Namespace)

/-- A record is written, unless the store has the faults that prevent it; then nothing is. -/
theorem await_upsertRecord (r : CompletionRecord) :
    let after := w.await (w.store.upsertRecord ns r)
    let asked := { w.store with
      counters := { w.store.counters with upserts := w.store.counters.upserts + 1 } }
    (w.store.faults.SpareUpserts ∧ after.2 = .ok () ∧ after.1.store = asked.putRecord ns r) ∨
      (¬w.store.faults.SpareUpserts ∧ (∃ e, after.2 = .error e) ∧ after.1.store = asked) := by
  intro after asked
  have spared : w.store.faults.SpareUpserts ↔ w.store.faults.unreachable = none ∧
      w.store.faults.upsertError.map StoreFailure.write = none := by
    rw [Option.map_eq_none_iff]
    exact ⟨fun h => ⟨h.reachable, h.upsert⟩, fun h => ⟨h.1, h.2⟩⟩
  rw [spared]
  dsimp only [after, asked, await, Store.upsertRecord]
  rcases Store.underFaults_cases w.store.faults (w.store.faults.upsertError.map .write) (.ok ())
    with ⟨none, answer⟩ | ⟨faulty, e, answer⟩
  · rw [answer]
    exact Or.inl ⟨none, rfl, rfl⟩
  · rw [answer]
    exact Or.inr ⟨faulty, ⟨e, rfl⟩, rfl⟩

theorem await_findRecords (spared : w.store.faults.SpareRecords) (ids : List Identifier) :
    Cursor.Yields (w.await (w.store.findRecords ns ids)).2
      ((IdSet.ofList ids).toList.filterMap (w.store.record? ns)) := by
  have answer : (w.await (w.store.findRecords ns ids)).2 =
      .ok (Cursor.ofItems ((w.store.recordsOf.get ns).among ids) none w.store.faults.latency) := by
    show (Store.handOut _ (Store.underFaults _ _ _) _ _).2 = _
    simp only [Store.underFaults, spared.reachable, spared.query, spared.cursor, Option.map_none,
      Store.matchingRecords_idIn]
    rfl
  refine ⟨_, answer, ?_⟩
  rw [Cursor.drain_of_sound rfl]
  exact congrArg Except.ok ((w.store.recordsOf.get ns).among_eq ids)

end World

/-! ## Histories of writes -/

/-- What is done to a store. -/
inductive Deposit where
  | put (ns : Namespace) (r : CompletionRecord)
  | upsert (ns : Namespace) (r : CompletionRecord)
  /-- Something that leaves the records as they are, like other faults. -/
  | elsewhere (change : World → World)
      (leaves : ∀ w, (change w).store.recordsOf = w.store.recordsOf)

/-- A world, and what was written there. -/
structure Filing where
  world : World
  /-- The records with their namespaces, the latest first. -/
  written : List (Namespace × CompletionRecord)

namespace Filing

/-- Nothing is written yet. -/
def start : Filing := ⟨World.initial, []⟩

/-- A record is written once the call has succeeded. -/
def deposit (f : Filing) : Deposit → Filing
  | .put ns r =>
    ⟨{ f.world with store := f.world.store.putRecord ns r }, (ns, r) :: f.written⟩
  | .upsert ns r =>
    match f.world.await (f.world.store.upsertRecord ns r) with
    | (w, .ok ()) => ⟨w, (ns, r) :: f.written⟩
    | (w, .error _) => ⟨w, f.written⟩
  | .elsewhere change _ => ⟨change f.world, f.written⟩

/-- What has become of a store after everything that was done to it. -/
def after (history : List Deposit) : Filing := history.foldl deposit start

/-- The last record that was written for an identifier. -/
def last? (f : Filing) (ns : Namespace) (id : Identifier) : Option CompletionRecord :=
  (f.written.find? fun p => p.1 = ns ∧ p.2.id = id).map Prod.snd

/-- The store holds the last records that were written. -/
def Agrees (f : Filing) : Prop := ∀ ns id, f.world.store.record? ns id = f.last? ns id

variable {f : Filing}

/-- One more record is written. -/
theorem Agrees.written {w : World} {ns : Namespace} {r : CompletionRecord} (agrees : f.Agrees)
    (records : w.store.recordsOf = (f.world.store.putRecord ns r).recordsOf) :
    (Filing.mk w ((ns, r) :: f.written)).Agrees := by
  intro ns' id
  have now : w.store.record? ns' id = (f.world.store.putRecord ns r).record? ns' id := by
    rw [Store.record?, records]
    rfl
  show w.store.record? ns' id = _
  rw [now, Store.record?_putRecord, agrees ns' id]
  unfold last?
  rw [List.find?_cons]
  by_cases here : ns = ns' ∧ r.id = id
  · simp only [here, and_self, decide_true, if_true, Option.map_some]
  · simp only [here, decide_false, if_false]

/-- The records are as before. -/
theorem Agrees.unwritten {w : World} (agrees : f.Agrees)
    (records : w.store.recordsOf = f.world.store.recordsOf) : (Filing.mk w f.written).Agrees := by
  intro ns id
  show (w.store.recordsOf.get ns).find? id = _
  rw [records]
  exact agrees ns id

theorem agrees_deposit (agrees : f.Agrees) (d : Deposit) : (f.deposit d).Agrees := by
  cases d with
  | put ns r => exact agrees.written rfl
  | upsert ns r =>
    have ends := f.world.await_upsertRecord ns r
    rw [deposit]
    generalize f.world.await (f.world.store.upsertRecord ns r) = p at ends ⊢
    obtain ⟨w, answer⟩ := p
    rcases ends with ⟨-, ok, store⟩ | ⟨-, ⟨e, failed⟩, store⟩
    · cases ok
      refine agrees.written ?_
      rw [show w.store = _ from store]
      rfl
    · cases failed
      refine agrees.unwritten ?_
      rw [show w.store = _ from store]
  | elsewhere change leaves => exact agrees.unwritten (leaves f.world)

theorem agrees_after (history : List Deposit) : (after history).Agrees := by
  -- For the induction the history may begin at any store that agrees.
  have onwards : ∀ {f : Filing}, f.Agrees → (history.foldl deposit f).Agrees := by
    induction history with
    | nil => exact id
    | cons d history ih => exact fun agrees => ih (agrees_deposit agrees d)
  exact onwards fun _ _ => rfl

/-- Whatever was written, and whatever failed, what is found of the records are the last that were
written: by looking up an identifier, and by a query for any identifiers, which yields the records
of those that were written, each once, in ascending order. A further write succeeds unless the store
has the faults that prevent it, and then it changes nothing but the number of writes. -/
theorem last_write_found (history : List Deposit) (ns : Namespace) :
    let f := after history
    let w := f.world
    (∀ id, w.store.record? ns id = f.last? ns id) ∧
    (w.store.faults.SpareRecords → ∀ ids, Cursor.Yields (w.await (w.store.findRecords ns ids)).2
      ((IdSet.ofList ids).toList.filterMap (f.last? ns))) ∧
    ∀ r, match w.await (w.store.upsertRecord ns r) with
      | (_, .ok ()) => w.store.faults.SpareUpserts
      | (w', .error _) => ¬w.store.faults.SpareUpserts ∧
          { w'.store with counters := w.store.counters } = w.store := by
  intro f w
  have agrees : w.store.record? ns = f.last? ns := funext (agrees_after history ns)
  refine ⟨fun id => congrFun agrees id, fun spared ids => ?_, fun r => ?_⟩
  · rw [← agrees]
    exact w.await_findRecords ns spared ids
  · have ends := w.await_upsertRecord ns r
    generalize w.await (w.store.upsertRecord ns r) = p at ends ⊢
    obtain ⟨w', answer⟩ := p
    rcases ends with ⟨spared, ok, -⟩ | ⟨faulty, ⟨e, failed⟩, store⟩
    · cases ok
      exact spared
    · cases failed
      refine ⟨faulty, ?_⟩
      rw [show w'.store = _ from store]

end Filing

namespace Sample

/-- The record of a task is written and overwritten; then the disk is full, and it stays. -/
def fullDisk : List Deposit := [
  .put ⟨"meta", "done"⟩ (.finished "b" "b" true),
  .put ⟨"meta", "other"⟩ (.finished "a" "a" false),
  .upsert ⟨"meta", "done"⟩ (.finished "b" "b" false),
  .upsert ⟨"meta", "done"⟩ (.finished "ä" "ä" false),
  .elsewhere
    (fun w => { w with store := { w.store with faults := { upsertError := some "disk full" } } })
    (fun _ => rfl),
  .upsert ⟨"meta", "done"⟩ (.finished "b" "b" true)]

end Sample

namespace Filing

/-- One query for several identifiers, some of them unknown and one of them twice. -/
theorem found_on_full_disk :
    let w := (after Sample.fullDisk).world
    w.store.faults.SpareRecords ∧
    (w.await (w.store.upsertRecord ⟨"meta", "done"⟩ (.finished "b" "b" true))).2 =
      .error (.write "disk full") ∧
    Cursor.Yields (w.await (w.store.findRecords ⟨"meta", "done"⟩ ["ä", "c", "b", "a", "ä"])).2
      [.finished "b" "b" false, .finished "ä" "ä" false] := by
  intro w
  have spared : w.store.faults.SpareRecords := ⟨rfl, rfl, rfl⟩
  have found := (last_write_found Sample.fullDisk ⟨"meta", "done"⟩).2.1 spared
  exact ⟨spared, rfl, found ["ä", "c", "b", "a", "ä"]⟩

end Filing

end GatedMigration
