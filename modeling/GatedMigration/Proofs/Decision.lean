import GatedMigration.Proofs.Prerequisites
import GatedMigration.Proofs.Undisturbed
import Mathlib.Data.List.Dedup

/-!
# What an oracle decides

In an undisturbed world an oracle always has an answer, and a table tells which (`Store.decision`).
The table looks at nothing but the documents of the task, the records of its prerequisites and the
faults of the store (`Store.decision_congr`). Where it asks for a satisfied record of each
prerequisite, the oracle counts satisfied records and compares with the number of prerequisites; no
identifier has two records, so that this is the same (`World.Undisturbed.prerequisites`).
-/

namespace GatedMigration

theorem Selector.isOk_accepts_iff {sel : Selector} {d : Document} :
    (sel.accepts d).isOk = true ↔ ∃ hit, sel.accepts d = .ok hit := by
  cases sel.accepts d with
  | ok hit => exact ⟨fun _ => ⟨hit, rfl⟩, fun _ => rfl⟩
  | error e => exact ⟨fun h => (by cases h), fun ⟨_, h⟩ => (by cases h)⟩

/-! ## The table -/

namespace Store

/-- The documents of a namespace that match a selector can be counted. -/
def countable (s : Store) (ns : Namespace) (sel : Selector) : Bool :=
  s.faults.unreachable.isNone && s.faults.countError.isNone &&
    (s.documents ns).all fun d => (sel.accepts d).isOk

/-- Some document of a namespace matches a selector. -/
def anyMatching (s : Store) (ns : Namespace) (sel : Selector) : Bool :=
  (s.documents ns).any fun d => (sel.accepts d).toOption == some true

/-- Each of some identifiers has a record that is completed without errors, and the records can be
read to the end: a cursor that fails after as many of them fails before it. -/
def releases (s : Store) (metadata : Namespace) (ids : List Identifier) : Bool :=
  s.faults.recordQueryError.isNone &&
    (ids.all fun id => (s.record? metadata id).any fun r => r.completed && !r.hasErrors) &&
    s.faults.recordCursorFailsAfter.all fun n => decide (ids.dedup.length < n)

/-- What is to be answered for the documents that match a selector, with some prerequisites. -/
def decision (s : Store) (sel : Selector) (ns metadata : Namespace) (after : List Identifier) :
    Readiness :=
  if !s.countable ns sel then .unresolved
  else if !s.anyMatching ns sel then .passed
  else if after.isEmpty || s.releases metadata after then .ready
  else .blocked

variable {s s' : Store} {sel : Selector} {ns metadata : Namespace} {after after' : List Identifier}

theorem countable_iff : s.countable ns sel = true ↔ s.faults.unreachable = none ∧
    s.faults.countError = none ∧ ∀ d ∈ s.documents ns, ∃ hit, sel.accepts d = .ok hit := by
  simp only [countable, Bool.and_eq_true, Option.isNone_iff_eq_none, List.all_eq_true,
    Selector.isOk_accepts_iff, and_assoc]

theorem releases_iff : s.releases metadata after = true ↔ s.faults.recordQueryError = none ∧
    (∀ id ∈ after, ∃ r, s.record? metadata id = some r ∧ r.satisfied = true) ∧
    ∀ n, s.faults.recordCursorFailsAfter = some n → after.dedup.length < n := by
  simp only [releases, Bool.and_eq_true, Option.isNone_iff_eq_none, List.all_eq_true,
    Option.any_eq_true, Option.all_eq_true, decide_eq_true_eq, and_assoc,
    CompletionRecord.satisfied]

/-- Nothing but the documents, the records of the prerequisites and the faults decides, and it does
not matter how often a prerequisite is named. -/
theorem decision_congr (documents : s'.documents ns = s.documents ns)
    (faults : s'.faults = s.faults) (same : ∀ id, id ∈ after' ↔ id ∈ after)
    (records : ∀ id ∈ after, s'.record? metadata id = s.record? metadata id) :
    s'.decision sel ns metadata after' = s.decision sel ns metadata after := by
  have distinct : after'.dedup.length = after.dedup.length :=
    ((List.perm_ext_iff_of_nodup after'.nodup_dedup after.nodup_dedup).2 fun id => by
      rw [List.mem_dedup, List.mem_dedup, same]).length_eq
  have none : after'.isEmpty = after.isEmpty := by
    rw [Bool.eq_iff_iff, List.isEmpty_iff, List.isEmpty_iff]
    simp only [List.eq_nil_iff_forall_not_mem, same]
  have released : s'.releases metadata after' = s.releases metadata after := by
    rw [Bool.eq_iff_iff, releases_iff, releases_iff, faults, distinct]
    refine and_congr_right fun _ => and_congr_left fun _ => ?_
    exact ⟨fun all id mem => records id mem ▸ all id ((same id).2 mem),
      fun all id mem => (records id ((same id).1 mem)).symm ▸ all id ((same id).1 mem)⟩
  unfold decision countable anyMatching
  rw [documents, faults, none, released]

theorem decision_eq_ready_iff : s.decision sel ns metadata after = .ready ↔
    s.countable ns sel = true ∧ s.anyMatching ns sel = true ∧
      (after = [] ∨ s.releases metadata after = true) := by
  unfold decision
  rw [← List.isEmpty_iff]
  cases s.countable ns sel <;> cases s.anyMatching ns sel <;> cases after.isEmpty <;>
    cases s.releases metadata after <;> decide

/-- Faults release nothing: what is ready under some faults is ready without them. -/
theorem decision_ready_without_faults (h : s.decision sel ns metadata after = .ready) :
    { s with faults := {} }.decision sel ns metadata after = .ready := by
  obtain ⟨counted, something, released⟩ := decision_eq_ready_iff.1 h
  refine decision_eq_ready_iff.2 ⟨countable_iff.2 ⟨rfl, rfl, (countable_iff.1 counted).2.2⟩,
    something, ?_⟩
  refine Or.imp_right (fun reads => releases_iff.2 ⟨rfl, ?_, fun n fails => ?_⟩) released
  · exact (releases_iff.1 reads).2.1
  · cases fails

end Store

/-! ## The answer -/

/-- What the store answers when it is asked for the number of the documents that match. -/
def Store.counted (s : Store) (ns : Namespace) (sel : Selector) : Except StoreFailure Nat :=
  underFaults s.faults (s.faults.countError.map .query)
    (reported (countMatching sel (s.documents ns)))

theorem Store.counted_of_countable {s : Store} {ns : Namespace} {sel : Selector}
    (h : s.countable ns sel = true) :
    ∃ n, s.counted ns sel = .ok n ∧ (n = 0 ↔ s.anyMatching ns sel = false) := by
  obtain ⟨reachable, sound, answered⟩ := countable_iff.1 h
  obtain ⟨n, counted, nothing⟩ := countMatching_ok (s.documents ns) answered
  refine ⟨n, ?_, nothing.trans ?_⟩
  · simp only [Store.counted, underFaults, reachable, sound, Option.map_none, counted]
    rfl
  · rw [anyMatching, List.any_eq_false]
    refine forall₂_congr fun d mem => ?_
    obtain ⟨hit, accepted⟩ := answered d mem
    rw [accepted]
    cases hit <;> decide

theorem Store.counted_of_not_countable {s : Store} {ns : Namespace} {sel : Selector}
    (h : s.countable ns sel = false) : ∃ e, s.counted ns sel = .error e ∧ e ≠ .canceled := by
  unfold Store.counted underFaults
  split
  · exact ⟨_, rfl, StoreFailure.noConfusion⟩
  rename_i reachable
  cases sound : s.faults.countError with
  | some text => exact ⟨_, rfl, StoreFailure.noConfusion⟩
  | none =>
    obtain ⟨d, mem, e, fails⟩ : ∃ d ∈ s.documents ns, ∃ e, sel.accepts d = .error e := by
      by_contra none
      push Not at none
      refine Bool.noConfusion (h.symm.trans (countable_iff.2 ⟨reachable, sound, fun d mem => ?_⟩))
      cases answer : sel.accepts d with
      | ok hit => exact ⟨hit, rfl⟩
      | error e => exact absurd answer (none d mem e)
    obtain ⟨e', counted⟩ := countMatching_error mem fails
    rw [counted]
    exact ⟨_, rfl, StoreFailure.noConfusion⟩

theorem Cursor.failure?_eq_none_iff {α : Type} {c : Cursor α} :
    c.failure? = none ↔ ∀ n, c.failsAfter = some n → c.yielded < n := by
  unfold failure?
  cases c.failsAfter with
  | none => exact ⟨fun _ _ h => (by cases h), fun _ => rfl⟩
  | some n =>
    simp only [Option.some.injEq, forall_eq']
    split
    · rename_i past
      exact ⟨fun h => (by cases h), fun lt => absurd lt (Nat.not_lt.2 past)⟩
    · rename_i before
      exact ⟨fun _ => Nat.lt_of_not_le before, fun _ => rfl⟩

/-- A cursor that is to fail later does not fail now. -/
theorem Cursor.failure?_of_late {α : Type} {c : Cursor α} {more : Nat}
    (late : ∀ n, c.failsAfter = some n → c.yielded + more < n) : c.failure? = none :=
  failure?_eq_none_iff.2 fun n at_n => Nat.lt_of_le_of_lt (Nat.le_add_right _ _) (late n at_n)

namespace World.Undisturbed

variable {w : World} (h : w.Undisturbed)

include h

/-- The records make ready if all of them are satisfied, there are as many as there are
prerequisites, and the cursor does not fail before its end. -/
theorem readRecords (o : Oracle) (metadata : Namespace) (c : Cursor CompletionRecord)
    (items : List CompletionRecord) (satisfied : Nat) :
    ∃ w' a, o.readRecords metadata c items satisfied w = (w', some a) ∧ w'.Undisturbed ∧
      w'.store = w.store ∧ (a = .ready ∨ a = .blocked) ∧
      (a = .ready ↔ (∀ r ∈ items, r.satisfied = true) ∧
        o.edges.toList.length ≤ satisfied + items.length ∧
        ∀ n, c.failsAfter = some n → satisfied + items.length < n) := by
  induction items generalizing satisfied w with
  | nil =>
    have passed : (w.pass c.latency).Undisturbed := h.of_eq rfl rfl
    rw [Oracle.readRecords, h.guardWait]
    dsimp only
    split
    · rename_i e fails
      refine ⟨_, _, rfl, passed.of_eq rfl rfl, rfl, Or.inr rfl, Readiness.noConfusion,
        fun good => ?_⟩
      cases fails.symm.trans (Cursor.failure?_of_late good.2.2)
    · rename_i sound
      refine ⟨_, _, rfl, passed, rfl, ?_⟩
      split
      · rename_i few
        exact ⟨Or.inr rfl, Readiness.noConfusion, fun good => absurd few (Nat.not_lt.2 good.2.1)⟩
      · rename_i enough
        exact ⟨Or.inl rfl, fun _ => ⟨fun _ mem => absurd mem List.not_mem_nil,
          Nat.le_of_not_lt enough, Cursor.failure?_eq_none_iff.1 sound⟩, fun _ => rfl⟩
  | cons r items ih =>
    have passed : (w.pass c.latency).Undisturbed := h.of_eq rfl rfl
    rw [Oracle.readRecords, h.guardWait]
    dsimp only
    split
    · rename_i e fails
      refine ⟨_, _, rfl, passed.of_eq rfl rfl, rfl, Or.inr rfl, Readiness.noConfusion,
        fun good => ?_⟩
      cases fails.symm.trans (Cursor.failure?_of_late good.2.2)
    split
    · rename_i good
      obtain ⟨w', a, read, undisturbed, store, either, ready⟩ := ih passed (satisfied + 1)
      refine ⟨w', a, read, undisturbed, store, either, ready.trans ?_⟩
      rw [List.forall_mem_cons, List.length_cons, Nat.add_right_comm, Nat.add_assoc]
      simp only [good, true_and]
    · rename_i unsatisfied
      exact ⟨_, _, rfl, passed, rfl, Or.inr rfl, Readiness.noConfusion,
        fun good => absurd (good.1 r List.mem_cons_self) unsatisfied⟩

/-- The prerequisites make ready just if the store releases them. -/
theorem prerequisites (o : Oracle) (metadata : Namespace)
    (reachable : w.store.faults.unreachable = none) :
    ∃ w' a, o.prerequisites metadata w = (w', some a) ∧ w'.Undisturbed ∧
      w'.store.faults = w.store.faults ∧ (a = .ready ∨ a = .blocked) ∧
      (a = .ready ↔ w.store.releases metadata o.edges.toList = true) := by
  have handed : (w.store.findRecords metadata o.edges.toList).finish
      ((w.store.findRecords metadata o.edges.toList).start w.store) =
      Store.handOut _ (Store.underFaults w.store.faults
        (w.store.faults.recordQueryError.map .query) (Store.reported
          (Store.matchingRecords (Selector.idIn o.edges.toList) (w.store.records metadata))))
        w.store.faults.recordCursorFailsAfter w.store.faults.latency := rfl
  rw [Store.matchingRecords_idIn] at handed
  rw [Oracle.prerequisites, h.yield, Store.releases_iff]
  cases failing : w.store.faults.recordQueryError with
  | some text =>
    simp only [Store.underFaults, reachable, failing, Option.map_some, Store.handOut] at handed
    obtain ⟨w₁, asked, undisturbed, store⟩ := h.guard_of_finish handed
    have faults : w₁.store.faults = w.store.faults := by rw [store]; rfl
    rw [asked]
    exact ⟨_, _, rfl, undisturbed.of_eq rfl rfl, faults, Or.inr rfl, Readiness.noConfusion,
      fun good => by cases good.1⟩
  | none =>
    simp only [Store.underFaults, reachable, failing, Option.map_none] at handed
    obtain ⟨w₁, asked, undisturbed, store⟩ := h.guard_of_finish handed
    have faults : w₁.store.faults = w.store.faults := by rw [store]; rfl
    let records := (w.store.recordsOf.get metadata).among o.edges.toList
    let c := Cursor.ofItems records w.store.faults.recordCursorFailsAfter w.store.faults.latency
    obtain ⟨w', a, read, undisturbed, same, either, ready⟩ :=
      undisturbed.readRecords o metadata c records 0
    have nodup : o.edges.toList.Nodup := Keyed.nodup_of_ascending o.edges.ascending
    have fewer : records.length ≤ o.edges.toList.length := RecordBook.length_among_le _ _
    rw [asked]
    refine ⟨w'.closeCursor, a, ?_, undisturbed.of_eq rfl rfl, ?_, either, ready.trans ?_⟩
    · show ((o.readRecords metadata c records 0 w₁).1.closeCursor,
        (o.readRecords metadata c records 0 w₁).2) = _
      rw [read]
    · exact (congrArg Store.faults same).trans faults
    · rw [Nat.zero_add, nodup.dedup]
      constructor
      · rintro ⟨good, enough, sound⟩
        refine ⟨rfl, fun id edge => RecordBook.find?_of_among good enough edge, fun n at_n => ?_⟩
        exact Nat.le_antisymm fewer enough ▸ sound n at_n
      · rintro ⟨-, all, sound⟩
        obtain ⟨good, enough⟩ := RecordBook.among_of_find? nodup all
        exact ⟨good, enough, fun n at_n => Nat.lt_of_le_of_lt fewer (sound n at_n)⟩

/-- An oracle answers as the table says. -/
theorem state (o : Oracle) (metadata : Namespace) :
    ∃ w', o.state metadata w = (w', some (w.store.decision o.selector o.namesp metadata
      o.edges.toList)) ∧ w'.Undisturbed ∧ w'.store.faults = w.store.faults := by
  have answered : (w.store.count o.namesp o.selector).finish
      ((w.store.count o.namesp o.selector).start w.store) =
      ((w.store.count o.namesp o.selector).start w.store,
        w.store.counted o.namesp o.selector) := rfl
  obtain ⟨w₁, asked, undisturbed, store⟩ := h.guard_of_finish answered
  have faults : w₁.store.faults = w.store.faults := by rw [store]; rfl
  rw [Oracle.state, h.yield, asked, Store.decision]
  cases countable : w.store.countable o.namesp o.selector with
  | false =>
    obtain ⟨e, failed, ne⟩ := Store.counted_of_not_countable countable
    rw [failed]
    cases e with
    | canceled => exact absurd rfl ne
    | _ => exact ⟨_, rfl, undisturbed.of_eq rfl rfl, faults⟩
  | true =>
    obtain ⟨n, counted, nothing⟩ := Store.counted_of_countable countable
    rw [counted]
    dsimp only
    cases something : w.store.anyMatching o.namesp o.selector with
    | false =>
      rw [if_pos (nothing.2 something)]
      exact ⟨w₁, rfl, undisturbed, faults⟩
    | true =>
      rw [if_neg fun e => Bool.noConfusion (something.symm.trans (nothing.1 e))]
      have reachable : w₁.store.faults.unreachable = none := by
        rw [faults, (Store.countable_iff.1 countable).1]
      obtain ⟨w', a, answer, undisturbed', faults', either, ready⟩ :=
        undisturbed.prerequisites o metadata reachable
      have same : w₁.store.releases metadata o.edges.toList =
          w.store.releases metadata o.edges.toList := by rw [store]; rfl
      rw [same] at ready
      cases o.edges.toList.isEmpty with
      | true => exact ⟨w₁, rfl, undisturbed, faults⟩
      | false =>
        refine ⟨w', answer.trans (congrArg (w', some ·) ?_), undisturbed', faults'.trans faults⟩
        cases released : w.store.releases metadata o.edges.toList with
        | true => exact ready.2 released
        | false =>
          refine either.resolve_left fun h => ?_
          exact Bool.noConfusion (released.symm.trans (ready.1 h))

end World.Undisturbed

/-! ## The table decides -/

namespace Oracle

variable {w : World}

/-- In an undisturbed world an oracle answers as the table says. So it does not matter how often a
prerequisite is named, and what else is stored besides the documents of the task and the records of
its prerequisites; and no fault makes ready what is not ready without faults. -/
theorem state_decided (h : w.Undisturbed) (sel : Selector) (ns metadata : Namespace)
    (after : List Identifier) :
    ((ofList sel ns after).state metadata w).2 =
      some (w.store.decision sel ns metadata after) ∧
    (∀ after' : List Identifier, (∀ id, id ∈ after' ↔ id ∈ after) →
      (ofList sel ns after').state metadata w = (ofList sel ns after).state metadata w) ∧
    (∀ s : Store, s.documents ns = w.store.documents ns → s.faults = w.store.faults →
      (∀ id ∈ after, s.record? metadata id = w.store.record? metadata id) →
      ((ofList sel ns after).state metadata { w with store := s }).2 =
        ((ofList sel ns after).state metadata w).2) ∧
    (((ofList sel ns after).state metadata w).2 = some .ready →
      ((ofList sel ns after).state metadata
        { w with store := { w.store with faults := {} } }).2 = some .ready) := by
  have decided {v : World} (h : v.Undisturbed) : ((ofList sel ns after).state metadata v).2 =
      some (v.store.decision sel ns metadata after) := by
    obtain ⟨v', answer, -, -⟩ := h.state (ofList sel ns after) metadata
    rw [answer]
    exact congrArg some (Store.decision_congr rfl rfl (fun _ => IdSet.mem_ofList) fun _ _ => rfl)
  have elsewhere (s : Store) : ({ w with store := s } : World).Undisturbed := h.of_eq rfl rfl
  refine ⟨decided h, fun after' same => ?_, fun s documents faults records => ?_, fun ready => ?_⟩
  · have edges : IdSet.ofList after' = IdSet.ofList after :=
      IdSet.ext_mem fun id => IdSet.mem_ofList.trans ((same id).trans IdSet.mem_ofList.symm)
    rw [ofList, edges]
    rfl
  · rw [decided h, decided (elsewhere s)]
    exact congrArg some (Store.decision_congr documents faults (fun _ => Iff.rfl) records)
  · rw [decided h] at ready
    rw [decided (elsewhere _)]
    exact congrArg some (Store.decision_ready_without_faults (Option.some.inj ready))

/-- An order to be marked, the record of the task `a`, and a cursor over records that fails after
so many of them. -/
def oneOrder (failsAfter : Nat) : World :=
  { World.initial with
    store := { (Store.empty.insertMany ⟨"db", "orders"⟩ [[("_id", .int 1)]]).putRecord
      ⟨"db", "records"⟩ (.finished "a" "a" false) with
        faults := { recordCursorFailsAfter := some failsAfter } } }

/-- A prerequisite that is named twice has one record, and a cursor that fails after one record
fails before its end. -/
theorem ready_with_late_fault :
    ((ofList ⟨[]⟩ ⟨"db", "orders"⟩ ["a", "a"]).state ⟨"db", "records"⟩ (oneOrder 2)).2 =
      some .ready ∧
    ((ofList ⟨[]⟩ ⟨"db", "orders"⟩ ["a", "a"]).state ⟨"db", "records"⟩ (oneOrder 1)).2 =
      some .blocked :=
  ⟨(state_decided ⟨rfl, rfl⟩ _ _ _ _).1.trans (by decide +kernel),
    (state_decided ⟨rfl, rfl⟩ _ _ _ _).1.trans (by decide +kernel)⟩

end Oracle

end GatedMigration
