import GatedMigration.Proofs.Condition
import GatedMigration.Proofs.Saves
import Mathlib.Data.List.Perm.Subperm

/-!
# What an oracle reads of the prerequisites

An oracle says that a task is ready only if every prerequisite has a satisfied record: the query
for the records of the prerequisites finds each of them at most once (`findRecords_items`), so as
many satisfied records as there are prerequisites are one for each (`Oracle.state_ready`).
-/

namespace GatedMigration

/-- A record that counts as a prerequisite is stored. -/
def World.Satisfied (w : World) (ns : Namespace) (id : Identifier) : Prop :=
  ∃ r, w.store.record? ns id = some r ∧ r.satisfied = true

/-- What saves no record leaves the prerequisites as they are. -/
theorem World.Saves.satisfied_iff {ns : Namespace} {w w' : World} (h : Saves ns [] w w')
    {id : Identifier} : w'.Satisfied ns id ↔ w.Satisfied ns id := by
  unfold Satisfied
  rw [h.find?_of_notMem List.not_mem_nil]

/-! ## The query for records -/

/-- The query for identifiers picks the records of these identifiers and no others. -/
theorem Selector.idIn_accepts (ids : List Identifier) (r : CompletionRecord) :
    (Selector.idIn ids).accepts r.toDocument = .ok (decide (r.id ∈ ids)) := by
  have stored : Keyed.find? idField r.toDocument = some (.string r.id) := rfl
  have equal (id : Identifier) : fieldEquals (some (.string r.id)) (.string id) = (r.id == id) := by
    show (r.id == id || false) = _
    exact Bool.or_false _
  have one_equal : (ids.map Value.string).any (fieldEquals (some (.string r.id))) =
      decide (r.id ∈ ids) := by
    rw [List.any_map, Bool.eq_iff_iff, List.any_eq_true, decide_eq_true_eq]
    simp only [Function.comp_apply, equal, beq_iff_eq]
    exact ⟨fun ⟨_, mem, e⟩ => e ▸ mem, fun mem => ⟨_, mem, rfl⟩⟩
  have known : Operator.named? "$in" = some .isIn := rfl
  rw [idIn, accepts_operator known (by decide), stored]
  exact congrArg Except.ok one_equal

theorem Store.matchingRecords_idIn (ids : List Identifier) (rs : List CompletionRecord) :
    Store.matchingRecords (Selector.idIn ids) rs =
      .ok (rs.filter fun r => decide (r.id ∈ ids)) := by
  induction rs with
  | nil => rfl
  | cons r rs ih =>
    rw [Store.matchingRecords, Selector.idIn_accepts, ih, List.filter_cons]
    cases decide (r.id ∈ ids) <;> rfl

/-- A guarded call that succeeds has its effect at its end, and time may have passed. -/
theorem World.guard_ok {α : Type} {w w' : World} {call : Call α} {a : α}
    (h : w.guard call = (w', .ok a)) :
    ∃ t s, w' = { w with clock := t, store := s } ∧
      call.finish (call.start w.store) = (s, .ok a) := by
  rcases w.guard_cases call with ⟨t, e, failed, -⟩ | ⟨t, done⟩
  · rw [h] at failed
    cases failed
  · rw [h, Prod.mk.injEq] at done
    obtain ⟨rfl, answer⟩ := done
    exact ⟨t, _, rfl, Prod.ext rfl answer.symm⟩

theorem Store.handOut_ok {α : Type} {s s' : Store} {items : Except StoreFailure (List α)}
    {failsAfter : Option Nat} {latency : Nat} {c : Cursor α}
    (h : s.handOut items failsAfter latency = (s', .ok c)) :
    items = .ok c.items ∧ c.yielded = 0 ∧ c.failsAfter = failsAfter ∧ c.latency = latency ∧
      s' = { s with openCursors := s.openCursors + 1 } := by
  cases items with
  | error e => cases h
  | ok items =>
    cases h
    exact ⟨rfl, rfl, rfl, rfl, rfl⟩

theorem Store.underFaults_ok {α : Type} {f : Faults} {own : Option StoreFailure}
    {answer : Except StoreFailure α} {a : α} (h : underFaults f own answer = .ok a) :
    answer = .ok a := by
  unfold underFaults at h
  split at h
  · cases h
  split at h
  · cases h
  exact h

theorem Store.eq_ok_of_reported {α : Type} {r : Except SelectorError α} {a : α}
    (h : reported r = .ok a) : r = .ok a := by
  cases r with
  | error e => cases h
  | ok b => exact congrArg Except.ok (Except.ok.inj h)

/-! ## The records of the prerequisites -/

/-- The records of a book are in ascending order of their identifiers. -/
theorem RecordBook.ids_ascending (b : RecordBook) :
    (b.toList.map CompletionRecord.id).Pairwise (· < ·) := by
  have ids : b.toList.map CompletionRecord.id = b.entries.keys := by
    show (b.entries.toList.map Prod.snd).map CompletionRecord.id = b.entries.toList.map Prod.fst
    rw [List.map_map]
    exact List.map_congr_left fun p mem => b.filed (Keyed.find?_of_mem b.entries.ascending mem)
  rw [ids]
  exact b.entries.ascending

theorem RecordBook.ids_nodup (b : RecordBook) : (b.toList.map CompletionRecord.id).Nodup :=
  Keyed.nodup_of_ascending b.ids_ascending

/-- The records of a book that have one of some identifiers. -/
def RecordBook.among (b : RecordBook) (ids : List Identifier) : List CompletionRecord :=
  b.toList.filter fun r => decide (r.id ∈ ids)

namespace RecordBook

variable {b : RecordBook} {ids : List Identifier} {r : CompletionRecord}

theorem mem_among : r ∈ b.among ids ↔ b.find? r.id = some r ∧ r.id ∈ ids := by
  rw [among, List.mem_filter, mem_toList, decide_eq_true_eq]

theorem among_ids_subperm (b : RecordBook) (ids : List Identifier) :
    ((b.among ids).map CompletionRecord.id).Subperm ids := by
  refine List.Nodup.subperm (b.ids_nodup.sublist (List.filter_sublist.map _)) fun id mem => ?_
  obtain ⟨r, picked, rfl⟩ := List.mem_map.1 mem
  exact (mem_among.1 picked).2

/-- No identifier has two records. -/
theorem length_among_le (b : RecordBook) (ids : List Identifier) :
    (b.among ids).length ≤ ids.length := by
  have fewer := (b.among_ids_subperm ids).length_le
  rwa [List.length_map] at fewer

/-- Satisfied records, as many as there are identifiers, are one for each of them. -/
theorem find?_of_among (good : ∀ r ∈ b.among ids, r.satisfied = true)
    (enough : ids.length ≤ (b.among ids).length) {id : Identifier} (mem : id ∈ ids) :
    ∃ r, b.find? id = some r ∧ r.satisfied = true := by
  have every : ((b.among ids).map CompletionRecord.id).Perm ids := by
    refine (b.among_ids_subperm ids).perm_of_length_le ?_
    rwa [List.length_map]
  obtain ⟨r, picked, rfl⟩ := List.mem_map.1 (every.mem_iff.2 mem)
  exact ⟨r, (mem_among.1 picked).1, good r picked⟩

/-- If each of some different identifiers has a satisfied record, the records are satisfied, and
there are enough of them. -/
theorem among_of_find? (nodup : ids.Nodup)
    (all : ∀ id ∈ ids, ∃ r, b.find? id = some r ∧ r.satisfied = true) :
    (∀ r ∈ b.among ids, r.satisfied = true) ∧ ids.length ≤ (b.among ids).length := by
  constructor
  · intro r picked
    obtain ⟨stored, mem⟩ := mem_among.1 picked
    obtain ⟨r', stored', good⟩ := all r.id mem
    cases stored'.symm.trans stored
    exact good
  · have among : ids ⊆ (b.among ids).map CompletionRecord.id := by
      intro id mem
      obtain ⟨r, stored, -⟩ := all id mem
      obtain rfl : r.id = id := b.filed stored
      exact List.mem_map.2 ⟨r, mem_among.2 ⟨stored, mem⟩, rfl⟩
    have fewer := (nodup.subperm among).length_le
    rwa [List.length_map] at fewer

end RecordBook

/-- The cursor of a query for records goes over the records with one of the identifiers, each of
them once. -/
theorem World.findRecords_items {w w' : World} {metadata : Namespace} {ids : List Identifier}
    {c : Cursor CompletionRecord}
    (h : w.guard (w.store.findRecords metadata ids) = (w', .ok c)) :
    c.items = (w.store.recordsOf.get metadata).among ids ∧ c.yielded = 0 := by
  obtain ⟨t, s, -, answer⟩ := World.guard_ok h
  obtain ⟨items, yielded, -⟩ := Store.handOut_ok answer
  have found := Store.underFaults_ok items
  rw [Store.matchingRecords_idIn] at found
  exact ⟨(Except.ok.inj found).symm, yielded⟩

namespace Oracle

variable (ns : Namespace)

/-- A cursor read to its end without an unsatisfied record makes ready only if it went over as many
records as there are prerequisites. -/
theorem readRecords_ready {o : Oracle} {metadata : Namespace} {c : Cursor CompletionRecord}
    {items : List CompletionRecord} {satisfied : Nat} {w : World}
    (h : (o.readRecords metadata c items satisfied w).2 = some .ready) :
    (∀ r ∈ items, r.satisfied = true) ∧ o.edges.toList.length ≤ satisfied + items.length := by
  induction items generalizing satisfied w with
  | nil =>
    rw [readRecords] at h
    refine ⟨fun r mem => absurd mem List.not_mem_nil, ?_⟩
    split at h
    · cases h
    · cases h
    split at h
    · cases h
    dsimp only at h
    split at h
    · cases h
    · rename_i enough
      exact Nat.le_of_not_lt enough
  | cons r items ih =>
    rw [readRecords] at h
    split at h
    · cases h
    · cases h
    split at h
    · cases h
    dsimp only at h
    split at h
    · rename_i good
      obtain ⟨all, enough⟩ := ih h
      refine ⟨fun r' mem => ?_, ?_⟩
      · rcases List.mem_cons.1 mem with rfl | mem
        · exact good
        · exact all r' mem
      · rw [List.length_cons]
        omega
    · cases h

/-- To ask an oracle saves no record. -/
theorem state_saves (o : Oracle) (metadata : Namespace) (w : World) :
    World.Saves ns [] w (o.state metadata w).1 :=
  o.state_frame (World.saves_frame ns) metadata w

/-- The prerequisites make ready only if each of them has a satisfied record. -/
theorem prerequisites_ready {o : Oracle} {metadata : Namespace} {w : World}
    (h : (o.prerequisites metadata w).2 = some .ready) {id : Identifier} (edge : id ∈ o.edges) :
    w.Satisfied metadata id := by
  unfold prerequisites at h
  dsimp only at h
  split at h
  · cases h
  · cases h
  rename_i w' c found
  obtain ⟨items, yielded⟩ := World.findRecords_items found
  obtain ⟨good, enough⟩ := readRecords_ready h
  rw [items, yielded, Nat.zero_add] at enough
  obtain ⟨r, stored, satisfied⟩ := RecordBook.find?_of_among (items ▸ good) enough edge
  rw [← (w.saves_yield metadata).satisfied_iff]
  exact ⟨r, stored, satisfied⟩

/-- An oracle says that a task is ready only if every prerequisite has a satisfied record. -/
theorem state_ready {o : Oracle} {metadata : Namespace} {w : World}
    (h : (o.state metadata w).2 = some .ready) {id : Identifier} (edge : id ∈ o.edges) :
    w.Satisfied metadata id := by
  unfold state at h
  dsimp only at h
  have asked := (World.saves_frame metadata).guard (w.yield.store.count_asks o.namesp o.selector)
    (w := w.yield)
  generalize w.yield.guard _ = p at *
  split at h
  · cases h
  · cases h
  split at h
  · cases h
  split at h
  · rename_i none
    exact absurd (List.isEmpty_iff.1 none ▸ edge : id ∈ []) List.not_mem_nil
  · exact (asked.after (w.saves_yield metadata)).satisfied_iff.1 (prerequisites_ready h edge)

end Oracle

end GatedMigration
