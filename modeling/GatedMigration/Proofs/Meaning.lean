import GatedMigration.Proofs.Condition
import Mathlib.Data.List.Basic

/-!
# What selectors mean

The meaning of a selector is given without evaluating it: all entries hold, which is every clause of
`$and`, some clause of `$or`, and each condition on a field (`Selector.Holds`). Evaluation goes
through the parts in turn and leaves out those that can make no difference. It fails just if it gets
to a part that makes no sense (`Selector.Stumbles`), and otherwise gives the answer that is meant
(`Selector.meetsEntries_answers`). In a well-formed selector there is no such part, so that
evaluation always gives the answer that is meant (`Selector.accepts_meaning`).
-/

namespace GatedMigration

/-! ## Selectors -/

/-- A list of maps is a list of selectors. -/
theorem Value.all_isMap_iff {items : List Value} :
    items.all isMap = true ↔
      ∃ clauses : List (List (String × Value)), items = clauses.map .map := by
  induction items with
  | nil => exact ⟨fun _ => ⟨[], rfl⟩, fun _ => rfl⟩
  | cons item items ih =>
    rw [List.all_cons, Bool.and_eq_true, ih]
    constructor
    · rintro ⟨map, clauses, rfl⟩
      cases item with
      | map entries => exact ⟨entries :: clauses, rfl⟩
      | _ => cases map
    · rintro ⟨clauses, h⟩
      cases clauses with
      | nil => cases h
      | cons entries clauses =>
        obtain ⟨rfl, rest⟩ := List.cons.inj h
        exact ⟨rfl, clauses, rest⟩

theorem Value.array_map_inj {clauses clauses' : List (List (String × Value))}
    (h : Value.array (clauses.map .map) = .array (clauses'.map .map)) : clauses = clauses' :=
  List.map_injective_iff.2 (fun _ _ => Value.map.inj) (Value.array.inj h)

namespace Selector

variable {d : Document} {key : String} {condition : Value} {entries : List (String × Value)}
  {clauses : List (List (String × Value))}

mutual

/-- Every entry makes sense. -/
inductive WellFormed : List (String × Value) → Prop
  | intro {entries : List (String × Value)} : (∀ e ∈ entries, EntryWellFormed e.1 e.2) →
    WellFormed entries

/-- An entry makes sense: it is a combinator over a list of well-formed selectors, or a condition on
a field, whose operators make sense. -/
inductive EntryWellFormed : String → Value → Prop
  | combinator {key : String} {clauses : List (List (String × Value))} {condition : Value} :
    key = "$and" ∨ key = "$or" → condition = .array (clauses.map .map) →
    (∀ entries ∈ clauses, WellFormed entries) → EntryWellFormed key condition
  | field {path : String} {condition : Value} : isOperatorName path = false →
    Condition.Fits condition → EntryWellFormed path condition

end

mutual

/-- A document meets all entries. -/
inductive Holds (d : Document) : List (String × Value) → Prop
  | intro {entries : List (String × Value)} : (∀ e ∈ entries, EntryHolds d e.1 e.2) →
    Holds d entries

/-- A document meets an entry: all clauses of `$and`, one clause of `$or`, or the condition on the
field at a path. -/
inductive EntryHolds (d : Document) : String → Value → Prop
  | and {key : String} {clauses : List (List (String × Value))} {condition : Value} :
    key = "$and" → condition = .array (clauses.map .map) → (∀ entries ∈ clauses, Holds d entries) →
    EntryHolds d key condition
  | or {key : String} {clauses : List (List (String × Value))} {condition : Value}
    {entries : List (String × Value)} :
    key = "$or" → condition = .array (clauses.map .map) → entries ∈ clauses → Holds d entries →
    EntryHolds d key condition
  | field {path : String} {field : Option Value} {condition : Value} :
    isOperatorName path = false → d.FieldAt path field → Condition.Holds field condition →
    EntryHolds d path condition

end

mutual

/-- Evaluation of entries gets to one that it stumbles over: the document meets those before it. -/
inductive Stumbles (d : Document) : List (String × Value) → Prop
  | intro {entries : List (String × Value)} :
    Reached (fun e => EntryHolds d e.1 e.2) (fun e => EntryStumbles d e.1 e.2) entries →
    Stumbles d entries

/-- Evaluation stumbles over an entry: it is no combinator and no condition on a field, or a
combinator over something else than a list of selectors, or evaluation gets to a clause that it
stumbles over or to an operator that does not make sense. -/
inductive EntryStumbles (d : Document) : String → Value → Prop
  | unsupported {key : String} {condition : Value} : isOperatorName key = true → key ≠ "$and" →
    key ≠ "$or" → EntryStumbles d key condition
  | noSelectors {key : String} {condition : Value} : key = "$and" ∨ key = "$or" →
    (∀ clauses : List (List (String × Value)), condition ≠ .array (clauses.map .map)) →
    EntryStumbles d key condition
  | and {key : String} {clauses : List (List (String × Value))} {condition : Value} :
    key = "$and" → condition = .array (clauses.map .map) →
    Reached (fun entries => Holds d entries) (fun entries => Stumbles d entries) clauses →
    EntryStumbles d key condition
  | or {key : String} {clauses : List (List (String × Value))} {condition : Value} :
    key = "$or" → condition = .array (clauses.map .map) →
    Reached (fun entries => ¬Holds d entries) (fun entries => Stumbles d entries) clauses →
    EntryStumbles d key condition
  | field {path : String} {field : Option Value} {condition : Value} :
    isOperatorName path = false → d.FieldAt path field → Condition.Stumbles field condition →
    EntryStumbles d path condition

end

/-! ## Entries by their keys -/

theorem isOperatorName_of_combinator (combinator : key = "$and" ∨ key = "$or") :
    isOperatorName key = true := by
  rcases combinator with rfl | rfl <;> decide

theorem holds_iff : Holds d entries ↔ ∀ e ∈ entries, EntryHolds d e.1 e.2 :=
  ⟨fun ⟨h⟩ => h, .intro⟩

theorem stumbles_iff : Stumbles d entries ↔
    Reached (fun e => EntryHolds d e.1 e.2) (fun e => EntryStumbles d e.1 e.2) entries :=
  ⟨fun ⟨h⟩ => h, .intro⟩

theorem entryHolds_and_iff : EntryHolds d "$and" (.array (clauses.map .map)) ↔
    ∀ entries ∈ clauses, Holds d entries := by
  constructor
  · rintro (⟨-, list, h⟩ | ⟨other, -, -, -⟩ | ⟨name, -, -⟩)
    · exact Value.array_map_inj list ▸ h
    · exact absurd other (by decide)
    · exact absurd name (by decide)
  · exact .and rfl rfl

theorem entryHolds_or_iff : EntryHolds d "$or" (.array (clauses.map .map)) ↔
    ∃ entries ∈ clauses, Holds d entries := by
  constructor
  · rintro (⟨other, -, -⟩ | ⟨-, list, mem, h⟩ | ⟨name, -, -⟩)
    · exact absurd other (by decide)
    · exact ⟨_, Value.array_map_inj list ▸ mem, h⟩
    · exact absurd name (by decide)
  · rintro ⟨entries, mem, h⟩
    exact .or rfl rfl mem h

theorem entryHolds_field_iff (field : isOperatorName key = false) :
    EntryHolds d key condition ↔ Condition.Holds (Document.lookup d key) condition := by
  constructor
  · rintro (⟨rfl, -, -⟩ | ⟨rfl, -, -, -⟩ | ⟨-, found, h⟩)
    · exact absurd field (by decide)
    · exact absurd field (by decide)
    · exact Document.fieldAt_iff.1 found ▸ h
  · exact .field field (Document.fieldAt_iff.2 rfl)

theorem entryStumbles_and_iff : EntryStumbles d "$and" (.array (clauses.map .map)) ↔
    Reached (fun entries => Holds d entries) (fun entries => Stumbles d entries) clauses := by
  constructor
  · rintro (⟨-, other, -⟩ | ⟨-, none⟩ | ⟨-, list, h⟩ | ⟨other, -, -⟩ | ⟨name, -, -⟩)
    · exact absurd rfl other
    · exact absurd rfl (none clauses)
    · exact Value.array_map_inj list ▸ h
    · exact absurd other (by decide)
    · exact absurd name (by decide)
  · exact .and rfl rfl

theorem entryStumbles_or_iff : EntryStumbles d "$or" (.array (clauses.map .map)) ↔
    Reached (fun entries => ¬Holds d entries) (fun entries => Stumbles d entries) clauses := by
  constructor
  · rintro (⟨-, -, other⟩ | ⟨-, none⟩ | ⟨other, -, -⟩ | ⟨-, list, h⟩ | ⟨name, -, -⟩)
    · exact absurd rfl other
    · exact absurd rfl (none clauses)
    · exact absurd other (by decide)
    · exact Value.array_map_inj list ▸ h
    · exact absurd name (by decide)
  · exact .or rfl rfl

theorem entryStumbles_field_iff (field : isOperatorName key = false) :
    EntryStumbles d key condition ↔
      Condition.Stumbles (Document.lookup d key) condition := by
  constructor
  · rintro (⟨name, -, -⟩ | ⟨comb, -⟩ | ⟨rfl, -, -⟩ | ⟨rfl, -, -⟩ | ⟨-, found, h⟩)
    · exact Bool.noConfusion (field.symm.trans name)
    · exact Bool.noConfusion (field.symm.trans (isOperatorName_of_combinator comb))
    · exact absurd field (by decide)
    · exact absurd field (by decide)
    · exact Document.fieldAt_iff.1 found ▸ h
  · exact .field field (Document.fieldAt_iff.2 rfl)

/-! ## Evaluation -/

theorem meetsEntry_and :
    meetsEntry d "$and" (.array (clauses.map .map)) = meetsAll d (clauses.map .map) := by
  unfold meetsEntry
  rw [if_pos (Or.inl rfl)]
  dsimp only
  rw [if_pos (Value.all_isMap_iff.2 ⟨clauses, rfl⟩), if_pos rfl]

theorem meetsEntry_or :
    meetsEntry d "$or" (.array (clauses.map .map)) = meetsAny d (clauses.map .map) := by
  unfold meetsEntry
  rw [if_pos (Or.inr rfl)]
  dsimp only
  rw [if_pos (Value.all_isMap_iff.2 ⟨clauses, rfl⟩), if_neg (by decide)]

theorem meetsEntry_noSelectors (d : Document) (combinator : key = "$and" ∨ key = "$or")
    (none : ∀ clauses : List (List (String × Value)), condition ≠ .array (clauses.map .map)) :
    ∃ e, meetsEntry d key condition = .error e := by
  unfold meetsEntry
  rw [if_pos combinator]
  split
  · rename_i items
    refine ⟨.clauseNoSelector key, if_neg fun maps => ?_⟩
    obtain ⟨clauses, rfl⟩ := Value.all_isMap_iff.1 maps
    exact none clauses rfl
  · exact ⟨_, rfl⟩

theorem meetsEntry_unsupported (name : isOperatorName key = true)
    (other : ¬(key = "$and" ∨ key = "$or")) :
    meetsEntry d key condition = .error (.unsupportedOperator key) := by
  unfold meetsEntry
  rw [if_neg other, if_pos name]

theorem meetsEntry_field (field : isOperatorName key = false) :
    meetsEntry d key condition = fieldMeets (Document.lookup d key) condition := by
  have other : ¬(key = "$and" ∨ key = "$or") := fun h =>
    Bool.noConfusion (field.symm.trans (isOperatorName_of_combinator h))
  unfold meetsEntry
  rw [if_neg other, if_neg (Bool.eq_false_iff.1 field)]

theorem meetsEntries_cons (e : String × Value) (rest : List (String × Value)) :
    meetsEntries d (e :: rest) = conjoin (meetsEntry d e.1 e.2) (meetsEntries d rest) := by
  rw [meetsEntries]
  unfold conjoin
  split <;> simp_all

theorem meetsAll_cons : meetsAll d ((entries :: clauses).map .map) =
    conjoin (meetsEntries d entries) (meetsAll d (clauses.map .map)) := by
  rw [List.map_cons, meetsAll]
  unfold conjoin
  split <;> simp_all

theorem meetsAny_cons : meetsAny d ((entries :: clauses).map .map) =
    disjoin (meetsEntries d entries) (meetsAny d (clauses.map .map)) := by
  rw [List.map_cons, meetsAny]
  unfold disjoin
  split <;> simp_all

theorem meetsEntries_answers_of_each (each : ∀ e ∈ entries,
    Answers (meetsEntry d e.1 e.2) (EntryHolds d e.1 e.2) (EntryStumbles d e.1 e.2)) :
    Answers (meetsEntries d entries) (Holds d entries) (Stumbles d entries) := by
  rw [holds_iff, stumbles_iff]
  induction entries with
  | nil => exact .ok (by simp [Reached.nil_iff]) (by simp)
  | cons e rest ih =>
    obtain ⟨first, others⟩ := List.forall_mem_cons.1 each
    rw [meetsEntries_cons, List.forall_mem_cons, Reached.cons_iff]
    exact first.and (ih others)

theorem meetsAll_answers (each : ∀ entries ∈ clauses,
    Answers (meetsEntries d entries) (Holds d entries) (Stumbles d entries)) :
    Answers (meetsAll d (clauses.map .map)) (∀ entries ∈ clauses, Holds d entries)
      (Reached (fun entries => Holds d entries) (fun entries => Stumbles d entries) clauses) := by
  induction clauses with
  | nil => exact .ok (by simp [Reached.nil_iff]) (by simp)
  | cons entries clauses ih =>
    obtain ⟨first, others⟩ := List.forall_mem_cons.1 each
    rw [meetsAll_cons, List.forall_mem_cons, Reached.cons_iff]
    exact first.and (ih others)

theorem meetsAny_answers (each : ∀ entries ∈ clauses,
    Answers (meetsEntries d entries) (Holds d entries) (Stumbles d entries)) :
    Answers (meetsAny d (clauses.map .map)) (∃ entries ∈ clauses, Holds d entries)
      (Reached (fun entries => ¬Holds d entries) (fun entries => Stumbles d entries) clauses) := by
  induction clauses with
  | nil => exact .ok (by simp [Reached.nil_iff]) (by simp)
  | cons entries clauses ih =>
    obtain ⟨first, others⟩ := List.forall_mem_cons.1 each
    rw [meetsAny_cons, List.exists_mem_cons_iff, Reached.cons_iff]
    exact first.or (ih others)

theorem sizeOf_condition_lt {e : String × Value} (mem : e ∈ entries) :
    sizeOf e.2 < sizeOf entries := by
  have smaller := List.sizeOf_lt_of_mem mem
  have pair : sizeOf e = 1 + sizeOf e.1 + sizeOf e.2 := rfl
  omega

theorem sizeOf_clause_lt (mem : entries ∈ clauses) :
    sizeOf entries < sizeOf (Value.array (clauses.map .map)) := by
  have clause : Value.map entries ∈ clauses.map .map := List.mem_map_of_mem mem
  have smaller := List.sizeOf_lt_of_mem clause
  rw [Value.map.sizeOf_spec] at smaller
  rw [Value.array.sizeOf_spec]
  omega

mutual

/-- Evaluation fails just if it stumbles; otherwise it gives an answer, which is whether the
document meets the entries. -/
theorem meetsEntries_answers (d : Document) (entries : List (String × Value)) :
    Answers (meetsEntries d entries) (Holds d entries) (Stumbles d entries) :=
  meetsEntries_answers_of_each fun e mem =>
    have _smaller := sizeOf_condition_lt mem
    meetsEntry_answers d e.1 e.2
termination_by sizeOf entries
decreasing_by exact _smaller

theorem meetsEntry_answers (d : Document) (key : String) (condition : Value) :
    Answers (meetsEntry d key condition) (EntryHolds d key condition)
      (EntryStumbles d key condition) := by
  cases name : isOperatorName key with
  | false =>
    rw [meetsEntry_field name, entryHolds_field_iff name, entryStumbles_field_iff name]
    exact Condition.fieldMeets_answers _ _
  | true =>
    by_cases combinator : key = "$and" ∨ key = "$or"
    · by_cases list :
          ∃ clauses : List (List (String × Value)), condition = .array (clauses.map .map)
      · obtain ⟨clauses, list⟩ := list
        have each (entries : List (String × Value)) (mem : entries ∈ clauses) :
            Answers (meetsEntries d entries) (Holds d entries) (Stumbles d entries) :=
          have smaller : sizeOf entries < sizeOf condition := list ▸ sizeOf_clause_lt mem
          meetsEntries_answers d entries
        rcases combinator with rfl | rfl
        · rw [list, meetsEntry_and, entryHolds_and_iff, entryStumbles_and_iff]
          exact meetsAll_answers each
        · rw [list, meetsEntry_or, entryHolds_or_iff, entryStumbles_or_iff]
          exact meetsAny_answers each
      · have none := not_exists.1 list
        obtain ⟨e, failed⟩ := meetsEntry_noSelectors d combinator none
        rw [failed]
        exact EntryStumbles.noSelectors combinator none
    · obtain ⟨no_and, no_or⟩ := not_or.1 combinator
      rw [meetsEntry_unsupported name combinator]
      exact EntryStumbles.unsupported name no_and no_or
termination_by sizeOf condition
decreasing_by exact smaller

end

mutual

/-- Nothing in a well-formed selector is stumbled over. -/
theorem not_stumbles (d : Document) {entries : List (String × Value)} :
    WellFormed entries → ¬Stumbles d entries
  | .intro each, .intro reached => by
    obtain ⟨e, mem, bad⟩ := reached.exists_bad
    exact not_entryStumbles d (each e mem) bad

theorem not_entryStumbles (d : Document) {key : String} {condition : Value} :
    EntryWellFormed key condition → ¬EntryStumbles d key condition
  | .combinator combinator list each, stumbles => by
    -- Whichever combinator it is, evaluation gets to a clause that it stumbles over.
    have sound {past : List (String × Value) → Prop} {clauses' : List (List (String × Value))}
        (list' : condition = .array (clauses'.map .map)) :
        ¬Reached past (fun entries => Stumbles d entries) clauses' := by
      intro reached
      obtain ⟨entries, mem, bad⟩ := reached.exists_bad
      exact not_stumbles d (each entries (Value.array_map_inj (list'.symm.trans list) ▸ mem)) bad
    rcases stumbles with
      ⟨-, no_and, no_or⟩ | ⟨-, none⟩ | ⟨-, list', h⟩ | ⟨-, list', h⟩ | ⟨name, -, -⟩
    · exact combinator.elim no_and no_or
    · exact none _ list
    · exact sound list' h
    · exact sound list' h
    · exact Bool.noConfusion (name.symm.trans (isOperatorName_of_combinator combinator))
  | .field name fits, stumbles =>
    Condition.not_stumbles fits ((entryStumbles_field_iff name).1 stumbles)

end

/-- Evaluating a well-formed selector on a document gives an answer, and it is whether the document
meets the selector. -/
theorem accepts_meaning {s : Selector} (wf : WellFormed s.entries) (d : Document) :
    ∃ b, s.accepts d = .ok b ∧ (b = true ↔ Holds d s.entries) :=
  (meetsEntries_answers d s.entries).exists_ok (not_stumbles d wf)

/-- The open orders that are large or belong to a customer. -/
def openOrders : Selector := ⟨[
  ("$or", .array [
    .map [("total", .map [("$gt", .int 100)])],
    .map [("customer.name", .map [("$in", .array [.string "Ann", .string "Bob"])]),
      ("note", .null)]]),
  ("states", .string "open")]⟩

/-- A small open order of a customer. -/
def smallOrder : Document := [
  ("customer", .map [("name", .string "Bob")]),
  ("states", .array [.string "new", .string "open"]),
  ("total", .int 7)]

theorem openOrders_wellFormed : WellFormed openOrders.entries := by
  have large : WellFormed [("total", .map [("$gt", .int 100)])] := by
    refine .intro (List.forall_mem_singleton.2 (.field (by decide) ?_))
    exact Condition.fits_of_operators rfl
      (List.forall_mem_singleton.2 ⟨.greater, by decide, trivial⟩)
  have named : WellFormed [
      ("customer.name", .map [("$in", .array [.string "Ann", .string "Bob"])]),
      ("note", .null)] := by
    refine .intro (List.forall_mem_cons.2 ⟨.field (by decide) ?_, List.forall_mem_singleton.2
      (.field (by decide) (Condition.fits_of_value rfl))⟩)
    exact Condition.fits_of_operators rfl
      (List.forall_mem_singleton.2 ⟨.isIn, by decide, ⟨_, rfl⟩⟩)
  have clauses := List.forall_mem_cons.2 ⟨large, List.forall_mem_singleton.2 named⟩
  exact .intro (List.forall_mem_cons.2 ⟨.combinator (Or.inr rfl) rfl clauses,
    List.forall_mem_singleton.2 (.field (by decide) (Condition.fits_of_value rfl))⟩)

/-- The small open order of a customer is found, and it is meant. -/
theorem openOrders_accepts_smallOrder : WellFormed openOrders.entries ∧
    openOrders.accepts smallOrder = .ok true ∧ Holds smallOrder openOrders.entries := by
  have found : openOrders.accepts smallOrder = .ok true := rfl
  obtain ⟨b, answer, meaning⟩ := accepts_meaning openOrders_wellFormed smallOrder
  obtain rfl := Except.ok.inj (answer.symm.trans found)
  exact ⟨openOrders_wellFormed, found, meaning.1 rfl⟩

end Selector

end GatedMigration
