import GatedMigration.Proofs.Condition
import GatedMigration.Proofs.Nearest

/-!
# Integers that a double confuses

An integer is compared with a double after it has been rounded to the nearest double. So a double is
the same as all the integers whose nearest double it is (`Value.int_sameAs_number_iff`). These are
more than one just if it denotes a multiple of four from 2⁵³ to 2⁶³ (`Value.Blurred`), and so it is
with the documents that a condition on the identifying value finds.

* `Value.integers_told_apart_iff`: which values, in a condition or by themselves, are the same as at
  most one integer.
* `Value.eq_of_sameAs_of_le`: up to 2⁵³ no two integers are confused.
-/

namespace GatedMigration

/-- Documents with different integers for their identifying values do not both match. -/
def Selector.SinglesOut (s : Selector) : Prop :=
  ∀ (d e : Document) (a b : Int64), Keyed.find? idField d = some (.int a) →
    Keyed.find? idField e = some (.int b) → s.accepts d = .ok true → s.accepts e = .ok true → a = b

/-- The selector of the documents whose identifying value equals a value. -/
def Selector.idEqual (v : Value) : Selector := ⟨[(idField, .map [("$eq", v)])]⟩

/-- The selector of the documents whose identifying value equals one of some values. -/
def Selector.idAmong (vs : List Value) : Selector := ⟨[(idField, .map [("$in", .array vs)])]⟩

namespace Selector

variable {d : Document} {a : Int64} {v : Value}

theorem accepts_idEqual (v : Value) (d : Document) :
    (idEqual v).accepts d = .ok (fieldEquals (Keyed.find? idField d) v) := by
  have known : Operator.named? "$eq" = some .equal := rfl
  exact accepts_operator known (by decide) v d

theorem accepts_idAmong (vs : List Value) (d : Document) :
    (idAmong vs).accepts d = .ok (vs.any (fieldEquals (Keyed.find? idField d))) := by
  have known : Operator.named? "$in" = some .isIn := rfl
  exact accepts_operator known (by decide) (.array vs) d

/-- A condition of membership finds what the conditions of equality with the candidates find. -/
theorem accepts_idAmong_iff {vs : List Value} :
    (idAmong vs).accepts d = .ok true ↔ ∃ v ∈ vs, (idEqual v).accepts d = .ok true := by
  simp only [accepts_idAmong, accepts_idEqual, Except.ok.injEq, List.any_eq_true]

theorem accepts_idEqual_iff (id : Keyed.find? idField d = some (.int a)) :
    (idEqual v).accepts d = .ok true ↔ (Value.int a).sameAs v = true := by
  have whole : fieldEquals (some (.int a)) v = (Value.int a).sameAs v := Bool.or_false _
  rw [accepts_idEqual, id, whole, Except.ok.injEq]

/-- A condition of equality finds one integer at most just if the value is the same as one at
most. -/
theorem singlesOut_idEqual_iff : (idEqual v).SinglesOut ↔
    ∀ a b : Int64, (Value.int a).sameAs v = true → (Value.int b).sameAs v = true → a = b := by
  constructor
  · intro single a b ha hb
    have stored (n : Int64) : Keyed.find? idField [(idField, .int n)] = some (Value.int n) := rfl
    exact single [(idField, .int a)] [(idField, .int b)] a b (stored a) (stored b)
      ((accepts_idEqual_iff (stored a)).2 ha) ((accepts_idEqual_iff (stored b)).2 hb)
  · intro single d e a b hd he accepted accepted'
    exact single a b ((accepts_idEqual_iff hd).1 accepted) ((accepts_idEqual_iff he).1 accepted')

theorem singlesOut_idAmong_iff : (idAmong [v]).SinglesOut ↔ (idEqual v).SinglesOut := by
  simp only [SinglesOut, accepts_idAmong_iff, List.mem_singleton, exists_eq_left]

end Selector

namespace Value

/-- A double that denotes a multiple of four, from 2⁵³ to 2⁶³ in absolute value. -/
def Blurred (v : Value) : Prop :=
  ∃ x n, v = .number x ∧ x.Denotes n ∧ 4 ∣ n ∧ 2 ^ 53 ≤ n.natAbs ∧ n.natAbs ≤ 2 ^ 63

theorem natAbs_toInt_le (n : Int64) : n.toInt.natAbs ≤ 2 ^ 63 := by
  have := n.le_toInt
  have := n.toInt_lt
  omega

theorem int_sameAs_number_iff {n : Int64} {x : Binary64} :
    (Value.int n).sameAs (.number x) = true ↔ x.Denotes (Binary64.roundedInt n.toInt) := by
  rw [← Binary64.compare?_ofInt_iff (natAbs_toInt_le n)]
  exact beq_iff_eq

/-- Besides doubles, an integer is the same as itself only. -/
theorem eq_of_int_sameAs {n : Int64} {v : Value} (same : (Value.int n).sameAs v = true) :
    v = .int n ∨ ∃ x, v = .number x := by
  cases v with
  | int m => exact Or.inl (congrArg Value.int (eq_of_beq (α := Int64) same).symm)
  | number x => exact Or.inr ⟨x, rfl⟩
  | _ => cases same

/-- Two integers that one value is the same as are equal, or it is the double nearest to both. -/
theorem eq_or_roundedInt_eq {a b : Int64} {v : Value} (ha : (Value.int a).sameAs v = true)
    (hb : (Value.int b).sameAs v = true) :
    a = b ∨ ∃ x, v = .number x ∧ x.Denotes (Binary64.roundedInt a.toInt) ∧
      Binary64.roundedInt a.toInt = Binary64.roundedInt b.toInt := by
  obtain rfl | ⟨x, rfl⟩ := eq_of_int_sameAs ha
  · obtain same | ⟨x, number⟩ := eq_of_int_sameAs hb
    · exact Or.inl (Value.int.inj same)
    · cases number
  · have denotes := int_sameAs_number_iff.1 ha
    exact Or.inr ⟨x, rfl, denotes, denotes.unique (int_sameAs_number_iff.1 hb)⟩

theorem blurred_of_sameAs {a b : Int64} {v : Value} (ha : (Value.int a).sameAs v = true)
    (hb : (Value.int b).sameAs v = true) (differ : a ≠ b) : v.Blurred := by
  obtain same | ⟨x, rfl, denotes, one⟩ := eq_or_roundedInt_eq ha hb
  · exact absurd same differ
  · obtain ⟨four, large⟩ := Binary64.roundedInt_confused one (mt Int64.toInt_inj.1 differ)
    exact ⟨x, _, rfl, denotes, four, large, Binary64.natAbs_roundedInt_le (natAbs_toInt_le a)⟩

theorem Blurred.exists_sameAs {v : Value} (blurred : v.Blurred) :
    ∃ a b : Int64, a ≠ b ∧ (Value.int a).sameAs v = true ∧ (Value.int b).sameAs v = true := by
  obtain ⟨x, n, rfl, denotes, four, large, bound⟩ := blurred
  obtain ⟨a, b, differ, ha, hb⟩ := denotes.exists_roundedInt four large bound
  exact ⟨a, b, differ, int_sameAs_number_iff.2 (ha ▸ denotes),
    int_sameAs_number_iff.2 (hb ▸ denotes)⟩

/-- Integers up to 2⁵³ in absolute value are told apart by every value. -/
theorem eq_of_sameAs_of_le {a b : Int64} {v : Value} (ha : (Value.int a).sameAs v = true)
    (hb : (Value.int b).sameAs v = true) (small : a.toInt.natAbs ≤ 2 ^ 53)
    (small' : b.toInt.natAbs ≤ 2 ^ 53) : a = b := by
  obtain same | ⟨x, rfl, denotes, one⟩ := eq_or_roundedInt_eq ha hb
  · exact same
  · rw [Binary64.roundedInt_of_le small, Binary64.roundedInt_of_le small'] at one
    exact Int64.toInt_inj.1 one

/-- A value is the same as at most one integer, and a condition of equality with it finds at most
one, just if it is no double that denotes a multiple of four from 2⁵³ to 2⁶³. -/
theorem integers_told_apart_iff (v : Value) :
    ((∀ a b : Int64, (Value.int a).sameAs v = true → (Value.int b).sameAs v = true → a = b) ↔
      ¬v.Blurred) ∧
    ((Selector.idEqual v).SinglesOut ↔ ¬v.Blurred) ∧
    ((Selector.idAmong [v]).SinglesOut ↔ ¬v.Blurred) := by
  have told_apart : (∀ a b : Int64, (Value.int a).sameAs v = true →
      (Value.int b).sameAs v = true → a = b) ↔ ¬v.Blurred := by
    constructor
    · intro single blurred
      obtain ⟨a, b, differ, ha, hb⟩ := blurred.exists_sameAs
      exact differ (single a b ha hb)
    · intro sharp a b ha hb
      by_contra differ
      exact sharp (blurred_of_sameAs ha hb differ)
  rw [Selector.singlesOut_idAmong_iff, Selector.singlesOut_idEqual_iff]
  exact ⟨told_apart, told_apart, told_apart⟩

end Value

/-- The double 2⁵³. -/
def Sample.twoPow53 : Binary64 := ⟨0x4340000000000000⟩

namespace Value

/-- The double 2⁵³ is the same as 2⁵³ and as the integer after it, and the conditions of equality
with it find both. -/
theorem successor_confused :
    (9007199254740992 : Int64) ≠ 9007199254740993 ∧
    (Value.int 9007199254740992).sameAs (.number Sample.twoPow53) = true ∧
    (Value.int 9007199254740993).sameAs (.number Sample.twoPow53) = true ∧
    (Selector.idEqual (.number Sample.twoPow53)).accepts [("_id", .int 9007199254740992)] =
      .ok true ∧
    (Selector.idEqual (.number Sample.twoPow53)).accepts [("_id", .int 9007199254740993)] =
      .ok true ∧
    (Selector.idAmong [.number Sample.twoPow53]).accepts [("_id", .int 9007199254740992)] =
      .ok true ∧
    (Selector.idAmong [.number Sample.twoPow53]).accepts [("_id", .int 9007199254740993)] =
      .ok true := by
  have stored (n : Int64) : Keyed.find? idField [("_id", .int n)] = some (Value.int n) := rfl
  have first : (Value.int 9007199254740992).sameAs (.number Sample.twoPow53) = true := by decide
  have second : (Value.int 9007199254740993).sameAs (.number Sample.twoPow53) = true := by decide
  simp only [Selector.accepts_idAmong_iff, List.mem_singleton, exists_eq_left,
    Selector.accepts_idEqual_iff (stored _)]
  exact ⟨by decide, first, second, first, second, first, second⟩

end Value

end GatedMigration
