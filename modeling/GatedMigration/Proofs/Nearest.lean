import GatedMigration.Number.Binary64
import Mathlib.Algebra.Order.Field.Power
import Mathlib.Algebra.Order.Field.Rat
import Mathlib.Tactic.Ring

/-!
# Doubles nearest to integers

A double denotes an integer if it is finite and its value is that integer (`Binary64.Denotes`). To
compare values without fractions they are counted in units of the least positive double. So many
units as a magnitude stands for (`Binary64.units`) grow with the magnitude, so that equal doubles
are those that denote the same. The double nearest to an integer denotes the integer rounded to a
multiple of the spacing of doubles around it (`Binary64.compare?_ofInt_iff`).

Rounding leaves a natural number as it is, or gives a multiple of four from 2⁵³ on
(`Binary64.rounded_eq_or`): where doubles lie two apart, the odd numbers are ties. So two numbers
are rounded to one only there (`Binary64.rounded_confused`), and there every double has two such
numbers (`Binary64.rounded_succ`).
-/

namespace GatedMigration

/-! ## Rounding naturals -/

theorem div_le_roundHalfEven (num den : Nat) : num / den ≤ roundHalfEven num den := by
  unfold roundHalfEven
  dsimp only
  split
  · exact Nat.le_refl _
  · split
    · exact Nat.le_succ _
    · exact Nat.le_add_right _ _

theorem roundHalfEven_le (num den : Nat) : roundHalfEven num den ≤ num / den + 1 := by
  unfold roundHalfEven
  dsimp only
  split
  · exact Nat.le_succ _
  · split
    · exact Nat.le_refl _
    · have := Nat.mod_lt (num / den) Nat.two_pos
      omega

/-- What is left over less than half of the denominator is dropped. -/
theorem roundHalfEven_mul_add {den rest : Nat} (small : 2 * rest < den) (q : Nat) :
    roundHalfEven (q * den + rest) den = q := by
  have below : rest < den := by omega
  have quotient : (q * den + rest) / den = q := by
    rw [Nat.add_comm, Nat.add_mul_div_right _ _ (by omega), Nat.div_eq_of_lt below, Nat.zero_add]
  have remainder : (q * den + rest) % den = rest := by
    rw [Nat.add_comm, Nat.add_mul_mod_self_right, Nat.mod_eq_of_lt below]
  rw [roundHalfEven, quotient, remainder, if_pos small]

theorem roundHalfEven_mul {den : Nat} (pos : 0 < den) (q : Nat) :
    roundHalfEven (q * den) den = q := by
  have nothing : 2 * 0 < den := pos
  exact roundHalfEven_mul_add nothing q

theorem roundHalfEven_one (n : Nat) : roundHalfEven n 1 = n := by
  simpa using roundHalfEven_mul Nat.one_pos n

/-- An odd number is halfway between two even ones. -/
theorem roundHalfEven_tie (q : Nat) : roundHalfEven (q * 2 + 1) 2 = q + q % 2 := by
  have quotient : (q * 2 + 1) / 2 = q := by omega
  have remainder : (q * 2 + 1) % 2 = 1 := by omega
  simp [roundHalfEven, quotient, remainder]

namespace Binary64

/-- How far apart doubles lie around a natural number, but at least one. -/
def spacing (n : Nat) : Nat := 2 ^ (n.log2 - 52)

/-- A natural number rounded to a multiple of the spacing of doubles. -/
def rounded (n : Nat) : Nat := roundHalfEven n (spacing n) * spacing n

/-- The significand of the double nearest to a natural number. -/
def significand (n : Nat) : Nat := roundHalfEven (n * 2 ^ (52 - n.log2)) (spacing n)

/-- A power of two between two precisions, scaled up or down. -/
theorem two_pow_mul_two_pow_sub (precision binade : Nat) :
    2 ^ precision * 2 ^ (binade - precision) = 2 ^ binade * 2 ^ (precision - binade) := by
  rw [← Nat.pow_add, ← Nat.pow_add]
  congr 1
  omega

theorem spacing_pos (n : Nat) : 0 < spacing n := Nat.two_pow_pos _

theorem spacing_eq {n binade : Nat} (low : 2 ^ 52 * 2 ^ binade ≤ n)
    (high : n < 2 ^ 53 * 2 ^ binade) : spacing n = 2 ^ binade := by
  have pos := Nat.two_pow_pos binade
  have log : n.log2 = 52 + binade := by
    refine (Nat.log2_eq_iff (by omega)).2 ⟨?_, ?_⟩
    · rwa [Nat.pow_add]
    · rwa [show 52 + binade + 1 = 53 + binade by omega, Nat.pow_add]
  rw [spacing, log, Nat.add_sub_cancel_left]

theorem spacing_of_log2_le {n : Nat} (small : n.log2 ≤ 52) : spacing n = 1 := by
  rw [spacing, Nat.sub_eq_zero_of_le small, Nat.pow_zero]

theorem le_significand {n : Nat} (nonzero : n ≠ 0) : 2 ^ 52 ≤ significand n := by
  refine Nat.le_trans ?_ (div_le_roundHalfEven _ _)
  rw [Nat.le_div_iff_mul_le (spacing_pos n)]
  rw [spacing, two_pow_mul_two_pow_sub]
  exact Nat.mul_le_mul_right _ (Nat.log2_self_le nonzero)

theorem significand_le (n : Nat) : significand n ≤ 2 ^ 53 := by
  refine (roundHalfEven_le _ _).trans ?_
  refine Nat.succ_le_of_lt ((Nat.div_lt_iff_lt_mul (spacing_pos n)).2 ?_)
  calc n * 2 ^ (52 - n.log2) < 2 ^ (n.log2 + 1) * 2 ^ (52 - n.log2) :=
        Nat.mul_lt_mul_of_pos_right Nat.lt_log2_self (Nat.two_pow_pos _)
    _ = 2 ^ n.log2 * 2 ^ (52 - n.log2) * 2 := by rw [Nat.pow_succ, Nat.mul_right_comm]
    _ = 2 ^ 52 * spacing n * 2 := by rw [← two_pow_mul_two_pow_sub, spacing]
    _ = 2 ^ 53 * spacing n := Nat.mul_right_comm _ _ _

/-- The significand, which has 53 bits, stands for the rounded number. -/
theorem significand_mul (n : Nat) : significand n * 2 ^ n.log2 = rounded n * 2 ^ 52 := by
  obtain small | large := Nat.lt_or_ge n.log2 52
  · rw [significand, rounded, spacing_of_log2_le small.le, roundHalfEven_one, roundHalfEven_one,
      Nat.mul_one, Nat.mul_assoc, ← Nat.pow_add, Nat.sub_add_cancel small.le]
  · rw [significand, rounded, Nat.sub_eq_zero_of_le large, Nat.pow_zero, Nat.mul_one, Nat.mul_assoc,
      spacing, ← Nat.pow_add, Nat.sub_add_cancel large]

/-! ## Numbers that are rounded to one -/

/-- Below 2⁵³ every natural number is a double. -/
theorem rounded_of_lt {n : Nat} (small : n < 2 ^ 53) : rounded n = n := by
  have one : spacing n = 1 := by
    obtain rfl | pos := Nat.eq_zero_or_pos n
    · rfl
    · exact spacing_of_log2_le (Nat.le_of_lt_succ ((Nat.log2_lt pos.ne').2 small))
  rw [rounded, one, roundHalfEven_one, Nat.mul_one]

/-- A multiple of the spacing is a double. -/
theorem rounded_of_significand {m : Nat} (low : 2 ^ 52 ≤ m) (high : m < 2 ^ 53) (binade : Nat) :
    rounded (m * 2 ^ binade) = m * 2 ^ binade := by
  have pos := Nat.two_pow_pos binade
  rw [rounded, spacing_eq (Nat.mul_le_mul_right _ low) (Nat.mul_lt_mul_of_pos_right high pos),
    roundHalfEven_mul pos]

/-- Rounding leaves a number as it is, or gives a multiple of four from 2⁵³ on. -/
theorem rounded_eq_or (n : Nat) : rounded n = n ∨ 4 ∣ rounded n ∧ 2 ^ 53 ≤ rounded n := by
  obtain small | large := Nat.lt_or_ge n (2 ^ 53)
  · exact Or.inl (rounded_of_lt small)
  have log : 53 ≤ n.log2 := (Nat.le_log2 (by omega)).2 large
  have bound : 2 ^ 53 ≤ rounded n := by
    have full := le_significand (show n ≠ 0 by omega)
    have := Nat.mul_le_mul full (Nat.pow_le_pow_right Nat.two_pos log)
    rw [significand_mul] at this
    omega
  obtain least | wider := Nat.eq_or_lt_of_le log
  · -- doubles lie two apart: an even number is one of them, and an odd one is a tie
    have two : spacing n = 2 := by rw [spacing, ← least]; rfl
    rw [rounded, two] at bound ⊢
    obtain ⟨q, even | odd⟩ := n.even_or_odd'
    · left
      rw [even, Nat.mul_comm 2 q, roundHalfEven_mul Nat.two_pos]
    · right
      refine ⟨?_, bound⟩
      rw [odd, Nat.mul_comm 2 q, roundHalfEven_tie]
      omega
  · have four : 4 ∣ spacing n := Nat.pow_dvd_pow 2 (show 2 ≤ n.log2 - 52 by omega)
    exact Or.inr ⟨Dvd.dvd.mul_left four _, bound⟩

theorem rounded_eq_zero {n : Nat} (h : rounded n = 0) : n = 0 := by
  obtain kept | ⟨_, large⟩ := rounded_eq_or n
  · exact kept.symm.trans h
  · omega

theorem rounded_le {n : Nat} (bound : n ≤ 2 ^ 63) : rounded n ≤ 2 ^ 63 := by
  obtain rfl | inside := Nat.eq_or_lt_of_le bound
  · decide
  obtain rfl | pos := Nat.eq_zero_or_pos n
  · decide
  have log : n.log2 ≤ 62 := Nat.le_of_lt_succ ((Nat.log2_lt pos.ne').2 inside)
  have := Nat.mul_le_mul (significand_le n) (Nat.pow_le_pow_right Nat.two_pos log)
  rw [significand_mul] at this
  omega

/-- Two numbers that are rounded to one are rounded to a multiple of four from 2⁵³ on. -/
theorem rounded_confused {n m : Nat} (same : rounded n = rounded m) (differ : n ≠ m) :
    4 ∣ rounded n ∧ 2 ^ 53 ≤ rounded n := by
  obtain kept | moved := rounded_eq_or n
  · obtain kept' | moved' := rounded_eq_or m
    · exact absurd (kept.symm.trans (same.trans kept')) differ
    · rwa [same]
  · exact moved

/-- Where doubles lie at least two apart, the number behind one that is a multiple of four is
rounded down to it. -/
theorem rounded_succ {m binade : Nat} (low : 2 ^ 52 ≤ m) (high : m < 2 ^ 53) (apart : 0 < binade)
    (four : 4 ∣ m * 2 ^ binade) : rounded (m * 2 ^ binade + 1) = m * 2 ^ binade := by
  have same : spacing (m * 2 ^ binade + 1) = 2 ^ binade := by
    refine spacing_eq ((Nat.mul_le_mul_right _ low).trans (Nat.le_succ _)) ?_
    have next : (m + 1) * 2 ^ binade ≤ 2 ^ 53 * 2 ^ binade := Nat.mul_le_mul_right _ high
    have two : 2 ^ 1 ≤ 2 ^ binade := Nat.pow_le_pow_right Nat.two_pos apart
    rw [Nat.succ_mul] at next
    omega
  rw [rounded, same]
  obtain rfl | wider := Nat.eq_or_lt_of_le apart
  · rw [Nat.pow_one] at four ⊢
    rw [roundHalfEven_tie]
    omega
  · have four : 2 ^ 2 ≤ 2 ^ binade := Nat.pow_le_pow_right Nat.two_pos wider
    rw [roundHalfEven_mul_add (by omega)]

/-- Every double from 2⁵³ to 2⁶³ that is a multiple of four has two such numbers. -/
theorem exists_rounded {m binade : Nat} (low : 2 ^ 52 ≤ m) (high : m < 2 ^ 53) (apart : 0 < binade)
    (four : 4 ∣ m * 2 ^ binade) (bound : m * 2 ^ binade ≤ 2 ^ 63) :
    ∃ k, k + 1 < 2 ^ 63 ∧ rounded k = m * 2 ^ binade ∧ rounded (k + 1) = m * 2 ^ binade := by
  obtain last | inside := Nat.eq_or_lt_of_le bound
  · -- 2⁶³ itself is no number here, but the two before it are rounded up to it
    exact ⟨2 ^ 63 - 2, by decide, by rw [last]; decide, by rw [last]; decide⟩
  · exact ⟨m * 2 ^ binade, by omega, rounded_of_significand low high binade,
      rounded_succ low high apart four⟩

/-! ## Values counted in units -/

/-- A natural number with a sign. -/
def signed (negative : Bool) (m : Nat) : Int := if negative then -(m : Int) else m

theorem signed_natAbs (n : Int) : signed (decide (n < 0)) n.natAbs = n := by
  by_cases negative : n < 0
  · rw [signed, if_pos (decide_eq_true negative)]
    omega
  · rw [signed, if_neg (by simpa using negative)]
    omega

/-- Only zero has two signs. -/
theorem signed_inj {s t : Bool} {m k : Nat} :
    signed s m = signed t k ↔ m = k ∧ (s = t ∨ m = 0) := by
  cases s <;> cases t <;> simp [signed] <;> omega

theorem natAbs_signed (s : Bool) (m : Nat) : (signed s m).natAbs = m := by
  cases s <;> simp [signed]

theorem signed_mul (s : Bool) (m k : Nat) : signed s m * (k : Int) = signed s (m * k) := by
  cases s <;> simp [signed]

/-- The least positive double is one halved so many times. -/
def leastExponent : Nat := 1074

/-- How many times the least positive double fits into one. -/
def unitsPerOne : Nat := 2 ^ leastExponent

/-- How many times the least positive double fits into the double of a magnitude. -/
def units (magnitude : Nat) : Nat :=
  if magnitude / 2 ^ 52 = 0 then magnitude
  else (2 ^ 52 + magnitude % 2 ^ 52) * 2 ^ (magnitude / 2 ^ 52 - 1)

theorem units_of_lt {m : Nat} (subnormal : m < 2 ^ 52) : units m = m := by
  rw [units, if_pos (Nat.div_eq_of_lt subnormal)]

/-- A binade and a significand; the greatest significand is the least one of the next binade. -/
theorem units_normal (binade : Nat) {m : Nat} (low : 2 ^ 52 ≤ m) (high : m ≤ 2 ^ 53) :
    units (binade * 2 ^ 52 + m) = m * 2 ^ binade := by
  obtain carry | inside := Nat.eq_or_lt_of_le high
  · have quotient : (binade * 2 ^ 52 + m) / 2 ^ 52 = binade + 2 := by omega
    have remainder : (binade * 2 ^ 52 + m) % 2 ^ 52 = 0 := by omega
    rw [units, quotient, remainder, if_neg (by omega), carry,
      show binade + 2 - 1 = binade + 1 from rfl, Nat.pow_succ]
    ring
  · have quotient : (binade * 2 ^ 52 + m) / 2 ^ 52 = binade + 1 := by omega
    have remainder : (binade * 2 ^ 52 + m) % 2 ^ 52 = m - 2 ^ 52 := by omega
    rw [units, quotient, remainder, if_neg (by omega), Nat.add_sub_cancel' low,
      Nat.add_sub_cancel]

theorem exists_normal {magnitude : Nat} (normal : 2 ^ 52 ≤ magnitude) :
    ∃ binade m, 2 ^ 52 ≤ m ∧ m < 2 ^ 53 ∧ magnitude = binade * 2 ^ 52 + m :=
  ⟨magnitude / 2 ^ 52 - 1, 2 ^ 52 + magnitude % 2 ^ 52, by omega, by omega, by omega⟩

/-- Greater magnitudes stand for greater values. -/
theorem units_strictMono : StrictMono units := by
  refine strictMono_nat_of_lt_succ fun magnitude => ?_
  obtain subnormal | normal := Nat.lt_or_ge magnitude (2 ^ 52)
  · rw [units_of_lt subnormal]
    obtain least | subnormal' := Nat.eq_or_lt_of_le (Nat.succ_le_of_lt subnormal)
    · -- the next magnitude is the least normal one
      have := units_normal 0 (m := 2 ^ 52) (Nat.le_refl _) (by decide)
      rw [show magnitude + 1 = 0 * 2 ^ 52 + 2 ^ 52 by omega, this]
      omega
    · rw [units_of_lt subnormal']
      omega
  · obtain ⟨binade, m, low, high, rfl⟩ := exists_normal normal
    rw [units_normal binade low high.le, Nat.add_assoc,
      units_normal binade (low.trans m.le_succ) high]
    exact Nat.mul_lt_mul_of_pos_right m.lt_succ_self (Nat.two_pow_pos _)

theorem units_eq_zero_iff {magnitude : Nat} : units magnitude = 0 ↔ magnitude = 0 :=
  units_strictMono.injective.eq_iff' (by decide)

/-! ## What a double denotes -/

/-- A double stands for an integer: it is finite, and its value is that integer. -/
def Denotes (x : Binary64) (n : Int) : Prop :=
  ∃ negative significand exponent, x.view = .finite negative significand exponent ∧
    (if negative then -(significand : ℚ) else significand) * 2 ^ exponent = n

theorem view_of_finite {x : Binary64} (finite : x.magnitude < infiniteMagnitude) :
    ∃ m k : Nat, x.view = .finite x.negative m (k - 1074) ∧ m * 2 ^ k = units x.magnitude := by
  have below : x.magnitude / 2 ^ 52 < 2047 := Nat.div_lt_of_lt_mul finite
  unfold view units
  simp only [Nat.pow_eq]
  rw [if_neg (Nat.ne_of_lt below)]
  by_cases subnormal : x.magnitude / 2 ^ 52 = 0
  · refine ⟨x.magnitude, 0, ?_, ?_⟩
    · rw [if_pos subnormal, Nat.mod_eq_of_lt (by omega)]
      rfl
    · rw [if_pos subnormal, Nat.pow_zero, Nat.mul_one]
  · refine ⟨2 ^ 52 + x.magnitude % 2 ^ 52, x.magnitude / 2 ^ 52 - 1, ?_, ?_⟩
    · rw [if_neg subnormal, show ((x.magnitude / 2 ^ 52 : Nat) : Int) - 1075 =
        ((x.magnitude / 2 ^ 52 - 1 : Nat) : Int) - 1074 by omega]
    · rw [if_neg subnormal]

theorem finite_of_view {x : Binary64} {negative : Bool} {m : Nat} {e : Int}
    (h : x.view = .finite negative m e) : x.magnitude < infiniteMagnitude := by
  have bound : x.magnitude < 2 ^ 63 := Nat.mod_lt _ (by decide)
  have infinite : infiniteMagnitude = 2047 * 2 ^ 52 := rfl
  unfold view at h
  simp only [Nat.pow_eq] at h
  split at h
  · split at h <;> cases h
  · omega

theorem two_zpow_eq_unitsPerOne : (2 : ℚ) ^ (1074 : Int) = unitsPerOne := by
  rw [unitsPerOne, Nat.cast_pow, Nat.cast_two, ← zpow_natCast,
    show (leastExponent : Int) = 1074 from rfl]

/-- In units, both sides are integers. -/
theorem denotes_iff {x : Binary64} {n : Int} :
    x.Denotes n ↔ x.magnitude < infiniteMagnitude ∧
      signed x.negative (units x.magnitude) = n * unitsPerOne := by
  have scaled (m k : Nat) : (if x.negative then -(m : ℚ) else m) * 2 ^ ((k : Int) - 1074) = n ↔
      signed x.negative (m * 2 ^ k) = n * unitsPerOne := by
    have value : (if x.negative then -(m : ℚ) else m) = signed x.negative m := by
      cases x.negative <;> simp [signed]
    rw [value, zpow_sub₀ two_ne_zero, mul_div_assoc', div_eq_iff (by positivity), ← signed_mul,
      two_zpow_eq_unitsPerOne]
    norm_cast
  constructor
  · rintro ⟨negative, m, e, viewed, value⟩
    have finite := finite_of_view viewed
    obtain ⟨m', k, viewed', units_eq⟩ := view_of_finite finite
    cases viewed.symm.trans viewed'
    exact ⟨finite, units_eq ▸ (scaled m k).1 value⟩
  · rintro ⟨finite, value⟩
    obtain ⟨m, k, viewed, units_eq⟩ := view_of_finite finite
    exact ⟨_, m, _, viewed, (scaled m k).2 (units_eq ▸ value)⟩

/-! ## The double nearest to an integer -/

theorem magnitude_ofMagnitude {s : Bool} {magnitude : Nat} (bound : magnitude < 2 ^ 63) :
    (ofMagnitude s magnitude).magnitude = magnitude := by
  have word : (2 : Nat) ^ 64 = 2 ^ 63 + 2 ^ 63 := rfl
  rw [Binary64.magnitude, ofMagnitude, UInt64.toNat_ofNat', Nat.pow_eq]
  cases s <;> simp only [Bool.false_eq_true, ↓reduceIte] <;> omega

theorem negative_ofMagnitude {s : Bool} {magnitude : Nat} (bound : magnitude < 2 ^ 63) :
    (ofMagnitude s magnitude).negative = s := by
  rw [negative, ofMagnitude, UInt64.toNat_ofNat', Nat.pow_eq]
  cases s <;> simp only [Bool.false_eq_true, ↓reduceIte, decide_eq_true_eq, decide_eq_false_iff_not]
    <;> omega

/-- The magnitude of the double nearest to a natural number. -/
def nearestMagnitude (n : Nat) : Nat :=
  if n = 0 then 0 else (n.log2 + 1022) * 2 ^ 52 + significand n

theorem nearestMagnitude_lt {n : Nat} (bound : n ≤ 2 ^ 63) :
    nearestMagnitude n < infiniteMagnitude := by
  have infinite : infiniteMagnitude = 2047 * 2 ^ 52 := rfl
  unfold nearestMagnitude
  split
  · decide
  · rename_i nonzero
    have binade : n.log2 < 64 := (Nat.log2_lt nonzero).2 (by omega)
    have := significand_le n
    omega

/-- The nearest double stands for the number rounded to a multiple of the spacing. -/
theorem units_nearestMagnitude (n : Nat) :
    units (nearestMagnitude n) = rounded n * unitsPerOne := by
  unfold nearestMagnitude
  split
  · rename_i zero
    rw [zero, rounded_of_lt (by decide), units_of_lt (by decide), Nat.zero_mul]
  · rename_i nonzero
    rw [units_normal _ (le_significand nonzero) (significand_le n),
      show n.log2 + 1022 = n.log2 + (leastExponent - 52) from rfl, Nat.pow_add, ← Nat.mul_assoc,
      significand_mul, Nat.mul_assoc, ← Nat.pow_add, Nat.add_sub_cancel' (by decide), unitsPerOne]

/-- Both parts of a fraction with the denominator one, scaled. -/
theorem scaleDown_one (n binade precision : Nat) :
    scaleDown n 1 ((binade : Int) - precision) =
      (n * 2 ^ (precision - binade), 2 ^ (binade - precision)) := by
  unfold scaleDown
  simp only [Nat.pow_eq]
  split
  · rw [show ((binade : Int) - precision).toNat = binade - precision by omega,
      Nat.sub_eq_zero_of_le (show precision ≤ binade by omega), Nat.one_mul, Nat.pow_zero,
      Nat.mul_one]
  · rw [show (-((binade : Int) - precision)).toNat = precision - binade by omega,
      Nat.sub_eq_zero_of_le (show binade ≤ precision by omega), Nat.pow_zero]

theorem ofInt_eq {n : Int} (bound : n.natAbs ≤ 2 ^ 63) :
    ofInt n = ofMagnitude (decide (n < 0)) (nearestMagnitude n.natAbs) := by
  have below := (nearestMagnitude_lt bound).le
  unfold ofInt nearest
  unfold nearestMagnitude at below ⊢
  generalize n.natAbs = m at below ⊢
  by_cases zero : m = 0
  · rw [if_pos zero, if_pos zero]
    rfl
  · rw [if_neg zero] at below ⊢
    rw [if_neg zero]
    have one : Nat.log2 1 = 0 := rfl
    have low : (m.log2 : Int) - Nat.log2 1 - 53 = (m.log2 : Int) - (53 : Nat) := by
      rw [one, Nat.cast_zero, sub_zero, Nat.cast_ofNat]
    have top : 2 ^ 53 * 2 ^ (m.log2 - 53) ≤ m * 2 ^ (53 - m.log2) := by
      rw [two_pow_mul_two_pow_sub]
      exact Nat.mul_le_mul_right _ (Nat.log2_self_le zero)
    have exponent : max ((m.log2 : Int) - (53 : Nat) + 1) (-1074) =
        (m.log2 : Int) - (52 : Nat) := by
      omega
    have biased : ((m.log2 : Int) - (52 : Nat) + 1074).toNat = m.log2 + 1022 := by omega
    simp only [low, scaleDown_one, Nat.pow_eq, if_pos top, exponent, biased]
    rw [← spacing, ← significand, Nat.min_eq_left below]

/-- What the double nearest to an integer denotes. -/
def roundedInt (n : Int) : Int := signed (decide (n < 0)) (rounded n.natAbs)

theorem compare?_eq_some_eq_iff {x y : Binary64} :
    x.compare? y = some .eq ↔ ∃ place, x.rank? = some place ∧ y.rank? = some place := by
  unfold compare?
  cases x.rank? with
  | none => simp
  | some a =>
    cases y.rank? with
    | none => simp
    | some b =>
      simp only [Option.some.injEq, Std.LawfulEqCmp.compare_eq_iff_eq]
      exact ⟨fun same => ⟨a, rfl, same.symm⟩, fun ⟨_, left, right⟩ => left.trans right.symm⟩

theorem rank?_eq_some_iff {x : Binary64} {place : Int} :
    x.rank? = some place ↔
      x.magnitude ≤ infiniteMagnitude ∧ signed x.negative x.magnitude = place := by
  unfold rank?
  split
  · simp_all
  · simp_all [signed]

/-- The double nearest to an integer equals those that denote the rounded integer. -/
theorem compare?_ofInt_iff {n : Int} (bound : n.natAbs ≤ 2 ^ 63) {x : Binary64} :
    (ofInt n).compare? x = some .eq ↔ x.Denotes (roundedInt n) := by
  have finite := nearestMagnitude_lt bound
  have below : nearestMagnitude n.natAbs < 2 ^ 63 := finite.trans (by decide)
  -- a sign and a magnitude have one place, and one value in units
  have same : signed (decide (n < 0)) (nearestMagnitude n.natAbs) =
        signed x.negative x.magnitude ↔
      signed x.negative (units x.magnitude) = roundedInt n * unitsPerOne := by
    rw [roundedInt, signed_mul, ← units_nearestMagnitude, eq_comm, signed_inj, signed_inj,
      units_strictMono.injective.eq_iff, units_eq_zero_iff]
  rw [compare?_eq_some_eq_iff, denotes_iff, ← same]
  simp only [rank?_eq_some_iff, ofInt_eq bound, magnitude_ofMagnitude below,
    negative_ofMagnitude below]
  constructor
  · rintro ⟨_, ⟨_, rfl⟩, _, place⟩
    have := (signed_inj.1 place).1
    exact ⟨by omega, place.symm⟩
  · rintro ⟨finite', place⟩
    exact ⟨_, ⟨finite.le, rfl⟩, finite'.le, place.symm⟩

theorem Denotes.unique {x : Binary64} {n m : Int} (hn : x.Denotes n) (hm : x.Denotes m) :
    n = m := by
  obtain ⟨_, _, _, viewed, value⟩ := hn
  obtain ⟨_, _, _, viewed', value'⟩ := hm
  cases viewed.symm.trans viewed'
  exact Int.cast_injective (value.symm.trans value')

/-! ## Integers with one nearest double -/

/-- A double that denotes a large integer has a full significand. -/
theorem Denotes.exists_significand {x : Binary64} {n : Int} (h : x.Denotes n)
    (large : 2 ^ 53 ≤ n.natAbs) :
    ∃ m binade, 2 ^ 52 ≤ m ∧ m < 2 ^ 53 ∧ 0 < binade ∧ n.natAbs = m * 2 ^ binade := by
  have value : units x.magnitude = n.natAbs * unitsPerOne := by
    have := congrArg Int.natAbs (denotes_iff.1 h).2
    rwa [natAbs_signed, Int.natAbs_mul, Int.natAbs_natCast] at this
  have normal : 2 ^ 52 ≤ x.magnitude := by
    by_contra subnormal
    rw [units_of_lt (by omega)] at value
    have := Nat.le_mul_of_pos_right n.natAbs (show 0 < unitsPerOne from Nat.two_pow_pos _)
    omega
  obtain ⟨binade, m, low, high, split⟩ := exists_normal normal
  rw [split, units_normal binade low high.le, unitsPerOne] at value
  have above : leastExponent < binade := by
    by_contra below
    have := calc m * 2 ^ binade < 2 ^ 53 * 2 ^ binade :=
          Nat.mul_lt_mul_of_pos_right high (Nat.two_pow_pos _)
      _ ≤ n.natAbs * 2 ^ leastExponent :=
          Nat.mul_le_mul large (Nat.pow_le_pow_right Nat.two_pos (by omega))
    exact Nat.ne_of_lt this value
  refine ⟨m, binade - leastExponent, low, high, Nat.sub_pos_of_lt above, ?_⟩
  rw [← Nat.sub_add_cancel above.le, Nat.pow_add, ← Nat.mul_assoc] at value
  exact (Nat.eq_of_mul_eq_mul_right (Nat.two_pow_pos _) value).symm

theorem roundedInt_signed (s : Bool) (m : Nat) :
    roundedInt (signed s m) = signed s (rounded m) := by
  rw [roundedInt, natAbs_signed, signed_inj]
  refine ⟨rfl, ?_⟩
  obtain rfl | pos := Nat.eq_zero_or_pos m
  · exact Or.inr (rounded_of_lt (by decide))
  · left
    cases s
    · simp [signed]
    · simp [signed, pos]

theorem natAbs_roundedInt_le {n : Int} (bound : n.natAbs ≤ 2 ^ 63) :
    (roundedInt n).natAbs ≤ 2 ^ 63 := by
  rw [roundedInt, natAbs_signed]
  exact rounded_le bound

/-- Integers up to 2⁵³ are doubles. -/
theorem roundedInt_of_le {n : Int} (small : n.natAbs ≤ 2 ^ 53) : roundedInt n = n := by
  have kept : rounded n.natAbs = n.natAbs := by
    obtain last | inside := Nat.eq_or_lt_of_le small
    · rw [last]
      decide
    · exact rounded_of_lt inside
  rw [roundedInt, kept, signed_natAbs]

/-- Integers with one nearest double are rounded to a multiple of four from 2⁵³ on. -/
theorem roundedInt_confused {n m : Int} (same : roundedInt n = roundedInt m) (differ : n ≠ m) :
    4 ∣ roundedInt n ∧ 2 ^ 53 ≤ (roundedInt n).natAbs := by
  obtain ⟨magnitudes, signs⟩ := signed_inj.1 same
  have apart : n.natAbs ≠ m.natAbs := by
    intro opposite
    obtain signs | zero := signs
    · have := decide_eq_decide.1 signs
      omega
    · have := rounded_eq_zero zero
      omega
  obtain ⟨four, large⟩ := rounded_confused magnitudes apart
  rw [roundedInt, ← Int.natAbs_dvd_natAbs, natAbs_signed]
  exact ⟨four, large⟩

/-- A double that denotes a multiple of four from 2⁵³ to 2⁶³ is the nearest one of two integers. -/
theorem Denotes.exists_roundedInt {x : Binary64} {n : Int} (h : x.Denotes n) (four : 4 ∣ n)
    (large : 2 ^ 53 ≤ n.natAbs) (bound : n.natAbs ≤ 2 ^ 63) :
    ∃ a b : Int64, a ≠ b ∧ roundedInt a.toInt = n ∧ roundedInt b.toInt = n := by
  obtain ⟨m, binade, low, high, apart, split⟩ := h.exists_significand large
  have four : 4 ∣ m * 2 ^ binade := split ▸ Int.natAbs_dvd_natAbs.2 four
  obtain ⟨k, fits, first, second⟩ := exists_rounded low high apart four (split ▸ bound)
  have int64 {i : Nat} (fits : i < 2 ^ 63) :
      (Int64.ofInt (signed (decide (n < 0)) i)).toInt = signed (decide (n < 0)) i := by
    have := natAbs_signed (decide (n < 0)) i
    exact Int64.toInt_ofInt_of_le (by omega) (by omega)
  have back {i : Nat} (fits : i < 2 ^ 63) (h : rounded i = m * 2 ^ binade) :
      roundedInt (Int64.ofInt (signed (decide (n < 0)) i)).toInt = n := by
    rw [int64 fits, roundedInt_signed, h, ← split, signed_natAbs]
  refine ⟨_, _, ?_, back (by omega) first, back fits second⟩
  intro same
  have := congrArg Int64.toInt same
  rw [int64 (by omega), int64 fits, signed_inj] at this
  omega

end Binary64

end GatedMigration
