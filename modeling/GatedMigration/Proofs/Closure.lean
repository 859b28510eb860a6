import GatedMigration.Graph.Closure
import Mathlib.Logic.Relation

/-!
# The closure is the transitive closure

What the closure of a list of rows relates is what a path of one or more steps leads to
(`Closure.related_closure`). Every path that the closure lets through is one
(`related_passes_sound`); and after a number was let through, nothing is lost by going through it
(`related_passes_trans`), so that no path is missed.
-/

namespace GatedMigration.Closure

/-! ## Rows -/

theorem testBit_foldl_or (js : List Nat) (r j : Nat) :
    (js.foldl (fun r j => r ||| Nat.pow 2 j) r).testBit j = (r.testBit j || decide (j ∈ js)) := by
  induction js generalizing r with
  | nil => simp
  | cons k js ih =>
    have bit : (Nat.pow 2 k).testBit j = decide (j = k) := by
      rw [Nat.pow_eq, Nat.testBit_two_pow]
      exact decide_eq_decide.2 eq_comm
    rw [List.foldl_cons, ih, Nat.testBit_or, bit, Bool.or_assoc]
    simp

/-- The bits of a row are those of its list. -/
theorem testBit_row (js : List Nat) (j : Nat) : (row js).testBit j = decide (j ∈ js) := by
  rw [row, testBit_foldl_or, Nat.zero_testBit, Bool.false_or]

/-- Only numbers that have a row are related to something. -/
theorem lt_of_related {rows : List Nat} {i j : Nat} (h : related rows i j = true) :
    i < rows.length := by
  refine Nat.lt_of_not_le fun outside => ?_
  rw [related, List.getD_eq_getElem?_getD, List.getElem?_eq_none outside] at h
  exact Bool.noConfusion ((Nat.zero_testBit j).symm.trans h)

/-! ## Paths through more and more numbers -/

/-- Paths through `k` are joined to a relation. -/
theorem related_through (k : Nat) (rows : List Nat) (i j : Nat) :
    related (through k rows) i j =
      (related rows i j || (related rows i k && related rows k j)) := by
  unfold related
  have at_i : (through k rows).getD i 0 =
      if (rows.getD i 0).testBit k then rows.getD i 0 ||| rows.getD k 0 else rows.getD i 0 := by
    unfold through
    by_cases inside : i < rows.length
    · simp [List.getD_eq_getElem?_getD, List.getElem?_eq_getElem inside]
    · have outside := Nat.le_of_not_lt inside
      simp [List.getD_eq_getElem?_getD, List.getElem?_eq_none outside]
  rw [at_i]
  split
  · rename_i passes
    rw [Nat.testBit_or, passes, Bool.true_and]
  · rename_i stops
    rw [eq_false_of_ne_true stops, Bool.false_and, Bool.or_false]

/-- Paths through the first `k` numbers joined to a relation. -/
def passes (rows : List Nat) (k : Nat) : List Nat :=
  (List.range k).foldl (fun rows k => through k rows) rows

theorem passes_succ (rows : List Nat) (k : Nat) :
    passes rows (k + 1) = through k (passes rows k) := by
  rw [passes, List.range_succ, List.foldl_append]
  rfl

section

variable {rows : List Nat} {i j : Nat}

theorem related_passes_sound {k : Nat} (h : related (passes rows k) i j = true) :
    Relation.TransGen (fun i j => related rows i j = true) i j := by
  induction k generalizing i j with
  | zero => exact .single h
  | succ k ih =>
    rw [passes_succ, related_through, Bool.or_eq_true, Bool.and_eq_true] at h
    rcases h with direct | ⟨to_k, from_k⟩
    · exact ih direct
    · exact (ih to_k).trans (ih from_k)

theorem related_passes_of_related (h : related rows i j = true) (k : Nat) :
    related (passes rows k) i j = true := by
  induction k with
  | zero => exact h
  | succ k ih => rw [passes_succ, related_through, ih, Bool.true_or]

/-- A path through a number that was let through is a path without it. -/
theorem related_passes_trans {k m : Nat} (among : m < k)
    (to_m : related (passes rows k) i m = true) (from_m : related (passes rows k) m j = true) :
    related (passes rows k) i j = true := by
  induction k generalizing i j with
  | zero => exact absurd among (Nat.not_lt_zero m)
  | succ k ih =>
    simp only [passes_succ, related_through, Bool.or_eq_true, Bool.and_eq_true] at to_m from_m ⊢
    rcases Nat.lt_succ_iff_lt_or_eq.1 among with earlier | rfl
    · rcases to_m with to_m | ⟨to_k, k_to_m⟩ <;> rcases from_m with from_m | ⟨m_to_k, from_k⟩
      · exact Or.inl (ih earlier to_m from_m)
      · exact Or.inr ⟨ih earlier to_m m_to_k, from_k⟩
      · exact Or.inr ⟨to_k, ih earlier k_to_m from_m⟩
      · exact Or.inr ⟨to_k, from_k⟩
    · exact Or.inr ⟨to_m.elim id And.left, from_m.elim id And.right⟩

/-- The closure relates a number to whatever a path of one or more steps leads to. -/
theorem related_closure : related (closure rows) i j = true ↔
    Relation.TransGen (fun i j => related rows i j = true) i j := by
  refine ⟨related_passes_sound (k := rows.length), fun path => ?_⟩
  show related (passes rows rows.length) i j = true
  induction path with
  | single edge => exact related_passes_of_related edge _
  | tail _ edge ih =>
    exact related_passes_trans (lt_of_related edge) ih (related_passes_of_related edge _)

end

end GatedMigration.Closure
