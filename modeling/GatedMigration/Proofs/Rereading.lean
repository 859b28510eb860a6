import GatedMigration.Json.Printer
import GatedMigration.Json.Reader
import Mathlib.Data.List.Basic

/-!
# The parts of a JSON text are read as what was written

A part of a text is read the same way whatever follows it: a string because its closing quote is the
first one that is not escaped (`Json.readString_escaped`), and a number if no digit, point or
exponent follows (`Json.readNumber_int`). Blanks in front of a value, an item or a field are passed
over (`Json.readValue_skip`, `Json.readItems_skip`, `Json.readFields_skip`).
-/

namespace GatedMigration.Json

/-! ## Strings -/

theorem joinPieces_unit {u : Nat} (h : u < 0xD800) (pieces : List Piece) :
    joinPieces (.unit u :: pieces) = (joinPieces pieces).map (Char.ofNat u :: ·) := by
  have high : isHighHalf u = false := by simp [isHighHalf]; omega
  have low : isLowHalf u = false := by simp [isLowHalf]; omega
  cases pieces with
  | nil => simp [joinPieces, high, low]
  | cons piece pieces =>
    cases piece with
    | char c => simp [joinPieces, high, low]
    | unit v => simp [joinPieces, high, low]

theorem readPieces_letter {e c : Char} (letter : letterEscape? e = some c) (cs : List Char) :
    readPieces ('\\' :: e :: cs) = (readPieces cs).map fun r => (.char c :: r.1, r.2) := by
  rw [readPieces, letter]
  · cases readPieces cs <;> rfl
  · rintro - - - - - rfl
    cases letter

theorem readPieces_control {n : Nat} (control : n < 32) (cs : List Char) :
    readPieces ('\\' :: 'u' :: '0' :: '0' :: hexDigit (n / 16) :: hexDigit n :: cs) =
      (readPieces cs).map fun r => (.unit n :: r.1, r.2) := by
  have unit : ∀ n < 32, hexUnit? '0' '0' (hexDigit (n / 16)) (hexDigit n) = some n := by decide
  rw [readPieces, unit n control]
  cases readPieces cs <;> rfl

theorem readPieces_plain {c : Char} (quote : c ≠ '"') (backslash : c ≠ '\\')
    (visible : ¬c.toNat < 32) (cs : List Char) :
    readPieces (c :: cs) = (readPieces cs).map fun r => (.char c :: r.1, r.2) := by
  rw [readPieces, if_neg visible]
  · cases readPieces cs <;> rfl
  · exact quote
  · exact fun _ _ _ _ _ h => absurd h backslash
  · exact fun _ _ h => absurd h backslash

/-- A character is written as a piece that stands for it. -/
theorem readPieces_escape (c : Char) (cs : List Char) : ∃ piece,
    readPieces (escape c ++ cs) = (readPieces cs).map (fun r => (piece :: r.1, r.2)) ∧
      ∀ pieces, joinPieces (piece :: pieces) = (joinPieces pieces).map (c :: ·) := by
  have letter {e d : Char} (same : c = d) (read : letterEscape? e = some d) : ∃ piece,
      readPieces (['\\', e] ++ cs) = (readPieces cs).map (fun r => (piece :: r.1, r.2)) ∧
        ∀ pieces, joinPieces (piece :: pieces) = (joinPieces pieces).map (c :: ·) :=
    ⟨.char c, readPieces_letter (same ▸ read) cs, fun _ => rfl⟩
  unfold escape
  split_ifs with quote backslash newline carriage tab backspace feed control
  · exact letter quote rfl
  · exact letter backslash rfl
  · exact letter newline rfl
  · exact letter carriage rfl
  · exact letter tab rfl
  · exact letter backspace rfl
  · exact letter feed rfl
  -- A control character is a unit below the surrogates, so that it stands for itself.
  · refine ⟨.unit c.toNat, readPieces_control control cs, fun pieces => ?_⟩
    rw [joinPieces_unit (by omega), Char.ofNat_toNat]
  · exact ⟨.char c, readPieces_plain quote backslash control cs, fun _ => rfl⟩

/-- A string is read up to its closing quote. -/
theorem readPieces_escaped (s : List Char) (cs : List Char) : ∃ pieces,
    readPieces (s.flatMap escape ++ '"' :: cs) = some (pieces, cs) ∧
      joinPieces pieces = some s := by
  induction s with
  | nil => exact ⟨[], by simp [readPieces], rfl⟩
  | cons c s ih =>
    obtain ⟨pieces, read, joined⟩ := ih
    obtain ⟨piece, first, stands⟩ := readPieces_escape c (s.flatMap escape ++ '"' :: cs)
    refine ⟨piece :: pieces, ?_, ?_⟩
    · rw [List.flatMap_cons, List.append_assoc, first, read]
      rfl
    · rw [stands, joined]
      rfl

theorem readString_escaped (strict : Bool) (s : String) (cs : List Char) :
    readString strict (s.toList.flatMap escape ++ '"' :: cs) = some (s, cs) := by
  obtain ⟨pieces, read, joined⟩ := readPieces_escaped s.toList cs
  rw [readString, read]
  dsimp only
  rw [joined]
  simp

theorem quoted_append (s : String) (cs : List Char) :
    quoted s ++ cs = '"' :: (s.toList.flatMap escape ++ '"' :: cs) := by
  simp [quoted]

/-! ## Numbers -/

/-- Nothing follows that goes on with a number. -/
def Ends (cs : List Char) : Prop :=
  ∀ c ∈ cs.head?, c.isDigit = false ∧ c ≠ '.' ∧ c ≠ 'e' ∧ c ≠ 'E'

theorem readFraction_of_ends {cs : List Char} (ends : Ends cs) :
    readFraction cs = some ([], cs) := by
  unfold readFraction
  split
  · exact absurd rfl (ends _ rfl).2.1
  · rfl

theorem readExponent_of_ends {cs : List Char} (ends : Ends cs) :
    readExponent cs = some ([], cs) := by
  unfold readExponent
  split
  · exact absurd rfl (ends _ rfl).2.2.1
  · exact absurd rfl (ends _ rfl).2.2.2
  · rfl

theorem readDigits_append {ds cs : List Char} (some_digit : ds ≠ [])
    (digits : ∀ d ∈ ds, d.isDigit = true) (ends : Ends cs) :
    readDigits (ds ++ cs) = some (ds, cs) := by
  have none : cs.takeWhile Char.isDigit = [] ∧ cs.dropWhile Char.isDigit = cs := by
    cases cs with
    | nil => exact ⟨rfl, rfl⟩
    | cons c cs => simp [(ends c rfl).1]
  unfold readDigits
  rw [List.takeWhile_append_of_pos digits, List.dropWhile_append_of_pos digits, none.1, none.2,
    List.append_nil]
  cases ds with
  | nil => exact absurd rfl some_digit
  | cons d ds => rfl

/-- A positive number does not begin with a zero. -/
theorem head_toDigits {n : Nat} (pos : 0 < n) : (Nat.toDigits 10 n).head? ≠ some '0' := by
  induction n using Nat.strongRecOn with
  | ind n ih =>
    by_cases small : n < 10
    · rw [Nat.toDigits_of_lt_base small, List.head?_cons, ne_eq, Option.some.injEq,
        Nat.digitChar_eq_zero]
      omega
    · rw [Nat.toDigits_of_base_le (by decide) (by omega),
        List.head?_append_of_ne_nil _ Nat.toDigits_ne_nil]
      exact ih (n / 10) (by omega) (by omega)

theorem isDigit_of_mem_toDigits {n : Nat} : ∀ d ∈ Nat.toDigits 10 n, d.isDigit = true :=
  fun _ mem => Nat.isDigit_of_mem_toDigits (by decide) (by decide) mem

theorem readWhole_nat (n : Nat) {cs : List Char} (ends : Ends cs) :
    readWhole (Nat.toDigits 10 n ++ cs) = some (Nat.toDigits 10 n, cs) := by
  rcases Nat.eq_zero_or_pos n with rfl | pos
  · rfl
  have digits := readDigits_append Nat.toDigits_ne_nil (isDigit_of_mem_toDigits (n := n)) ends
  unfold readWhole
  split
  · rename_i first
    have head := congrArg List.head? first
    rw [List.head?_append_of_ne_nil _ Nat.toDigits_ne_nil] at head
    exact absurd head (head_toDigits pos)
  · exact digits

theorem readUnsigned_nat (n : Nat) {cs : List Char} (ends : Ends cs) :
    readUnsigned (Nat.toDigits 10 n ++ cs) = some (Nat.toDigits 10 n, cs) := by
  simp [readUnsigned, readWhole_nat n ends, readFraction_of_ends ends, readExponent_of_ends ends]

/-- The characters of an integer: the digits of its absolute value, behind a sign if it is
negative. -/
theorem toList_toString_int (n : Int) :
    0 ≤ n ∧ (toString n).toList = Nat.toDigits 10 n.natAbs ∨
      n < 0 ∧ (toString n).toList = '-' :: Nat.toDigits 10 n.natAbs := by
  rw [Int.toString_eq_repr]
  cases n with
  | ofNat n => exact Or.inl ⟨Int.natCast_nonneg n, Nat.toList_repr⟩
  | negSucc n =>
    refine Or.inr ⟨Int.negSucc_lt_zero n, ?_⟩
    rw [Int.repr, String.toList_append, Nat.toList_repr]
    rfl

theorem readNumber_int (n : Int) {cs : List Char} (ends : Ends cs) :
    readNumber ((toString n).toList ++ cs) = some ((toString n).toList, cs) := by
  rcases toList_toString_int n with ⟨-, unsigned⟩ | ⟨-, signed⟩
  · rw [unsigned, ← readUnsigned_nat n.natAbs ends]
    unfold readNumber
    split
    · rename_i first
      have head := congrArg List.head? first
      rw [List.head?_append_of_ne_nil _ Nat.toDigits_ne_nil] at head
      cases isDigit_of_mem_toDigits _ (List.mem_of_head? head)
    · rfl
  · rw [signed, List.cons_append, readNumber, readUnsigned_nat n.natAbs ends]
    rfl

/-- The text of an integer begins with a digit or the sign. -/
theorem toString_int_cons (n : Int) : ∃ c cs,
    (toString n).toList = c :: cs ∧ (c.isDigit = true ∨ c = '-') := by
  rcases toList_toString_int n with ⟨-, unsigned⟩ | ⟨-, signed⟩
  · obtain ⟨c, cs, digits⟩ := List.exists_cons_of_ne_nil
      (Nat.toDigits_ne_nil (n := n.natAbs) (b := 10))
    refine ⟨c, cs, unsigned.trans digits, Or.inl (isDigit_of_mem_toDigits (n := n.natAbs) c ?_)⟩
    rw [digits]
    exact List.mem_cons_self
  · exact ⟨'-', _, signed, Or.inr rfl⟩

/-! ## Blanks -/

/-- There are only blanks. -/
def Blank (cs : List Char) : Prop := ∀ c ∈ cs, isBlank c = true

theorem blank_nil : Blank [] := List.forall_mem_nil _

theorem isBlank_of_isDigit {c : Char} (digit : c.isDigit = true) : isBlank c = false := by
  rw [Bool.eq_false_iff]
  intro blank
  simp only [isBlank, Bool.or_eq_true, beq_iff_eq] at blank
  rcases blank with ((rfl | rfl) | rfl) | rfl <;> cases digit

theorem skipBlanks_of_not {c : Char} (visible : isBlank c = false) (cs : List Char) :
    skipBlanks (c :: cs) = c :: cs := by
  simp [skipBlanks, visible]

theorem skipBlanks_append {bs : List Char} (blank : Blank bs) (cs : List Char) :
    skipBlanks (bs ++ cs) = skipBlanks cs := List.dropWhile_append_of_pos blank

theorem ends_of_head {c : Char} (h : c.isDigit = false ∧ c ≠ '.' ∧ c ≠ 'e' ∧ c ≠ 'E')
    (cs : List Char) : Ends (c :: cs) := by
  rintro _ ⟨⟩
  exact h

theorem ends_of_isBlank {c : Char} (blank : isBlank c = true) (cs : List Char) :
    Ends (c :: cs) := by
  refine ends_of_head ?_ cs
  simp only [isBlank, Bool.or_eq_true, beq_iff_eq] at blank
  rcases blank with ((rfl | rfl) | rfl) | rfl <;> decide

theorem ends_append {bs cs : List Char} (blank : Blank bs) (ends : Ends cs) : Ends (bs ++ cs) := by
  cases bs with
  | nil => exact ends
  | cons b bs => exact ends_of_isBlank (blank b List.mem_cons_self) _

section Skipped

variable (strict : Bool) (wanted : String → Bool) (fuel : Nat) {bs : List Char} (cs : List Char)

theorem readValue_skip (blank : Blank bs) :
    readValue strict wanted fuel (bs ++ cs) = readValue strict wanted fuel cs := by
  cases fuel with
  | zero => rfl
  | succ fuel => rw [readValue, readValue, skipBlanks_append blank]

theorem readItems_skip (blank : Blank bs) :
    readItems strict fuel (bs ++ cs) = readItems strict fuel cs := by
  cases fuel with
  | zero => rfl
  | succ fuel => rw [readItems, readItems, readValue_skip _ _ _ _ blank]

theorem readFields_skip (blank : Blank bs) :
    readFields strict wanted fuel (bs ++ cs) = readFields strict wanted fuel cs := by
  cases fuel with
  | zero => rfl
  | succ fuel => rw [readFields, readFields, skipBlanks_append blank]

end Skipped

theorem readValue_number {c : Char} (first : c.isDigit = true ∨ c = '-') (strict : Bool)
    (wanted : String → Bool) (fuel : Nat) (cs : List Char) :
    readValue strict wanted (fuel + 1) (c :: cs) =
      (readNumber (c :: cs)).map fun r => (.number (String.ofList r.1), r.2) := by
  have visible : isBlank c = false := by
    rcases first with digit | rfl
    · exact isBlank_of_isDigit digit
    · rfl
  have other {d : Char} (digit : d.isDigit = false) (sign : d ≠ '-') : c ≠ d := by
    rintro rfl
    rcases first with first | rfl
    · exact absurd first (by simp [digit])
    · exact sign rfl
  rw [readValue, skipBlanks_of_not visible]
  split <;> rename_i same <;> try exact absurd (List.cons.inj same).1 (other rfl (by decide))
  rfl

end GatedMigration.Json
