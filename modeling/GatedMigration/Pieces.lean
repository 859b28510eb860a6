/-!
# Texts in pieces

A text is cut at the characters that separate its pieces (`pieces`); the separators are no part of
them. Where one character separates, cutting and joining undo each other (`intercalate_pieces`,
`pieces_intercalate`).
-/

namespace GatedMigration

/-- The pieces of a text between separators; there is always one. -/
def pieces (separates : Char → Bool) : List Char → List (List Char)
  | [] => [[]]
  | c :: cs =>
    if separates c then [] :: pieces separates cs
    else (pieces separates cs).modifyHead (c :: ·)

section Pieces

variable {separates : Char → Bool} {separator c : Char} {cs piece : List Char}

theorem pieces_separator (separates : Char → Bool) (h : separates c = true) :
    pieces separates (c :: cs) = [] :: pieces separates cs := if_pos h

theorem pieces_ordinary (separates : Char → Bool) (h : separates c = false) :
    pieces separates (c :: cs) = (pieces separates cs).modifyHead (c :: ·) :=
  if_neg (Bool.eq_false_iff.1 h)

theorem exists_pieces_eq_cons (separates : Char → Bool) (cs : List Char) :
    ∃ first rest, pieces separates cs = first :: rest := by
  induction cs with
  | nil => exact ⟨[], [], rfl⟩
  | cons c cs ih =>
    obtain ⟨first, rest, h⟩ := ih
    cases hc : separates c with
    | true => exact ⟨[], _, pieces_separator _ hc⟩
    | false => exact ⟨c :: first, rest, by rw [pieces_ordinary _ hc, h]; rfl⟩

/-- No piece has a separator. -/
theorem not_separates_of_mem_pieces (mem : piece ∈ pieces separates cs) (in_piece : c ∈ piece) :
    separates c = false := by
  induction cs generalizing piece with
  | nil =>
    obtain rfl := List.mem_singleton.1 mem
    cases in_piece
  | cons d cs ih =>
    cases hd : separates d with
    | true =>
      rw [pieces_separator _ hd] at mem
      rcases List.mem_cons.1 mem with rfl | mem
      · cases in_piece
      · exact ih mem in_piece
    | false =>
      obtain ⟨first, rest, h⟩ := exists_pieces_eq_cons separates cs
      rw [pieces_ordinary _ hd, h, List.modifyHead_cons] at mem
      rw [h] at ih
      rcases List.mem_cons.1 mem with rfl | mem
      · rcases List.mem_cons.1 in_piece with rfl | in_first
        · exact hd
        · exact ih List.mem_cons_self in_first
      · exact ih (List.mem_cons_of_mem _ mem) in_piece

/-- A text is what its pieces are joined to. -/
theorem intercalate_pieces (separator : Char) (cs : List Char) :
    List.intercalate [separator] (pieces (· == separator) cs) = cs := by
  induction cs with
  | nil => rfl
  | cons c cs ih =>
    obtain ⟨first, rest, h⟩ := exists_pieces_eq_cons (· == separator) cs
    cases hc : c == separator with
    | true =>
      rw [pieces_separator (· == separator) hc, h, List.intercalate_cons_cons, ← h, ih,
        eq_of_beq hc]
      rfl
    | false =>
      rw [pieces_ordinary (· == separator) hc, h, List.modifyHead_cons]
      rw [h] at ih
      cases rest with
      | nil => simpa using ih
      | cons second rest =>
        rw [List.intercalate_cons_cons] at ih ⊢
        rw [← ih]
        rfl

theorem pieces_of_not_mem (plain : separator ∉ cs) : pieces (· == separator) cs = [cs] := by
  induction cs with
  | nil => rfl
  | cons c cs ih =>
    have ordinary : (c == separator) = false :=
      beq_eq_false_iff_ne.2 fun same => plain (same ▸ List.mem_cons_self)
    rw [pieces_ordinary (· == separator) ordinary, ih fun mem => plain (List.mem_cons_of_mem _ mem)]
    rfl

/-- Cutting at a separator cuts what is before it and what is behind it. -/
theorem pieces_append (separates : Char → Bool) (h : separates c = true) (cs cs' : List Char) :
    pieces separates (cs ++ c :: cs') = pieces separates cs ++ pieces separates cs' := by
  induction cs with
  | nil => exact pieces_separator separates h
  | cons d cs ih =>
    rw [List.cons_append]
    cases hd : separates d with
    | true => rw [pieces_separator _ hd, ih, pieces_separator _ hd, List.cons_append]
    | false =>
      obtain ⟨first, rest, parts⟩ := exists_pieces_eq_cons separates cs
      rw [pieces_ordinary _ hd, ih, pieces_ordinary _ hd, parts]
      rfl

theorem pieces_append_separator (plain : separator ∉ piece) (cs : List Char) :
    pieces (· == separator) (piece ++ separator :: cs) = piece :: pieces (· == separator) cs := by
  rw [pieces_append (· == separator) (beq_self_eq_true separator), pieces_of_not_mem plain]
  rfl

/-- Texts without the separator are the pieces of what they are joined to. -/
theorem pieces_intercalate {texts : List (List Char)} (some_text : texts ≠ [])
    (plain : ∀ text ∈ texts, separator ∉ text) :
    pieces (· == separator) (List.intercalate [separator] texts) = texts := by
  induction texts with
  | nil => exact absurd rfl some_text
  | cons text texts ih =>
    cases texts with
    | nil =>
      rw [List.intercalate_singleton]
      exact pieces_of_not_mem (plain text List.mem_cons_self)
    | cons second texts =>
      rw [List.intercalate_cons_cons, List.append_assoc, List.singleton_append,
        pieces_append_separator (plain text List.mem_cons_self),
        ih (List.cons_ne_nil _ _) fun t mem => plain t (List.mem_cons_of_mem _ mem)]

end Pieces

end GatedMigration
