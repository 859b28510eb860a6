import GatedMigration.Proofs.Rereading

/-!
# A JSON text is read as the tree that was written

The compact and the pretty form of a text differ in where blanks stand, which is what a layout says
(`Json.Layout`, `Layout.text_compact`, `Layout.text_pretty`). If all numbers of a tree are integers
(`Json.Whole`), its text in any layout is read as the same tree by every reader
(`Layout.parseOnly_text`): an array and an object item by item, each of which is read as it was
written whatever follows it (`Json.Readable`).
-/

namespace GatedMigration.Json

/-! ## Layouts -/

/-- Where blanks stand in a text. -/
structure Layout where
  /-- What stands before the items of a level, and before the end of what has items one level
  deeper. -/
  gap : Nat → List Char
  /-- What stands behind a colon. -/
  space : List Char
  blank_gap : ∀ level, Blank (gap level)
  blank_space : Blank space

namespace Layout

/-- No blanks at all. -/
def compact : Layout := ⟨fun _ => [], [], fun _ => blank_nil, blank_nil⟩

/-- Each item on a line of its own, and a space behind a colon. -/
def pretty : Layout where
  gap := newLine
  space := [' ']
  blank_gap level := List.forall_mem_cons.2 ⟨rfl, fun _ mem => by
    rw [List.eq_of_mem_replicate mem]
    rfl⟩
  blank_space := List.forall_mem_singleton.2 rfl

section Text

variable (l : Layout)

mutual

/-- The text of a tree at a level. -/
def text (level : Nat) : Json → List Char
  | .array (j :: rest) =>
    '[' :: (l.gap (level + 1) ++ (text (level + 1) j ++ textItems level rest))
  | .object ((k, j) :: rest) =>
    '{' :: (l.gap (level + 1) ++ (quoted k ++ ':' ::
      (l.space ++ (text (level + 1) j ++ textFields level rest))))
  | .array [] => ['[', ']']
  | .object [] => ['{', '}']
  | .null => chars .null
  | .bool b => chars (.bool b)
  | .number n => chars (.number n)
  | .string s => chars (.string s)

/-- The items after the first, and the end of the array. -/
def textItems (level : Nat) : List Json → List Char
  | [] => l.gap level ++ [']']
  | j :: rest =>
    ',' :: (l.gap (level + 1) ++ (text (level + 1) j ++ textItems level rest))

/-- The fields after the first, and the end of the object. -/
def textFields (level : Nat) : List (String × Json) → List Char
  | [] => l.gap level ++ ['}']
  | (k, j) :: rest =>
    ',' :: (l.gap (level + 1) ++ (quoted k ++ ':' ::
      (l.space ++ (text (level + 1) j ++ textFields level rest))))

end

end Text

mutual

theorem text_compact (level : Nat) : ∀ j : Json, compact.text level j = chars j
  | .null | .bool _ | .number _ | .string _ => by rw [text]
  | .array [] | .object [] => by
    rw [text]
    rfl
  | .array (j :: rest) => by
    rw [text, text_compact _ j, textItems_compact _ rest]
    rfl
  | .object ((k, j) :: rest) => by
    rw [text, text_compact _ j, textFields_compact _ rest]
    rfl

theorem textItems_compact (level : Nat) : ∀ items : List Json,
    compact.textItems level items = charsItems items
  | [] => rfl
  | j :: rest => by
    rw [textItems, text_compact _ j, textItems_compact _ rest]
    rfl

theorem textFields_compact (level : Nat) : ∀ fields : List (String × Json),
    compact.textFields level fields = charsFields fields
  | [] => rfl
  | (k, j) :: rest => by
    rw [textFields, text_compact _ j, textFields_compact _ rest]
    rfl

end

mutual

theorem text_pretty (level : Nat) : ∀ j : Json, pretty.text level j = prettyChars level j
  | .null | .bool _ | .array [] | .object [] => by rw [text, prettyChars]
  | .number _ | .string _ => by
    rw [text, prettyChars]
    rfl
  | .array (j :: rest) => by
    rw [text, prettyChars, text_pretty _ j, textItems_pretty _ rest, List.append_assoc]
    rfl
  | .object ((k, j) :: rest) => by
    rw [text, prettyChars, text_pretty _ j, textFields_pretty _ rest]
    simp only [List.append_assoc]
    rfl

theorem textItems_pretty (level : Nat) : ∀ items : List Json,
    pretty.textItems level items = prettyItems level items
  | [] => rfl
  | j :: rest => by
    rw [textItems, prettyItems, text_pretty _ j, textItems_pretty _ rest, List.append_assoc]
    rfl

theorem textFields_pretty (level : Nat) : ∀ fields : List (String × Json),
    pretty.textFields level fields = prettyFields level fields
  | [] => rfl
  | (k, j) :: rest => by
    rw [textFields, prettyFields, text_pretty _ j, textFields_pretty _ rest]
    simp only [List.append_assoc]
    rfl

end

end Layout

/-! ## Values -/

/-- A tree in which every number is an integer in decimal. -/
inductive Whole : Json → Prop
  | null : Whole .null
  | bool (b : Bool) : Whole (.bool b)
  | int (n : Int) : Whole (.number (toString n))
  | string (s : String) : Whole (.string s)
  | array {items : List Json} : (∀ j ∈ items, Whole j) → Whole (.array items)
  | object {fields : List (String × Json)} : (∀ f ∈ fields, Whole f.2) → Whole (.object fields)

/-- A text is read as a tree, whatever follows that does not go on with a number. Twice its length
is fuel enough. -/
def Readable (text : List Char) (j : Json) : Prop :=
  ∀ (strict : Bool) (wanted : String → Bool) (fuel : Nat) (cs : List Char), Ends cs →
    2 * text.length ≤ fuel → readValue strict wanted fuel (text ++ cs) = some (j, cs)

namespace Layout

variable (l : Layout) (level : Nat)

theorem ends_textItems (items : List Json) (cs : List Char) :
    Ends (l.textItems level items ++ cs) := by
  cases items with
  | nil =>
    rw [textItems, List.append_assoc]
    exact ends_append (l.blank_gap level) (ends_of_head (by decide) _)
  | cons j rest => exact ends_of_head (by decide) _

theorem ends_textFields (fields : List (String × Json)) (cs : List Char) :
    Ends (l.textFields level fields ++ cs) := by
  cases fields with
  | nil =>
    rw [textFields, List.append_assoc]
    exact ends_append (l.blank_gap level) (ends_of_head (by decide) _)
  | cons f rest => exact ends_of_head (by decide) _

/-- No tree begins with a blank or with the end of an array. -/
theorem text_cons {j : Json} (whole : Whole j) :
    ∃ c cs, l.text level j = c :: cs ∧ isBlank c = false ∧ c ≠ ']' := by
  cases whole with
  | null => exact ⟨_, _, rfl, rfl, by decide⟩
  | bool b => cases b <;> exact ⟨_, _, rfl, rfl, by decide⟩
  | int n =>
    obtain ⟨c, cs, text, first⟩ := toString_int_cons n
    refine ⟨c, cs, text, ?_, ?_⟩
    · rcases first with digit | rfl
      · exact isBlank_of_isDigit digit
      · rfl
    · rcases first with digit | rfl
      · rintro rfl
        cases digit
      · decide
  | string s => exact ⟨_, _, rfl, rfl, by decide⟩
  | @array items _ => cases items <;> exact ⟨_, _, rfl, rfl, by decide⟩
  | @object fields _ => cases fields <;> exact ⟨_, _, rfl, rfl, by decide⟩

end Layout

section Parts

variable {strict : Bool} {wanted : String → Bool} {fuel : Nat} {j : Json}
variable {bs cs more : List Char}

theorem readItems_last (blank : Blank bs)
    (read : readValue strict (fun _ => true) fuel cs = some (j, bs ++ ']' :: more)) :
    readItems strict (fuel + 1) cs = some ([j], more) := by
  rw [readItems, read]
  simp only [skipBlanks_append blank]
  rfl

theorem readItems_cons (read : readValue strict (fun _ => true) fuel cs = some (j, ',' :: more)) :
    readItems strict (fuel + 1) cs =
      (readItems strict fuel more).map fun r => (j :: r.1, r.2) := by
  rw [readItems, read]
  rfl

theorem readFields_last {k : String} (blank : Blank bs)
    (read : readValue (strict && wanted k) (fun _ => true) fuel cs = some (j, bs ++ '}' :: more)) :
    readFields strict wanted (fuel + 1) (quoted k ++ ':' :: cs) = some ([(k, j)], more) := by
  simp only [readFields, quoted_append, skipBlanks_of_not (c := '"') rfl, readString_escaped,
    skipBlanks_of_not (c := ':') rfl, read, skipBlanks_append blank]
  rfl

theorem readFields_cons {k : String}
    (read : readValue (strict && wanted k) (fun _ => true) fuel cs = some (j, ',' :: more)) :
    readFields strict wanted (fuel + 1) (quoted k ++ ':' :: cs) =
      (readFields strict wanted fuel more).map fun r => ((k, j) :: r.1, r.2) := by
  simp only [readFields, quoted_append, skipBlanks_of_not (c := '"') rfl, readString_escaped,
    skipBlanks_of_not (c := ':') rfl, read]
  rfl

end Parts

namespace Layout

variable (l : Layout) (level : Nat)

theorem readItems_text {j : Json} {rest : List Json}
    (each : ∀ i ∈ j :: rest, Readable (l.text (level + 1) i) i)
    {strict : Bool} {fuel : Nat} {cs : List Char}
    (enough : 2 * ((l.text (level + 1) j).length + (l.textItems level rest).length) + 1 ≤ fuel) :
    readItems strict fuel (l.text (level + 1) j ++ (l.textItems level rest ++ cs)) =
      some (j :: rest, cs) := by
  -- Every further item takes one unit of fuel, and two are left over for its comma.
  induction rest generalizing j fuel with
  | nil =>
    obtain ⟨fuel, rfl⟩ := Nat.exists_eq_add_one_of_ne_zero (n := fuel) (by omega)
    have last := each j List.mem_cons_self strict (fun _ => true) fuel _
      (l.ends_textItems level [] cs) (by omega)
    rw [textItems, List.append_assoc] at last ⊢
    exact readItems_last (l.blank_gap level) last
  | cons i rest ih =>
    obtain ⟨fuel, rfl⟩ := Nat.exists_eq_add_one_of_ne_zero (n := fuel) (by omega)
    have first := each j List.mem_cons_self strict (fun _ => true) fuel _
      (l.ends_textItems level (i :: rest) cs) (by omega)
    simp only [textItems, List.cons_append, List.append_assoc] at first ⊢
    simp only [textItems, List.length_cons, List.length_append] at enough
    rw [readItems_cons first, readItems_skip _ _ _ (l.blank_gap _),
      ih (fun i mem => each i (List.mem_cons_of_mem _ mem)) (by omega)]
    rfl

theorem readFields_text {k : String} {j : Json} {rest : List (String × Json)}
    (each : ∀ f ∈ (k, j) :: rest, Readable (l.text (level + 1) f.2) f.2)
    {strict : Bool} {wanted : String → Bool} {fuel : Nat} {cs : List Char}
    (enough : 2 * ((l.text (level + 1) j).length + (l.textFields level rest).length) + 1 ≤ fuel) :
    readFields strict wanted fuel (quoted k ++ ':' ::
        (l.space ++ (l.text (level + 1) j ++ (l.textFields level rest ++ cs)))) =
      some ((k, j) :: rest, cs) := by
  induction rest generalizing k j fuel with
  | nil =>
    obtain ⟨fuel, rfl⟩ := Nat.exists_eq_add_one_of_ne_zero (n := fuel) (by omega)
    have read : Readable (l.text (level + 1) j) j := each (k, j) List.mem_cons_self
    have last := read (strict && wanted k) (fun _ => true) fuel _
      (l.ends_textFields level [] cs) (by omega)
    rw [textFields, List.append_assoc, ← readValue_skip _ _ _ _ l.blank_space] at last
    rw [textFields, List.append_assoc]
    exact readFields_last (l.blank_gap level) last
  | cons f rest ih =>
    obtain ⟨k', i⟩ := f
    obtain ⟨fuel, rfl⟩ := Nat.exists_eq_add_one_of_ne_zero (n := fuel) (by omega)
    have read : Readable (l.text (level + 1) j) j := each (k, j) List.mem_cons_self
    have first := read (strict && wanted k) (fun _ => true) fuel _
      (l.ends_textFields level ((k', i) :: rest) cs) (by omega)
    rw [← readValue_skip _ _ _ _ l.blank_space] at first
    simp only [textFields, List.cons_append, List.append_assoc] at first ⊢
    simp only [textFields, List.length_cons, List.length_append] at enough
    rw [readFields_cons first, readFields_skip _ _ _ _ (l.blank_gap _),
      ih (fun f mem => each f (List.mem_cons_of_mem _ mem)) (by omega)]
    rfl

/-- A text has a first character, so that some fuel is there if twice its length is. -/
theorem readable_of {j : Json} (whole : Whole j)
    (read : ∀ (strict : Bool) (wanted : String → Bool) (fuel : Nat) (cs : List Char), Ends cs →
      2 * (l.text level j).length ≤ fuel + 1 →
        readValue strict wanted (fuel + 1) (l.text level j ++ cs) = some (j, cs)) :
    Readable (l.text level j) j := by
  intro strict wanted fuel cs ends enough
  obtain ⟨c, text, first, -⟩ := l.text_cons level whole
  have pos : 0 < (l.text level j).length := by
    rw [first]
    exact Nat.succ_pos _
  obtain ⟨fuel, rfl⟩ := Nat.exists_eq_add_one_of_ne_zero (n := fuel) (by omega)
  exact read strict wanted fuel cs ends enough

theorem readable_array {items : List Json} (whole : ∀ j ∈ items, Whole j)
    (each : ∀ j ∈ items, Readable (l.text (level + 1) j) j) :
    Readable (l.text level (.array items)) (.array items) := by
  refine l.readable_of level (.array whole) fun strict wanted fuel cs _ enough => ?_
  cases items with
  | nil => rfl
  | cons j rest =>
    obtain ⟨c, more, first, visible, other⟩ := l.text_cons (level + 1) (whole j List.mem_cons_self)
    have read : readItems strict fuel
        (l.text (level + 1) j ++ (l.textItems level rest ++ cs)) = some (j :: rest, cs) := by
      simp only [text, List.length_cons, List.length_append] at enough
      exact l.readItems_text level each (by omega)
    simp only [text, List.cons_append, List.append_assoc]
    rw [readValue, skipBlanks_of_not (c := '[') rfl]
    simp only [skipBlanks_append (l.blank_gap _), readItems_skip _ _ _ (l.blank_gap _), read]
    rw [first, List.cons_append, skipBlanks_of_not visible]
    split
    · rename_i same
      exact absurd (List.cons.inj same).1 other
    · rfl

theorem readable_object {fields : List (String × Json)} (whole : ∀ f ∈ fields, Whole f.2)
    (each : ∀ f ∈ fields, Readable (l.text (level + 1) f.2) f.2) :
    Readable (l.text level (.object fields)) (.object fields) := by
  refine l.readable_of level (.object whole) fun strict wanted fuel cs _ enough => ?_
  cases fields with
  | nil => rfl
  | cons f rest =>
    obtain ⟨k, j⟩ := f
    have read : readFields strict wanted fuel (quoted k ++ ':' ::
        (l.space ++ (l.text (level + 1) j ++ (l.textFields level rest ++ cs)))) =
        some ((k, j) :: rest, cs) := by
      simp only [text, List.length_cons, List.length_append] at enough
      exact l.readFields_text level each (by omega)
    simp only [text, List.cons_append, List.append_assoc]
    rw [readValue, skipBlanks_of_not (c := '{') rfl]
    simp only [skipBlanks_append (l.blank_gap _), readFields_skip _ _ _ _ (l.blank_gap _), read]
    rw [quoted_append, skipBlanks_of_not (c := '"') rfl]
    rfl

theorem readable {j : Json} (whole : Whole j) : Readable (l.text level j) j := by
  induction whole generalizing level with
  | array whole each => exact l.readable_array level whole fun j mem => each j mem (level + 1)
  | object whole each => exact l.readable_object level whole fun f mem => each f mem (level + 1)
  | null => exact l.readable_of level .null fun _ _ _ _ _ _ => rfl
  | bool b => cases b <;> exact l.readable_of level (.bool _) fun _ _ _ _ _ _ => rfl
  | string s =>
    refine l.readable_of level (.string s) fun strict wanted fuel cs _ _ => ?_
    rw [text, chars, quoted_append, readValue, skipBlanks_of_not (c := '"') rfl]
    simp only [readString_escaped]
    rfl
  | int n =>
    refine l.readable_of level (.int n) fun strict wanted fuel cs ends _ => ?_
    obtain ⟨c, more, chars_eq, first⟩ := toString_int_cons n
    have read := readNumber_int n ends
    rw [chars_eq, List.cons_append] at read
    rw [text, chars, chars_eq, List.cons_append, readValue_number first, read, ← chars_eq,
      Option.map_some, String.ofList_toList]

/-- A text in any layout is read as the tree that was written. -/
theorem parseOnly_text {j : Json} (whole : Whole j) (wanted : String → Bool) :
    parseOnly wanted (String.ofList (l.text level j)) = some j := by
  have read := l.readable level whole true wanted (2 * (l.text level j).length + 2) []
    (by rintro _ ⟨⟩) (by omega)
  rw [List.append_nil] at read
  rw [parseOnly, String.toList_ofList, read]
  rfl

end Layout

theorem parseOnly_compact {j : Json} (whole : Whole j) (wanted : String → Bool) :
    parseOnly wanted j.compact = some j := by
  rw [Json.compact, ← Layout.text_compact 0]
  exact Layout.compact.parseOnly_text 0 whole wanted

theorem parse_compact {j : Json} (whole : Whole j) : parse j.compact = some j :=
  parseOnly_compact whole _

theorem parse_pretty {j : Json} (whole : Whole j) : parse j.pretty = some j := by
  rw [Json.pretty, ← Layout.text_pretty]
  exact Layout.pretty.parseOnly_text 0 whole _

end GatedMigration.Json
