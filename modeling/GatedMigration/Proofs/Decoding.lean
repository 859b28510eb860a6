import GatedMigration.Proofs.Layouts
import GatedMigration.Proofs.Likeness
import GatedMigration.Selector
import Mathlib.Data.List.TakeWhile

/-!
# Values and selectors are read back from their texts

A value without doubles is written as a tree whose numbers are all integers, and the tree stands for
no other value: an integer of 64 bits is read as an integer (`Value.ofNumber?_toString`), and a map
has its names in order, as reading puts them (`Keyed.ofList_eq_self`). So the text of such a value
is read as the value itself, if it is not nested too deep to be read at all (`Value.parse?_json`).
A selector's text is that of a map, which is one level more than its conditions have
(`Selector.parse?_display`).

* `Value.json_read_back`: which values and selectors without doubles are read back from their texts.
-/

namespace GatedMigration

/-! ## Integers -/

theorem NumberLiteral.ofUnsigned_nat (negative : Bool) (n : Nat) :
    ofUnsigned negative (Nat.toDigits 10 n) = ⟨negative, n, 0, true⟩ := by
  have digits := Json.isDigit_of_mem_toDigits (n := n)
  rw [ofUnsigned, List.takeWhile_eq_self_iff.2 digits, List.dropWhile_eq_nil_iff.2 digits]
  simp [Nat.ofDigitChars_ten_toDigits]

theorem NumberLiteral.ofChars_int (n : Int) :
    ofChars (toString n).toList = ⟨decide (n < 0), n.natAbs, 0, true⟩ := by
  rcases Json.toList_toString_int n with ⟨sign, unsigned⟩ | ⟨sign, signed⟩
  · rw [unsigned, decide_eq_false (Int.not_lt.2 sign), ← ofUnsigned_nat]
    have digit {c : Char} {cs : List Char} (first : Nat.toDigits 10 n.natAbs = c :: cs) :
        c.isDigit = true := Json.isDigit_of_mem_toDigits c (first ▸ List.mem_cons_self)
    unfold ofChars
    split
    · cases digit ‹_›
    · cases digit ‹_›
    · rfl
  · rw [signed, decide_eq_true sign, ← ofUnsigned_nat]
    rfl

namespace Value

theorem ofNumber?_toString (n : Int64) : ofNumber? (toString n.toInt) = some (.int n) := by
  have whole : NumberLiteral.toInt ⟨decide (n.toInt < 0), n.toInt.natAbs, 0, true⟩ = n.toInt := by
    simp only [NumberLiteral.toInt, decide_eq_true_eq]
    split <;> omega
  have regular : ¬(decide (n.toInt < 0) = true ∧ n.toInt.natAbs = 0) := by
    simp only [decide_eq_true_eq]
    omega
  unfold ofNumber?
  rw [NumberLiteral.ofChars_int]
  dsimp only
  rw [if_pos ⟨rfl, regular⟩, whole, if_pos ⟨n.minValue_le_toInt, n.toInt_le⟩, Int64.ofInt_toInt]

/-! ## Trees -/

/-- The value is no double. -/
def NoDouble (v : Value) : Prop := ∀ x, v ≠ .number x

mutual

/-- How many lists and maps stand one inside the other. -/
def nesting : Value → Nat
  | .array items => nestingItems items + 1
  | .map fields => nestingFields fields + 1
  | _ => 0

/-- The nesting of the deepest item. -/
def nestingItems : List Value → Nat
  | [] => 0
  | v :: rest => max (nesting v) (nestingItems rest)

/-- The nesting of the deepest field. -/
def nestingFields : List (String × Value) → Nat
  | [] => 0
  | (_, v) :: rest => max (nesting v) (nestingFields rest)

end

theorem nestingFields_le_iff {fields : List (String × Value)} {n : Nat} :
    nestingFields fields ≤ n ↔ ∀ f ∈ fields, f.2.nesting ≤ n := by
  induction fields with
  | nil => simp [nestingFields]
  | cons f rest ih => rw [nestingFields, Nat.max_le, ih, List.forall_mem_cons]

theorem nestingItems_le_iff {items : List Value} {n : Nat} :
    nestingItems items ≤ n ↔ ∀ v ∈ items, v.nesting ≤ n := by
  induction items with
  | nil => simp [nestingItems]
  | cons v rest ih => rw [nestingItems, Nat.max_le, ih, List.forall_mem_cons]

theorem toJsonItems_eq_map (items : List Value) : toJsonItems items = items.map toJson := by
  induction items with
  | nil => rfl
  | cons v rest ih => rw [toJsonItems, ih, List.map_cons]

theorem toJsonFields_eq_map (fields : List (String × Value)) :
    toJsonFields fields = fields.map fun f => (f.1, f.2.toJson) := by
  induction fields with
  | nil => rfl
  | cons f rest ih => rw [toJsonFields, ih, List.map_cons]

theorem whole_toJson {v : Value} (plain : v.Every NoDouble) : v.toJson.Whole := by
  induction plain with
  | @array items _ _ each =>
    rw [toJson, toJsonItems_eq_map]
    refine .array fun j mem => ?_
    obtain ⟨v, inside, rfl⟩ := List.mem_map.1 mem
    exact each v inside
  | @map fields _ _ each =>
    rw [toJson, toJsonFields_eq_map]
    refine .object fun f mem => ?_
    obtain ⟨f, inside, rfl⟩ := List.mem_map.1 mem
    exact each f inside
  | @scalar v scalar noDouble =>
    cases v with
    | null => exact .null
    | bool b => exact .bool b
    | int n => exact .int n.toInt
    | number x => exact absurd rfl (noDouble x)
    | string s => exact .string s
    | array => cases scalar
    | map => cases scalar

theorem ofItems?_map {items : List Value} (each : ∀ v ∈ items, ofTree? v.toJson = some v) :
    ofItems? (items.map toJson) = some items := by
  induction items with
  | nil => rfl
  | cons v rest ih =>
    rw [List.map_cons, ofItems?, each v List.mem_cons_self,
      ih fun w mem => each w (List.mem_cons_of_mem _ mem)]

theorem ofFields?_map {fields : List (String × Value)}
    (each : ∀ f ∈ fields, ofTree? f.2.toJson = some f.2) :
    ofFields? (fields.map fun f => (f.1, f.2.toJson)) = some fields := by
  induction fields with
  | nil => rfl
  | cons f rest ih =>
    rw [List.map_cons, ofFields?, each f List.mem_cons_self,
      ih fun g mem => each g (List.mem_cons_of_mem _ mem)]

theorem ofTree?_toJson {v : Value} (ordered : v.Every InOrder) (plain : v.Every NoDouble) :
    ofTree? v.toJson = some v := by
  induction ordered with
  | @array items _ _ ih =>
    have each := fun v mem => ih v mem ((every_array_iff.1 plain).2 v mem)
    rw [toJson, toJsonItems_eq_map, ofTree?, ofItems?_map each]
    rfl
  | @map fields ascending _ ih =>
    have each := fun f mem => ih f mem ((every_map_iff.1 plain).2 f mem)
    rw [toJson, toJsonFields_eq_map, ofTree?, ofFields?_map each, Option.map_some,
      Keyed.ofList_eq_self ascending]
  | @scalar v scalar _ =>
    cases v with
    | int n => exact ofNumber?_toString n
    | number x => exact absurd rfl (plain.self x)
    | array => cases scalar
    | map => cases scalar
    | _ => rfl

/-! ## Texts -/

mutual

theorem nesting_toJson : ∀ v : Value, v.toJson.nesting = v.nesting
  | .null | .bool _ | .int _ | .string _ => rfl
  | .number x => by
    rw [toJson]
    split <;> rfl
  | .array items => by rw [toJson, Json.nesting, nesting, nestingItems_toJson items]
  | .map fields => by rw [toJson, Json.nesting, nesting, nestingFields_toJson fields]

theorem nestingItems_toJson : ∀ items : List Value,
    Json.nestingItems (toJsonItems items) = nestingItems items
  | [] => rfl
  | v :: rest => by
    rw [toJsonItems, Json.nestingItems, nestingItems, nesting_toJson v, nestingItems_toJson rest]

theorem nestingFields_toJson : ∀ fields : List (String × Value),
    Json.nestingFields (toJsonFields fields) = nestingFields fields
  | [] => rfl
  | (_, v) :: rest => by
    rw [toJsonFields, Json.nestingFields, nestingFields, nesting_toJson v,
      nestingFields_toJson rest]

end

/-- A map is nested one level more than its fields. -/
theorem nesting_map_lt_iff {fields : List (String × Value)} :
    (map fields).nesting < 128 ↔ ∀ f ∈ fields, f.2.nesting < 127 := by
  calc (map fields).nesting < 128 ↔ nestingFields fields ≤ 126 := by
        rw [nesting]
        omega
    _ ↔ ∀ f ∈ fields, f.2.nesting ≤ 126 := nestingFields_le_iff
    _ ↔ ∀ f ∈ fields, f.2.nesting < 127 := forall₂_congr fun _ _ => Nat.lt_succ_iff.symm

/-- The text of a value is read as the value, unless it is nested too deep. -/
theorem parse?_json {v : Value} (ordered : v.Every InOrder) (plain : v.Every NoDouble) :
    parse? v.json = if v.nesting < 128 then some v else none := by
  rw [parse?, json, Json.parse_compact (whole_toJson plain), Option.bind_some, ofJson?,
    nesting_toJson, ofTree?_toJson ordered plain]
  exact ite_congr (propext Nat.lt_succ_iff.symm) (fun _ => rfl) fun _ => rfl

end Value

/-- The text of a selector is read as the selector, unless a condition is nested too deep. -/
theorem Selector.parse?_display {s : Selector} (ordered : (Value.map s.entries).Every Value.InOrder)
    (plain : (Value.map s.entries).Every Value.NoDouble) :
    parse? s.display = if ∀ e ∈ s.entries, e.2.nesting < 127 then some s else none := by
  rw [parse?, display, Value.parse?_json ordered plain]
  simp only [Value.nesting_map_lt_iff]
  split <;> rfl

namespace Value

theorem display_eq_json {v : Value} (inner : v.isScalar = false) : v.display = v.json := by
  cases v with
  | array => rfl
  | map => rfl
  | _ => cases inner

/-- A value without doubles is read back from its JSON text, which is what is displayed of a list or
a map, just if it is nested fewer than 128 levels; a selector without doubles is read back from what
is displayed of it just if its conditions are nested fewer than 127 levels. What is nested deeper is
not read at all. -/
theorem json_read_back :
    (∀ v : Value, v.Every InOrder → v.Every NoDouble →
      parse? v.json = (if v.nesting < 128 then some v else none) ∧
        (v.isScalar = false → v.display = v.json)) ∧
    ∀ s : Selector, (map s.entries).Every InOrder → (map s.entries).Every NoDouble →
      Selector.parse? s.display = if ∀ e ∈ s.entries, e.2.nesting < 127 then some s else none :=
  ⟨fun _ ordered plain => ⟨parse?_json ordered plain, display_eq_json⟩,
    fun _ ordered plain => Selector.parse?_display ordered plain⟩

end Value

namespace Sample

/-- A map with the extreme integers and with characters that are escaped in its text. -/
def parcel : Value := .map [
  ("\x00\"", .array [.int Int64.minValue, .string "a\\b\n\x1b", .null]),
  ("né", .array [.array [], .int Int64.maxValue, .bool true])]

/-- A selector with the map as its one condition. -/
def sent : Selector := ⟨[("parcel", parcel)]⟩

/-- A list in a list, and so on. -/
def tower : Nat → Value
  | 0 => .null
  | n + 1 => .array [tower n]

/-- A selector whose one condition is as deep as a text may be. -/
def highest : Selector := ⟨[("at", tower 127)]⟩

theorem every_tower {p : Value → Prop} (each : ∀ n, p (tower n)) (n : Nat) :
    (tower n).Every p := by
  induction n with
  | zero => exact .scalar rfl (each 0)
  | succ n ih => exact Value.every_array_iff.2 ⟨each (n + 1), List.forall_mem_singleton.2 ih⟩

theorem nesting_tower (n : Nat) : (tower n).nesting = n := by
  induction n with
  | zero => rfl
  | succ n ih => rw [tower, Value.nesting, Value.nestingItems, ih, Value.nestingItems, Nat.max_zero]

end Sample

namespace Value

theorem parcel_read_back :
    Sample.parcel.Every InOrder ∧ Sample.parcel.Every NoDouble ∧
    parse? Sample.parcel.json = some Sample.parcel ∧ Sample.parcel.display = Sample.parcel.json ∧
    Selector.parse? Sample.sent.display = some Sample.sent := by
  have ordered : Sample.parcel.Every InOrder := by
    simp only [Sample.parcel, every_map_iff, every_array_iff, List.forall_mem_cons]
    exact ⟨List.pairwise_pair.2 (by decide),
      ⟨trivial, .scalar rfl trivial, .scalar rfl trivial, .scalar rfl trivial, nofun⟩,
      ⟨trivial, ⟨trivial, nofun⟩, .scalar rfl trivial, .scalar rfl trivial, nofun⟩, nofun⟩
  have plain : Sample.parcel.Every NoDouble := by
    simp only [Sample.parcel, every_map_iff, every_array_iff, List.forall_mem_cons]
    exact ⟨nofun,
      ⟨nofun, .scalar rfl nofun, .scalar rfl nofun, .scalar rfl nofun, nofun⟩,
      ⟨nofun, ⟨nofun, nofun⟩, .scalar rfl nofun, .scalar rfl nofun, nofun⟩, nofun⟩
  have sent_ordered : (map Sample.sent.entries).Every InOrder :=
    every_map_iff.2 ⟨List.pairwise_singleton _ _, List.forall_mem_singleton.2 ordered⟩
  have sent_plain : (map Sample.sent.entries).Every NoDouble :=
    every_map_iff.2 ⟨nofun, List.forall_mem_singleton.2 plain⟩
  obtain ⟨read, shown⟩ := json_read_back.1 Sample.parcel ordered plain
  have sent := json_read_back.2 Sample.sent sent_ordered sent_plain
  exact ⟨ordered, plain, read, shown rfl, sent⟩

/-- A condition that could be read by itself is too deep inside a selector. -/
theorem highest_not_read_back :
    (map Sample.highest.entries).Every InOrder ∧ (map Sample.highest.entries).Every NoDouble ∧
    (∀ e ∈ Sample.highest.entries, e.2.nesting < 128) ∧
    Selector.parse? Sample.highest.display = none := by
  have ordered : (map Sample.highest.entries).Every InOrder :=
    every_map_iff.2 ⟨List.pairwise_singleton _ _, List.forall_mem_singleton.2
      (Sample.every_tower (fun n => by cases n <;> trivial) 127)⟩
  have plain : (map Sample.highest.entries).Every NoDouble :=
    every_map_iff.2 ⟨nofun, List.forall_mem_singleton.2
      (Sample.every_tower (fun n => by cases n <;> exact nofun) 127)⟩
  have deep : ¬∀ e ∈ Sample.highest.entries, e.2.nesting < 127 := fun each =>
    absurd (each _ List.mem_cons_self) (by rw [Sample.nesting_tower]; decide)
  refine ⟨ordered, plain, fun e mem => ?_, ?_⟩
  · rw [List.mem_singleton.1 mem, Sample.nesting_tower]
    decide
  · rw [Selector.parse?_display ordered plain, if_neg deep]

end Value

end GatedMigration
