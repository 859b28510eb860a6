import GatedMigration.Proofs.Condition

/-!
# When values are alike

Two values are alike if they have the same shape and agree in all their scalars, where numbers agree
if they are equal as numbers, however they are written (`Value.Alike`). The equality that looks for
the same scalars (`==`) holds of two values just if they are alike and at no place an integer stands
in one of them where a double stands in the other (`Value.beq_iff`). The equality of selectors
(`Value.sameAs`) overlooks such a place only if it is the whole of the two values.

* `Value.sameAs_exact`: what this equality says, and when it says that two values are alike.
-/

namespace GatedMigration

namespace Value

/-! ## Places in a value -/

/-- A step from a value to one inside it. -/
inductive Step where
  | item (i : Nat)
  | field (name : String)

/-- The value that a step leads to. -/
def step? : Step → Value → Option Value
  | .item i, .array items => items[i]?
  | .field name, .map fields => Keyed.find? name fields
  | _, _ => none

/-- The value at the place that some steps lead to. -/
def at? : List Step → Value → Option Value
  | [], v => some v
  | s :: place, v => (v.step? s).bind (at? place)

/-- A value that has no other values inside. -/
def isScalar : Value → Bool
  | .null | .bool _ | .int _ | .number _ | .string _ => true
  | .array _ | .map _ => false

/-- A statement holds of a value and of all values inside it. -/
inductive Every (p : Value → Prop) : Value → Prop
  | scalar {v : Value} : v.isScalar = true → p v → Every p v
  | array {items : List Value} : p (.array items) → (∀ v ∈ items, Every p v) →
      Every p (.array items)
  | map {fields : List (String × Value)} : p (.map fields) → (∀ f ∈ fields, Every p f.2) →
      Every p (.map fields)

theorem Every.self {p : Value → Prop} {v : Value} (h : v.Every p) : p v := by
  cases h <;> assumption

theorem every_array_iff {p : Value → Prop} {items : List Value} :
    (Value.array items).Every p ↔ p (.array items) ∧ ∀ v ∈ items, v.Every p := by
  constructor
  · intro h
    cases h with
    | scalar scalar => cases scalar
    | array whole each => exact ⟨whole, each⟩
  · rintro ⟨whole, each⟩
    exact .array whole each

theorem every_map_iff {p : Value → Prop} {fields : List (String × Value)} :
    (Value.map fields).Every p ↔ p (.map fields) ∧ ∀ f ∈ fields, f.2.Every p := by
  constructor
  · intro h
    cases h with
    | scalar scalar => cases scalar
    | map whole each => exact ⟨whole, each⟩
  · rintro ⟨whole, each⟩
    exact .map whole each

/-- The names of a map stand in ascending order, as a map is kept. -/
def InOrder : Value → Prop
  | .map fields => Keyed.Ascending fields
  | _ => True

/-! ## Alike values -/

/-- An integer or a double. -/
def isNumber : Value → Bool
  | .int _ => true
  | .number _ => true
  | _ => false

/-- Two values have the same shape and agree in all their scalars; numbers agree if they are equal
as numbers. -/
inductive Alike : Value → Value → Prop
  | null : Alike .null .null
  | bool (b : Bool) : Alike (.bool b) (.bool b)
  | string (s : String) : Alike (.string s) (.string s)
  | numbers {a b : Value} : a.isNumber = true → b.isNumber = true → a.compare? b = some .eq →
      Alike a b
  | array {as bs : List Value} : as.length = bs.length →
      (∀ (i : Nat) a b, as[i]? = some a → bs[i]? = some b → Alike a b) →
      Alike (.array as) (.array bs)
  | map {as bs : List (String × Value)} : (∀ k, k ∈ Keyed.keys as ↔ k ∈ Keyed.keys bs) →
      (∀ k a b, Keyed.find? k as = some a → Keyed.find? k bs = some b → Alike a b) →
      Alike (.map as) (.map bs)

/-- At a place in two values, one has an integer and the other a double. -/
def MixedAt (a b : Value) (place : List Step) : Prop :=
  ∃ n x, a.at? place = some (.int n) ∧ b.at? place = some (.number x) ∨
    a.at? place = some (.number x) ∧ b.at? place = some (.int n)

/-- At no place in two values one has an integer and the other a double. -/
def Unmixed (a b : Value) : Prop := ∀ place, ¬MixedAt a b place

variable {a b : Value} {as bs : List Value} {fs gs : List (String × Value)}

theorem alike_array_iff : Alike (.array as) (.array bs) ↔ as.length = bs.length ∧
    ∀ (i : Nat) a b, as[i]? = some a → bs[i]? = some b → Alike a b := by
  constructor
  · intro h
    cases h with
    | numbers h => cases h
    | array length each => exact ⟨length, each⟩
  · rintro ⟨length, each⟩
    exact .array length each

theorem alike_map_iff : Alike (.map fs) (.map gs) ↔
    (∀ k, k ∈ Keyed.keys fs ↔ k ∈ Keyed.keys gs) ∧
      ∀ k a b, Keyed.find? k fs = some a → Keyed.find? k gs = some b → Alike a b := by
  constructor
  · intro h
    cases h with
    | numbers h => cases h
    | map keys each => exact ⟨keys, each⟩
  · rintro ⟨keys, each⟩
    exact .map keys each

theorem mixedAt_cons {s : Step} {place : List Step} : MixedAt a b (s :: place) ↔
    ∃ a' b', a.step? s = some a' ∧ b.step? s = some b' ∧ MixedAt a' b' place := by
  simp only [MixedAt, at?]
  cases a.step? s <;> cases b.step? s <;> simp

theorem step?_of_isScalar (h : a.isScalar = true) (s : Step) : a.step? s = none := by
  cases s <;> cases a <;> first | rfl | cases h

/-- Nothing is mixed inside a scalar. -/
theorem not_mixedAt_of_isScalar (h : a.isScalar = true) {place : List Step} (inside : place ≠ []) :
    ¬MixedAt a b place := by
  cases place with
  | nil => exact absurd rfl inside
  | cons s place =>
    rw [mixedAt_cons, step?_of_isScalar h]
    rintro ⟨_, _, step, -⟩
    cases step

theorem unmixed_array_iff : Unmixed (.array as) (.array bs) ↔
    ∀ (i : Nat) a b, as[i]? = some a → bs[i]? = some b → Unmixed a b := by
  constructor
  · intro unmixed i a b ha hb place mixed
    exact unmixed (.item i :: place) (mixedAt_cons.2 ⟨a, b, ha, hb, mixed⟩)
  · rintro each (_ | ⟨_ | _, place⟩) mixed
    · obtain ⟨_, _, ⟨int, -⟩ | ⟨number, -⟩⟩ := mixed
      · cases int
      · cases number
    · obtain ⟨a, b, ha, hb, mixed⟩ := mixedAt_cons.1 mixed
      exact each _ a b ha hb place mixed
    · obtain ⟨_, _, ha, -⟩ := mixedAt_cons.1 mixed
      cases ha

theorem unmixed_map_iff : Unmixed (.map fs) (.map gs) ↔
    ∀ k a b, Keyed.find? k fs = some a → Keyed.find? k gs = some b → Unmixed a b := by
  constructor
  · intro unmixed k a b ha hb place mixed
    exact unmixed (.field k :: place) (mixedAt_cons.2 ⟨a, b, ha, hb, mixed⟩)
  · rintro each (_ | ⟨_ | _, place⟩) mixed
    · obtain ⟨_, _, ⟨int, -⟩ | ⟨number, -⟩⟩ := mixed
      · cases int
      · cases number
    · obtain ⟨_, _, ha, -⟩ := mixedAt_cons.1 mixed
      cases ha
    · obtain ⟨a, b, ha, hb, mixed⟩ := mixedAt_cons.1 mixed
      exact each _ a b ha hb place mixed

/-! ## Equality within one kind -/

theorem beqItems_iff : beqItems as bs = true ↔ as.length = bs.length ∧
    ∀ (i : Nat) a b, as[i]? = some a → bs[i]? = some b → (a == b) = true := by
  induction as generalizing bs with
  | nil => cases bs <;> simp [beqItems]
  | cons a as ih =>
    cases bs with
    | nil => simp [beqItems]
    | cons b bs =>
      rw [beqItems, Bool.and_eq_true, ih]
      constructor
      · rintro ⟨head, length, each⟩
        refine ⟨congrArg Nat.succ length, fun i => ?_⟩
        cases i with
        | zero =>
          rintro _ _ ⟨⟩ ⟨⟩
          exact head
        | succ i => exact each i
      · rintro ⟨length, each⟩
        exact ⟨each 0 a b rfl rfl, Nat.succ.inj length, fun i => each (i + 1)⟩

theorem beqFields_iff_keys (hf : Keyed.Ascending fs) :
    beqFields fs gs = true ↔ Keyed.keys fs = Keyed.keys gs ∧
      ∀ k a b, Keyed.find? k fs = some a → Keyed.find? k gs = some b → (a == b) = true := by
  induction fs generalizing gs with
  | nil => cases gs <;> simp [beqFields]
  | cons f fs ih =>
    obtain ⟨k, a⟩ := f
    obtain ⟨above, hf⟩ := List.pairwise_cons.1 hf
    cases gs with
    | nil => simp [beqFields]
    | cons g gs =>
      obtain ⟨l, b⟩ := g
      rw [beqFields, Bool.and_eq_true, Bool.and_eq_true, beq_iff_eq, ih hf, Keyed.keys_cons,
        Keyed.keys_cons, List.cons.injEq]
      constructor
      · rintro ⟨rfl, head, keys, each⟩
        refine ⟨⟨rfl, keys⟩, fun k' a' b' found found' => ?_⟩
        rw [Keyed.find?_cons] at found found'
        split at found
        · rename_i self
          rw [if_pos self] at found'
          cases found
          cases found'
          exact head
        · rename_i other
          rw [if_neg other] at found'
          exact each k' a' b' found found'
      · rintro ⟨⟨rfl, keys⟩, each⟩
        have self {v : Value} {m : List (String × Value)} :
            Keyed.find? k ((k, v) :: m) = some v := if_pos rfl
        refine ⟨rfl, each k a b self self, keys, fun k' a' b' found found' => ?_⟩
        -- The first name is less than the others, so these are found behind it.
        have other : k' ≠ k := by
          rintro rfl
          have mem := Keyed.find?_isSome_iff.1 (Option.isSome_of_mem found)
          exact String.lt_irrefl _ (above _ mem)
        refine each k' a' b' ?_ ?_
        · rw [Keyed.find?_cons, if_neg other, found]
        · rw [Keyed.find?_cons, if_neg other, found']

theorem beqFields_iff (hf : Keyed.Ascending fs) (hg : Keyed.Ascending gs) :
    beqFields fs gs = true ↔ (∀ k, k ∈ Keyed.keys fs ↔ k ∈ Keyed.keys gs) ∧
      ∀ k a b, Keyed.find? k fs = some a → Keyed.find? k gs = some b → (a == b) = true := by
  rw [beqFields_iff_keys hf]
  refine and_congr_left fun _ => ⟨fun same k => by rw [same], fun same => ?_⟩
  have sets : (⟨Keyed.keys fs, hf⟩ : IdSet) = ⟨Keyed.keys gs, hg⟩ := IdSet.ext_mem same
  exact congrArg IdSet.toList sets

theorem beq_array : (Value.array as == Value.array bs) = beqItems as bs := rfl

theorem beq_map : (Value.map fs == Value.map gs) = beqFields fs gs := rfl

theorem isNumber_iff : a.isNumber = true ↔ (∃ n, a = .int n) ∨ ∃ x, a = .number x := by
  cases a <;> simp [isNumber]

theorem int_eq_iff {n m : Int64} : n = m ↔ Value.compare? (.int n) (.int m) = some .eq := by
  rw [compare?, Option.some.injEq, Std.LawfulEqCmp.compare_eq_iff_eq, Int64.toInt_inj]

theorem number_beq_iff {x y : Binary64} :
    (Value.number x == Value.number y) = true ↔
      Value.compare? (.number x) (.number y) = some .eq :=
  beq_iff_eq (α := Option Ordering)

/-- What is said of the values that two collections have at the same places may be said in parts. -/
theorem forall_places_and {ι : Type} {p q : ι → Value → Prop} {r s t : Value → Value → Prop}
    (each : ∀ i a b, p i a → q i b → (r a b ↔ s a b ∧ t a b)) :
    (∀ i a b, p i a → q i b → r a b) ↔
      (∀ i a b, p i a → q i b → s a b) ∧ ∀ i a b, p i a → q i b → t a b := by
  constructor
  · intro all
    exact ⟨fun i a b ha hb => ((each i a b ha hb).1 (all i a b ha hb)).1,
      fun i a b ha hb => ((each i a b ha hb).1 (all i a b ha hb)).2⟩
  · rintro ⟨left, right⟩ i a b ha hb
    exact (each i a b ha hb).2 ⟨left i a b ha hb, right i a b ha hb⟩

theorem unmixed_of_isScalar (scalar : a.isScalar = true) (top : ¬MixedAt a b []) : Unmixed a b := by
  intro place
  by_cases inside : place = []
  · rw [inside]
    exact top
  · exact not_mixedAt_of_isScalar scalar inside

theorem beq_iff_of_isScalar (scalar : a.isScalar = true) :
    (a == b) = true ↔ Alike a b ∧ Unmixed a b := by
  constructor
  · intro same
    refine ⟨?_, unmixed_of_isScalar scalar ?_⟩
    · cases a <;> cases b <;> first | cases same | cases scalar
      · exact .null
      · rw [eq_of_beq (α := Bool) same]
        exact .bool _
      · exact .numbers rfl rfl (int_eq_iff.1 (eq_of_beq (α := Int64) same))
      · exact .numbers rfl rfl (number_beq_iff.1 same)
      · rw [eq_of_beq (α := String) same]
        exact .string _
    · rintro ⟨n, x, ⟨int, number⟩ | ⟨number, int⟩⟩
      all_goals
        cases int
        cases number
        cases same
  · rintro ⟨alike, unmixed⟩
    cases alike with
    | null => rfl
    | bool b => exact beq_self_eq_true b
    | string s => exact beq_self_eq_true s
    | numbers ha hb same =>
      rcases isNumber_iff.1 ha with ⟨n, rfl⟩ | ⟨x, rfl⟩ <;>
        rcases isNumber_iff.1 hb with ⟨m, rfl⟩ | ⟨y, rfl⟩
      · exact beq_iff_eq (α := Int64).2 (int_eq_iff.2 same)
      · exact absurd ⟨n, y, Or.inl ⟨rfl, rfl⟩⟩ (unmixed [])
      · exact absurd ⟨m, x, Or.inr ⟨rfl, rfl⟩⟩ (unmixed [])
      · exact number_beq_iff.2 same
    | array => cases scalar
    | map => cases scalar

/-- Values in order are equal within their kinds just if they are alike and nothing is mixed in
them. -/
theorem beq_iff (ha : a.Every InOrder) (hb : b.Every InOrder) :
    (a == b) = true ↔ Alike a b ∧ Unmixed a b := by
  induction ha generalizing b with
  | scalar scalar => exact beq_iff_of_isScalar scalar
  | @array as _ items ih =>
    cases b with
    | array bs =>
      have items' := (every_array_iff.1 hb).2
      have each (i : Nat) (a b : Value) (ha : as[i]? = some a) (hb : bs[i]? = some b) :
          (a == b) = true ↔ Alike a b ∧ Unmixed a b :=
        ih a (List.mem_of_getElem? ha) (items' b (List.mem_of_getElem? hb))
      rw [beq_array, beqItems_iff, alike_array_iff, unmixed_array_iff, and_assoc]
      exact and_congr_right fun _ => forall_places_and each
    | _ => exact iff_of_false nofun fun h => by cases h.1 with | numbers number => cases number
  | @map fs ascending fields ih =>
    cases b with
    | map gs =>
      obtain ⟨ascending', fields'⟩ := every_map_iff.1 hb
      have each (k : String) (a b : Value) (ha : Keyed.find? k fs = some a)
          (hb : Keyed.find? k gs = some b) : (a == b) = true ↔ Alike a b ∧ Unmixed a b :=
        ih (k, a) (Keyed.mem_of_find?_eq_some ha) (fields' (k, b) (Keyed.mem_of_find?_eq_some hb))
      rw [beq_map, beqFields_iff ascending ascending', alike_map_iff, unmixed_map_iff, and_assoc]
      exact and_congr_right fun _ => forall_places_and each
    | _ => exact iff_of_false nofun fun h => by cases h.1 with | numbers number => cases number

/-! ## The equality of selectors -/

theorem sameAs_iff_alike (ha : a.Every InOrder) (hb : b.Every InOrder) :
    a.sameAs b = true ↔ Alike a b ∧ ∀ place ≠ [], ¬MixedAt a b place := by
  rw [sameAs_iff]
  constructor
  · intro same
    cases same with
    | int_number same => exact ⟨.numbers rfl rfl same, fun _ => not_mixedAt_of_isScalar rfl⟩
    | number_int same => exact ⟨.numbers rfl rfl same, fun _ => not_mixedAt_of_isScalar rfl⟩
    | of_kind same =>
      obtain ⟨alike, unmixed⟩ := (beq_iff ha hb).1 same
      exact ⟨alike, fun place _ => unmixed place⟩
  · rintro ⟨alike, inside⟩
    by_cases top : MixedAt a b []
    · obtain ⟨n, x, ⟨int, number⟩ | ⟨number, int⟩⟩ := top
      · cases int
        cases number
        cases alike with
        | numbers _ _ same => exact .int_number same
      · cases int
        cases number
        cases alike with
        | numbers _ _ same => exact .number_int same
    · refine .of_kind ((beq_iff ha hb).2 ⟨alike, fun place => ?_⟩)
      by_cases whole : place = []
      · rw [whole]
        exact top
      · exact inside place whole

/-- The equality of selectors holds of two values just if they are alike and inside them no integer
stands where a double stands in the other. So it says whether they are alike, but for alike values
that are mixed inside. -/
theorem sameAs_exact (ha : a.Every InOrder) (hb : b.Every InOrder) :
    (a.sameAs b = true ↔ Alike a b ∧ ∀ place ≠ [], ¬MixedAt a b place) ∧
    ((a.sameAs b = true ↔ Alike a b) ↔
      (Alike a b → ∀ place ≠ [], ¬MixedAt a b place)) := by
  have exact := sameAs_iff_alike ha hb
  refine ⟨exact, ?_⟩
  rw [exact]
  exact and_iff_left_iff_imp

end Value

namespace Sample

/-- The double that is one. -/
def one : Binary64 := ⟨0x3FF0000000000000⟩

/-- A bill of nothing. -/
def nothing : Value :=
  .map [("lines", .array [.int 3, .string "none"]), ("total", .number (.zero false))]

/-- The same bill, but its total is the other zero. -/
def lessThanNothing : Value :=
  .map [("lines", .array [.int 3, .string "none"]), ("total", .number (.zero true))]

end Sample

namespace Value

theorem zeros_alike :
    Sample.nothing.Every InOrder ∧ Sample.lessThanNothing.Every InOrder ∧
    Alike Sample.nothing Sample.lessThanNothing ∧
    ∀ place ≠ [], ¬MixedAt Sample.nothing Sample.lessThanNothing place := by
  have ordered (x : Binary64) : (Value.map
      [("lines", .array [.int 3, .string "none"]), ("total", .number x)]).Every InOrder := by
    simp only [every_map_iff, every_array_iff, List.forall_mem_cons]
    exact ⟨List.pairwise_pair.2 (show "lines" < "total" by decide),
      ⟨trivial, .scalar rfl trivial, .scalar rfl trivial, nofun⟩, .scalar rfl trivial, nofun⟩
  have same : Sample.nothing.sameAs Sample.lessThanNothing = true := rfl
  exact ⟨ordered _, ordered _, (sameAs_exact (ordered _) (ordered _)).1.1 same⟩

/-- One and one are the same and lists of them are alike, but the lists are not the same, and a
condition that a field is the one list does not find the other. -/
theorem one_in_list_differs :
    (Value.int 1).sameAs (.number Sample.one) = true ∧
    Alike (.array [.int 1]) (.array [.number Sample.one]) ∧
    (Value.array [.int 1]).sameAs (.array [.number Sample.one]) = false ∧
    Selector.accepts ⟨[("tags", .map [("$eq", .array [.number Sample.one])])]⟩
      [("tags", .array [.int 1])] = .ok false := by
  refine ⟨by decide, .array rfl fun i a b ha hb => ?_, rfl, rfl⟩
  cases i with
  | zero =>
    cases ha
    cases hb
    exact .numbers rfl rfl (by decide)
  | succ i => cases ha

end Value

end GatedMigration
