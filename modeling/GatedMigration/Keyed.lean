/-!
# Lists of fields in the order of their keys

A document, a dependency graph and the records of a store are all finite maps from strings to
something, shown in ascending order of their keys. Two views of them live here: plain association
lists, for types that nest inside themselves (`Keyed`), and lists that carry the proof that their
keys ascend (`IdMap`, `IdSet`).

* `Keyed.find?_insert_self`, `Keyed.find?_insert_of_ne`: what insertion does to look-up.
* `Keyed.Ascending.insert`: insertion keeps the keys in strictly ascending order.
* `IdMap.count_adjust_lt`, `IdMap.count_adjust_eq`: what a change does to a count of values.
* `IdMap.ext_find?`, `IdSet.ext_mem`: such a map is its look-up function, such a set its members.
-/

namespace GatedMigration

/-- An identifier: the name of a migration or of one of its tasks. -/
abbrev Identifier := String

/-- Pairs of a key and a value; where a key occurs twice, the first pair counts. -/
abbrev Keyed (α : Type) := List (String × α)

namespace Keyed

variable {α β : Type}

/-- The value under a key. -/
def find? (k : String) : List (String × α) → Option α
  | [] => none
  | (k', v) :: rest => if k = k' then some v else find? k rest

/-- The value put under a key, in the place of an older one if there is one. -/
def insert (k : String) (v : α) : List (String × α) → List (String × α)
  | [] => [(k, v)]
  | (k', v') :: rest =>
    if k < k' then (k, v) :: (k', v') :: rest
    else if k = k' then (k, v) :: rest
    else (k', v') :: insert k v rest

/-- The keys, in order. -/
def keys (m : List (String × α)) : List String := m.map Prod.fst

/-- Pairs taken one after the other, so that the last one with a key counts. -/
def ofList (pairs : List (String × α)) : List (String × α) :=
  pairs.foldl (fun m p => insert p.1 p.2 m) []

/-- Every pair of `new` written over `old`. -/
def overwrite (new old : List (String × α)) : List (String × α) :=
  new.foldl (fun m p => insert p.1 p.2 m) old

/-- The keys stand in strictly ascending order. -/
def Ascending (m : List (String × α)) : Prop := (keys m).Pairwise (· < ·)

@[simp] theorem find?_nil (k : String) : find? k ([] : List (String × α)) = none := rfl

theorem find?_cons (k k' : String) (v : α) (rest : List (String × α)) :
    find? k ((k', v) :: rest) = if k = k' then some v else find? k rest := rfl

@[simp] theorem keys_nil : keys ([] : List (String × α)) = [] := rfl

@[simp] theorem keys_cons (p : String × α) (m : List (String × α)) :
    keys (p :: m) = p.1 :: keys m := rfl

theorem find?_eq_none_of_notMem {k : String} {m : List (String × α)} (h : k ∉ keys m) :
    find? k m = none := by
  induction m with
  | nil => rfl
  | cons p m ih =>
    simp only [keys_cons, List.mem_cons, not_or] at h
    rw [find?_cons, if_neg h.1, ih h.2]

theorem find?_isSome_iff {k : String} {m : List (String × α)} :
    (find? k m).isSome ↔ k ∈ keys m := by
  induction m with
  | nil => simp
  | cons p m ih =>
    rw [find?_cons, keys_cons, List.mem_cons]
    by_cases h : k = p.1 <;> simp [h, ih]

theorem mem_of_find?_eq_some {k : String} {v : α} {m : List (String × α)}
    (h : find? k m = some v) : (k, v) ∈ m := by
  induction m with
  | nil => simp at h
  | cons p m ih =>
    rw [find?_cons] at h
    split at h
    · rename_i e
      obtain rfl : p.2 = v := by simpa using h
      simp [e]
    · exact List.mem_cons_of_mem _ (ih h)

@[simp] theorem find?_insert_self (k : String) (v : α) (m : List (String × α)) :
    find? k (insert k v m) = some v := by
  induction m with
  | nil => simp [insert, find?]
  | cons p m ih =>
    rw [insert]
    split
    · simp [find?]
    · split
      · simp [find?]
      · rename_i h
        rw [find?_cons, if_neg h, ih]

theorem find?_insert_of_ne {k k' : String} (h : k' ≠ k) (v : α) (m : List (String × α)) :
    find? k' (insert k v m) = find? k' m := by
  induction m with
  | nil => simp [insert, find?, h]
  | cons p m ih =>
    rw [insert]
    split
    · rw [find?_cons, if_neg h]
    · split
      · rename_i e
        rw [find?_cons, find?_cons, if_neg h, if_neg (e ▸ h)]
      · rw [find?_cons, find?_cons, ih]

theorem mem_keys_insert {k k' : String} {v : α} {m : List (String × α)} :
    k' ∈ keys (insert k v m) ↔ k' = k ∨ k' ∈ keys m := by
  rw [← find?_isSome_iff, ← find?_isSome_iff]
  by_cases h : k' = k
  · simp [h]
  · simp [h, find?_insert_of_ne h]

/-- A key that is not below another one and differs from it is above it. -/
theorem lt_of_not_lt_of_ne {a b : String} (h : ¬a < b) (hne : a ≠ b) : b < a := by
  rcases String.le_total a b with hab | hba
  · exact absurd (String.le_antisymm hab (String.not_lt.1 h)) hne
  · exact Decidable.byContradiction fun hn =>
      hne (String.le_antisymm (String.not_lt.1 hn) hba)

/-- What stands in ascending order stands there once. -/
theorem nodup_of_ascending {l : List String} (h : l.Pairwise (· < ·)) : l.Nodup :=
  h.imp fun {a b} (lt : a < b) (e : a = b) => String.lt_irrefl b (e ▸ lt)

theorem Ascending.nil : Ascending ([] : List (String × α)) := List.Pairwise.nil

theorem Ascending.insert {m : List (String × α)} (h : Ascending m) (k : String) (v : α) :
    Ascending (insert k v m) := by
  induction m with
  | nil => simp [Keyed.insert, Ascending, keys]
  | cons p m ih =>
    obtain ⟨hp, hm⟩ := List.pairwise_cons.1 h
    rw [Keyed.insert]
    split
    · rename_i hlt
      refine List.pairwise_cons.2 ⟨fun b hb => ?_, h⟩
      rcases List.mem_cons.1 hb with rfl | hb
      · exact hlt
      · exact String.lt_trans hlt (hp b hb)
    · split
      · rename_i e
        exact List.pairwise_cons.2 ⟨fun b hb => e ▸ hp b hb, hm⟩
      · rename_i hlt hne
        refine List.pairwise_cons.2 ⟨fun b hb => ?_, ih hm⟩
        rcases mem_keys_insert.1 hb with rfl | hb
        · exact lt_of_not_lt_of_ne hlt hne
        · exact hp b hb

theorem Ascending.overwrite {old : List (String × α)} (h : Ascending old)
    (new : List (String × α)) : Ascending (overwrite new old) := by
  unfold Keyed.overwrite
  induction new generalizing old with
  | nil => exact h
  | cons p new ih => exact ih (h.insert p.1 p.2)

theorem Ascending.ofList (pairs : List (String × α)) : Ascending (ofList pairs) :=
  Ascending.nil.overwrite pairs

theorem insert_of_above {k : String} {m : List (String × α)} (above : ∀ k' ∈ keys m, k' < k)
    (v : α) : insert k v m = m ++ [(k, v)] := by
  induction m with
  | nil => rfl
  | cons p m ih =>
    have less : p.1 < k := above p.1 List.mem_cons_self
    rw [insert, if_neg (String.lt_asymm less), if_neg (String.ne_of_lt less).symm,
      ih fun k' mem => above k' (List.mem_cons_of_mem _ mem)]
    rfl

theorem overwrite_of_above {new old : List (String × α)} (h : Ascending (old ++ new)) :
    overwrite new old = old ++ new := by
  induction new generalizing old with
  | nil => exact (List.append_nil old).symm
  | cons p new ih =>
    have above : ∀ k ∈ keys old, k < p.1 := by
      rw [Ascending, keys, List.map_append, List.pairwise_append] at h
      exact fun k mem => h.2.2 k mem p.1 List.mem_cons_self
    rw [List.append_cons] at h ⊢
    rw [← ih h, ← insert_of_above above]
    rfl

/-- Pairs in order are the map of themselves. -/
theorem ofList_eq_self {m : List (String × α)} (h : Ascending m) : ofList m = m :=
  overwrite_of_above (show Ascending ([] ++ m) from h)

theorem Ascending.sublist {m : List (String × α)} (h : Ascending m) {l : List String}
    (hl : l.Sublist (keys m)) : l.Pairwise (· < ·) := List.Pairwise.sublist hl h

/-- In an ascending list every pair is found under its key. -/
theorem find?_of_mem {m : List (String × α)} (hm : Ascending m) {k : String} {v : α}
    (h : (k, v) ∈ m) : find? k m = some v := by
  induction m with
  | nil => cases h
  | cons p m ih =>
    obtain ⟨hp, hm⟩ := List.pairwise_cons.1 hm
    rw [find?_cons]
    rcases List.mem_cons.1 h with rfl | h
    · simp
    · have hne : k ≠ p.1 := fun e =>
        String.lt_irrefl _ (e ▸ hp k (List.mem_map.2 ⟨(k, v), h, rfl⟩))
      rw [if_neg hne, ih hm h]

/-- Two ascending lists with one look-up function are equal. -/
theorem Ascending.ext_find? {m n : List (String × α)} (hm : Ascending m) (hn : Ascending n)
    (h : ∀ k, find? k m = find? k n) : m = n := by
  induction m generalizing n with
  | nil =>
    match n with
    | [] => rfl
    | p :: n => simpa [find?] using h p.1
  | cons p m ih =>
    match n with
    | [] => simpa [find?] using h p.1
    | q :: n =>
      obtain ⟨hp, hm⟩ := List.pairwise_cons.1 hm
      obtain ⟨hq, hn⟩ := List.pairwise_cons.1 hn
      have key : p.1 = q.1 := by
        have h₁ : p.1 ∈ keys (q :: n) := find?_isSome_iff.1 (by rw [← h p.1]; simp [find?])
        have h₂ : q.1 ∈ keys (p :: m) := find?_isSome_iff.1 (by rw [h q.1]; simp [find?])
        rcases List.mem_cons.1 h₁ with e | h₁
        · exact e
        · rcases List.mem_cons.1 h₂ with e | h₂
          · exact e.symm
          · exact absurd (String.lt_trans (hp _ h₂) (hq _ h₁)) (String.lt_irrefl _)
      have val : p.2 = q.2 := by simpa [find?, key] using h p.1
      have rest : m = n := ih hm hn fun k => by
        by_cases hk : k = p.1
        · have h₁ : k ∉ keys m := fun hmem => String.lt_irrefl _ (hk ▸ hp k hmem)
          have h₂ : k ∉ keys n := fun hmem => String.lt_irrefl _ (key ▸ hk ▸ hq k hmem)
          rw [find?_eq_none_of_notMem h₁, find?_eq_none_of_notMem h₂]
        · have := h k
          rwa [find?_cons, find?_cons, if_neg hk, if_neg (key ▸ hk)] at this
      exact congr (congrArg List.cons (Prod.ext key val)) rest

end Keyed

/-! ## Maps from identifiers -/

/-- A finite map from identifiers, its pairs in strictly ascending order of the identifiers. -/
structure IdMap (α : Type) where
  toList : List (String × α)
  ascending : Keyed.Ascending toList

namespace IdMap

variable {α β : Type}

/-- The map without a pair. -/
def empty : IdMap α := ⟨[], Keyed.Ascending.nil⟩

instance : Inhabited (IdMap α) := ⟨empty⟩

/-- The value of an identifier. -/
def find? (m : IdMap α) (k : Identifier) : Option α := Keyed.find? k m.toList

/-- Whether the map has a pair for an identifier. -/
def contains (m : IdMap α) (k : Identifier) : Bool := (m.find? k).isSome

/-- The identifiers, in ascending order. -/
def keys (m : IdMap α) : List Identifier := Keyed.keys m.toList

/-- The values, in ascending order of their identifiers. -/
def values (m : IdMap α) : List α := m.toList.map Prod.snd

/-- How many pairs the map has. -/
def size (m : IdMap α) : Nat := m.toList.length

/-- The map with one more pair, which replaces an older one of the same identifier. -/
def insert (m : IdMap α) (k : Identifier) (v : α) : IdMap α :=
  ⟨Keyed.insert k v m.toList, m.ascending.insert k v⟩

/-- Pairs taken one after the other: the last one of an identifier counts. -/
def ofList (pairs : List (String × α)) : IdMap α :=
  ⟨Keyed.ofList pairs, Keyed.Ascending.ofList pairs⟩

/-- Every value changed in place. -/
def map (f : α → β) (m : IdMap α) : IdMap β :=
  ⟨m.toList.map fun p => (p.1, f p.2), by
    have e : Prod.fst ∘ (fun p : String × α => (p.1, f p.2)) = Prod.fst := rfl
    rw [Keyed.Ascending, Keyed.keys, List.map_map, e]
    exact m.ascending⟩

/-- The value of an identifier changed, if there is one. -/
def adjust (m : IdMap α) (k : Identifier) (f : α → α) : IdMap α :=
  match m.find? k with
  | some v => m.insert k (f v)
  | none => m

@[simp] theorem find?_empty (k : Identifier) : (empty : IdMap α).find? k = none := rfl

@[simp] theorem find?_insert_self (m : IdMap α) (k : Identifier) (v : α) :
    (m.insert k v).find? k = some v := Keyed.find?_insert_self k v m.toList

theorem find?_insert_of_ne (m : IdMap α) {k k' : Identifier} (h : k' ≠ k) (v : α) :
    (m.insert k v).find? k' = m.find? k' := Keyed.find?_insert_of_ne h v m.toList

theorem find?_adjust_self (m : IdMap α) (k : Identifier) (f : α → α) :
    (m.adjust k f).find? k = (m.find? k).map f := by
  unfold adjust
  split <;> rename_i h <;> simp [h]

theorem find?_adjust_of_ne (m : IdMap α) {k k' : Identifier} (h : k' ≠ k) (f : α → α) :
    (m.adjust k f).find? k' = m.find? k' := by
  unfold adjust
  split
  · exact find?_insert_of_ne m h _
  · rfl

theorem contains_of_find? {m : IdMap α} {k : Identifier} {v : α} (h : m.find? k = some v) :
    m.contains k = true := by
  rw [contains, h]
  rfl

theorem find?_of_contains {m : IdMap α} {k : Identifier} (h : m.contains k = true) :
    ∃ v, m.find? k = some v := Option.isSome_iff_exists.1 h

theorem find?_of_not_contains {m : IdMap α} {k : Identifier} (h : m.contains k = false) :
    m.find? k = none := by
  simpa [contains] using h

theorem contains_adjust (m : IdMap α) (k k' : Identifier) (f : α → α) :
    (m.adjust k f).contains k' = m.contains k' := by
  unfold contains
  by_cases h : k' = k
  · rw [h, find?_adjust_self, Option.isSome_map]
  · rw [find?_adjust_of_ne m h]

theorem find?_map (f : α → β) (m : IdMap α) (k : Identifier) :
    (m.map f).find? k = (m.find? k).map f := by
  unfold map find?
  dsimp only
  induction m.toList with
  | nil => rfl
  | cons p l ih =>
    rw [List.map_cons, Keyed.find?_cons, ih, Keyed.find?_cons]
    split <;> rfl

/-! ## Many insertions -/

section Insertions

variable {β : Type} (l : List β) (key : β → Identifier) (value : β → α)

/-- Whatever is found after many insertions was inserted, or was there before. -/
theorem find?_foldl_insert {m : IdMap α} {k : Identifier} {v : α}
    (h : (l.foldl (fun m b => m.insert (key b) (value b)) m).find? k = some v) :
    (∃ b ∈ l, key b = k ∧ value b = v) ∨ m.find? k = some v := by
  induction l generalizing m with
  | nil => exact Or.inr h
  | cons b l ih =>
    rcases ih h with ⟨b', mem, found⟩ | found
    · exact Or.inl ⟨b', List.mem_cons_of_mem b mem, found⟩
    by_cases e : k = key b
    · subst e
      rw [find?_insert_self] at found
      exact Or.inl ⟨b, List.mem_cons_self, rfl, Option.some.inj found⟩
    · rw [find?_insert_of_ne m e] at found
      exact Or.inr found

theorem contains_insert (m : IdMap α) (k k' : Identifier) (v : α) :
    (m.insert k v).contains k' = true ↔ k' = k ∨ m.contains k' = true := by
  unfold contains
  by_cases e : k' = k
  · rw [e, find?_insert_self]
    exact ⟨fun _ => Or.inl rfl, fun _ => rfl⟩
  · rw [find?_insert_of_ne m e]
    exact ⟨Or.inr, fun h => h.resolve_left e⟩

theorem contains_foldl_insert (m : IdMap α) (k : Identifier) :
    (l.foldl (fun m b => m.insert (key b) (value b)) m).contains k = true ↔
      k ∈ l.map key ∨ m.contains k = true := by
  induction l generalizing m with
  | nil => simp
  | cons b l ih =>
    rw [List.foldl_cons, ih, contains_insert, List.map_cons, List.mem_cons]
    exact ⟨fun h => by rcases h with h | h | h <;> simp [h],
      fun h => by rcases h with (h | h) | h <;> simp [h]⟩

theorem ofList_eq_foldl (pairs : List (Identifier × α)) :
    ofList pairs = pairs.foldl (fun m p => m.insert p.1 p.2) empty := by
  have toList (l : List (Identifier × α)) (m : IdMap α) :
      (l.foldl (fun m p => m.insert p.1 p.2) m).toList = Keyed.overwrite l m.toList := by
    induction l generalizing m with
    | nil => rfl
    | cons p l ih => exact ih (m.insert p.1 p.2)
  have same := toList pairs empty
  cases h : pairs.foldl (fun m p => m.insert p.1 p.2) empty with
  | mk items ascending =>
    rw [h] at same
    subst same
    rfl

/-- Whatever is found in the map of a list was made from one of its items. -/
theorem find?_ofList {k : Identifier} {v : α}
    (h : (ofList (l.map fun b => (key b, value b))).find? k = some v) :
    ∃ b ∈ l, key b = k ∧ value b = v := by
  rw [ofList_eq_foldl, List.foldl_map] at h
  exact (find?_foldl_insert l key value h).resolve_right fun none => by cases none

theorem contains_ofList (k : Identifier) :
    (ofList (l.map fun b => (key b, value b))).contains k = true ↔ k ∈ l.map key := by
  rw [ofList_eq_foldl, List.foldl_map, contains_foldl_insert l key value]
  exact ⟨fun h => h.resolve_right fun none => (by cases none), Or.inl⟩

end Insertions

/-- If a map holds the items of a list under their keys and nothing else, it does so after more
items are inserted, if all keys are different. -/
theorem find?_foldl_insert_iff {items more : List α} {key : α → Identifier} {m : IdMap α}
    (distinct : ((items ++ more).map key).Nodup)
    (h : ∀ {k v}, m.find? k = some v ↔ v ∈ items ∧ key v = k) {k : Identifier} {v : α} :
    (more.foldl (fun m v => m.insert (key v) v) m).find? k = some v ↔
      v ∈ items ++ more ∧ key v = k := by
  induction more generalizing items m with
  | nil => rw [List.append_nil]; exact h
  | cons new more ih =>
    rw [List.append_cons] at distinct ⊢
    refine ih distinct fun {k v} => ?_
    rw [List.mem_append, List.mem_singleton]
    by_cases e : k = key new
    · rw [e, find?_insert_self]
      constructor
      · rintro ⟨⟩
        exact ⟨Or.inr rfl, rfl⟩
      · rintro ⟨old | rfl, same⟩
        · rw [List.map_append, List.map_append, List.append_assoc, List.nodup_append] at distinct
          exact absurd same (distinct.2.2 _ (List.mem_map_of_mem old) _ List.mem_cons_self)
        · rfl
    · rw [find?_insert_of_ne m e, h]
      refine and_congr_left fun same => ⟨Or.inl, fun mem => mem.resolve_right ?_⟩
      rintro rfl
      exact e same.symm

/-- A map is its look-up function. -/
theorem ext_find? {m n : IdMap α} (h : ∀ k, m.find? k = n.find? k) : m = n := by
  cases m with
  | mk m hm =>
    cases n with
    | mk n hn =>
      obtain rfl : m = n := hm.ext_find? hn h
      rfl

end IdMap

/-! ## Counting -/

namespace Keyed

variable {α : Type}

theorem countP_insert_old {k : String} {v : α} {m : List (String × α)} (hm : Ascending m)
    (h : find? k m = some v) (v' : α) (test : String × α → Bool) :
    (insert k v' m).countP test + (if test (k, v) then 1 else 0)
      = m.countP test + if test (k, v') then 1 else 0 := by
  induction m with
  | nil => simp at h
  | cons p m ih =>
    obtain ⟨k', w⟩ := p
    obtain ⟨hp, hm⟩ := List.pairwise_cons.1 hm
    rw [find?_cons] at h
    rw [insert]
    split at h
    · rename_i e
      obtain rfl : w = v := by simpa using h
      subst e
      rw [if_neg (String.lt_irrefl _), if_pos rfl, List.countP_cons, List.countP_cons]
      omega
    · rename_i hne
      have hlt : ¬k < k' := fun hlt => by
        have := hp k (find?_isSome_iff.1 (by rw [h]; rfl))
        exact String.lt_irrefl _ (String.lt_trans hlt this)
      rw [if_neg hlt, if_neg hne, List.countP_cons, List.countP_cons]
      have := ih hm h
      omega

theorem countP_insert_new {k : String} {m : List (String × α)} (h : find? k m = none) (v : α)
    (test : String × α → Bool) :
    (insert k v m).countP test = m.countP test + if test (k, v) then 1 else 0 := by
  induction m with
  | nil => rw [insert, List.countP_cons]
  | cons p m ih =>
    obtain ⟨k', w⟩ := p
    rw [find?_cons] at h
    split at h
    · cases h
    · rename_i hne
      rw [insert, if_neg hne]
      split
      · rw [List.countP_cons]
      · rw [List.countP_cons, List.countP_cons, ih h]
        omega

end Keyed

namespace IdMap

variable {α : Type}

/-- How many values of a map pass a test. -/
def count (test : α → Bool) (m : IdMap α) : Nat := m.toList.countP fun p => test p.2

theorem count_insert_old {m : IdMap α} {k : Identifier} {v : α} (h : m.find? k = some v) (v' : α)
    (test : α → Bool) :
    (m.insert k v').count test + (if test v then 1 else 0)
      = m.count test + if test v' then 1 else 0 :=
  Keyed.countP_insert_old m.ascending h v' fun p => test p.2

theorem count_insert_new {m : IdMap α} {k : Identifier} (h : m.find? k = none) (v : α)
    (test : α → Bool) : (m.insert k v).count test = m.count test + if test v then 1 else 0 :=
  Keyed.countP_insert_new h v fun p => test p.2

/-- The size counts every value. -/
theorem count_true (m : IdMap α) : m.count (fun _ => true) = m.size :=
  congrFun List.countP_true m.toList

theorem count_le_size (test : α → Bool) (m : IdMap α) : m.count test ≤ m.size :=
  List.countP_le_length

theorem size_insert_of_find? {m : IdMap α} {k : Identifier} {v : α} (h : m.find? k = some v)
    (v' : α) : (m.insert k v').size = m.size := by
  rw [← count_true, ← count_true]
  exact Nat.add_right_cancel (count_insert_old h v' fun _ => true)

theorem size_insert_new {m : IdMap α} {k : Identifier} (h : m.find? k = none) (v : α) :
    (m.insert k v).size = m.size + 1 := by
  rw [← count_true, ← count_true]
  exact count_insert_new h v fun _ => true

theorem size_adjust (m : IdMap α) (k : Identifier) (f : α → α) : (m.adjust k f).size = m.size := by
  unfold adjust
  split
  · rename_i v h
    exact size_insert_of_find? h (f v)
  · rfl

/-- Pairs with the same identifier become one. -/
theorem size_ofList_le (pairs : List (String × α)) : (ofList pairs).size ≤ pairs.length := by
  have grow (l : List (String × α)) (m : IdMap α) :
      (l.foldl (fun m p => m.insert p.1 p.2) m).size ≤ m.size + l.length := by
    induction l generalizing m with
    | nil => exact Nat.le_refl _
    | cons p l ih =>
      have bound := ih (m.insert p.1 p.2)
      have step : (m.insert p.1 p.2).size ≤ m.size + 1 := by
        cases h : m.find? p.1 with
        | some v => rw [size_insert_of_find? h]; exact Nat.le_succ _
        | none => exact Nat.le_of_eq (size_insert_new h p.2)
      rw [List.foldl_cons, List.length_cons]
      omega
  rw [ofList_eq_foldl]
  exact Nat.le_trans (grow pairs empty) (Nat.le_of_eq (Nat.zero_add _))

/-- A change that turns a value that passes a test into one that does not. -/
theorem count_adjust_lt {m : IdMap α} {k : Identifier} {v : α} (h : m.find? k = some v)
    {f : α → α} {t : α → Bool} (hv : t v = true) (hf : t (f v) = false) :
    (m.adjust k f).count t + 1 = m.count t := by
  have := count_insert_old h (f v) t
  simpa [adjust, h, hv, hf] using this

/-- A change that keeps the result of a test. -/
theorem count_adjust_eq {m : IdMap α} {k : Identifier} {f : α → α} {t : α → Bool}
    (hf : ∀ v, m.find? k = some v → t (f v) = t v) :
    (m.adjust k f).count t = m.count t := by
  unfold adjust
  split
  · rename_i v h
    have := count_insert_old h (f v) t
    rw [hf v h] at this
    omega
  · rfl

end IdMap

/-! ## Sets of identifiers -/

/-- A finite set of identifiers, listed in strictly ascending order. -/
structure IdSet where
  toList : List Identifier
  ascending : toList.Pairwise (· < ·)
deriving DecidableEq

namespace IdSet

/-- An identifier put into an ascending list, unless it is there already. -/
def insertInto (k : Identifier) : List Identifier → List Identifier
  | [] => [k]
  | k' :: rest =>
    if k < k' then k :: k' :: rest
    else if k = k' then k' :: rest
    else k' :: insertInto k rest

theorem mem_insertInto {k x : Identifier} {l : List Identifier} :
    x ∈ insertInto k l ↔ x = k ∨ x ∈ l := by
  induction l with
  | nil => simp [insertInto]
  | cons a l ih =>
    rw [insertInto]
    split
    · simp
    · split
      · rename_i e
        simp [e]
      · simp [ih, or_left_comm]

theorem pairwise_insertInto {k : Identifier} {l : List Identifier} (h : l.Pairwise (· < ·)) :
    (insertInto k l).Pairwise (· < ·) := by
  induction l with
  | nil => simp [insertInto]
  | cons a l ih =>
    obtain ⟨ha, hl⟩ := List.pairwise_cons.1 h
    rw [insertInto]
    split
    · rename_i hlt
      refine List.pairwise_cons.2 ⟨fun b hb => ?_, h⟩
      rcases List.mem_cons.1 hb with rfl | hb
      · exact hlt
      · exact String.lt_trans hlt (ha b hb)
    · split
      · exact h
      · rename_i hlt hne
        refine List.pairwise_cons.2 ⟨fun b hb => ?_, ih hl⟩
        rcases mem_insertInto.1 hb with rfl | hb
        · exact Keyed.lt_of_not_lt_of_ne hlt hne
        · exact ha b hb

/-- The set without members. -/
def empty : IdSet := ⟨[], List.Pairwise.nil⟩

instance : Inhabited IdSet := ⟨empty⟩

instance : Membership Identifier IdSet := ⟨fun s k => k ∈ s.toList⟩

instance (k : Identifier) (s : IdSet) : Decidable (k ∈ s) :=
  inferInstanceAs (Decidable (k ∈ s.toList))

/-- The set with one more member. -/
def insert (s : IdSet) (k : Identifier) : IdSet :=
  ⟨insertInto k s.toList, pairwise_insertInto s.ascending⟩

/-- The set with every entry of a list as a further member. -/
def insertAll (s : IdSet) (ks : List Identifier) : IdSet := ks.foldl insert s

/-- The members of a list. -/
def ofList (ks : List Identifier) : IdSet := empty.insertAll ks

@[simp] theorem notMem_empty (k : Identifier) : k ∉ empty := List.not_mem_nil

@[simp] theorem mem_insert {s : IdSet} {k x : Identifier} : x ∈ s.insert k ↔ x = k ∨ x ∈ s :=
  mem_insertInto

@[simp] theorem mem_insertAll {s : IdSet} {ks : List Identifier} {x : Identifier} :
    x ∈ s.insertAll ks ↔ x ∈ s ∨ x ∈ ks := by
  unfold insertAll
  induction ks generalizing s with
  | nil => simp
  | cons k ks ih => simp [ih, or_assoc, or_left_comm]

@[simp] theorem mem_ofList {ks : List Identifier} {x : Identifier} : x ∈ ofList ks ↔ x ∈ ks := by
  simp [ofList]

/-- A set is its members. -/
theorem ext_mem {s t : IdSet} (h : ∀ x, x ∈ s ↔ x ∈ t) : s = t := by
  suffices ∀ l m : List Identifier, l.Pairwise (· < ·) → m.Pairwise (· < ·) →
      (∀ x, x ∈ l ↔ x ∈ m) → l = m by
    cases s with
    | mk l hl =>
      cases t with
      | mk m hm =>
        obtain rfl : l = m := this l m hl hm h
        rfl
  intro l
  induction l with
  | nil =>
    intro m _ _ h
    match m with
    | [] => rfl
    | a :: m => exact absurd ((h a).2 (List.mem_cons_self)) List.not_mem_nil
  | cons a l ih =>
    intro m hl hm h
    match m with
    | [] => exact absurd ((h a).1 (List.mem_cons_self)) List.not_mem_nil
    | b :: m =>
      obtain ⟨ha, hl'⟩ := List.pairwise_cons.1 hl
      obtain ⟨hb, hm'⟩ := List.pairwise_cons.1 hm
      have e : a = b := by
        rcases List.mem_cons.1 ((h a).1 List.mem_cons_self) with e | h₁
        · exact e
        · rcases List.mem_cons.1 ((h b).2 List.mem_cons_self) with e | h₂
          · exact e.symm
          · exact absurd (String.lt_trans (ha _ h₂) (hb _ h₁)) (String.lt_irrefl _)
      subst e
      rw [ih m hl' hm' fun x => ?_]
      constructor
      · intro hx
        rcases List.mem_cons.1 ((h x).1 (List.mem_cons_of_mem _ hx)) with e | hx'
        · exact absurd (ha x hx) (e ▸ String.lt_irrefl _)
        · exact hx'
      · intro hx
        rcases List.mem_cons.1 ((h x).2 (List.mem_cons_of_mem _ hx)) with e | hx'
        · exact absurd (hb x hx) (e ▸ String.lt_irrefl _)
        · exact hx'

end IdSet

end GatedMigration
