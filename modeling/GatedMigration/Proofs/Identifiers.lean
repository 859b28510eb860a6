import GatedMigration.Proofs.Generators
import Mathlib.Data.List.Basic

/-!
# The identifiers of tasks

The identifier of a task is that of its migration, a dot, the text of a document's identifying
value, a dot, and a number. It tells the number (`childId_ordinal_inj`), so the tasks of one scan
all have different ones (`Generator.scan_nodup`). It need not tell the migration: another migration
may have an identifier that begins in the same way. That happens just if one of the two stands
under the other one (`Under`), that is, goes on behind it with a dot (`childId_collision_iff`).
-/

namespace GatedMigration

/-- An identifier goes on behind another one with a dot. -/
def Under (a b : Identifier) : Prop := ∃ rest : List Char, b.toList = a.toList ++ '.' :: rest

instance (a b : Identifier) : Decidable (Under a b) :=
  decidable_of_iff ((a.toList ++ ['.']) <+: b.toList) <| by
    simp only [Under, List.prefix_iff_exists_append_eq, List.append_assoc, List.singleton_append,
      eq_comm]

theorem Plain.not_under {b : Identifier} (h : Plain b) (a : Identifier) : ¬Under a b := by
  rintro ⟨rest, same⟩
  exact h (same ▸ List.mem_append_cons_self)

theorem under_childId (a : Identifier) (d : Value) (n : Nat) : Under a (childId a d n) :=
  ⟨_, childId_toList a d n⟩

/-- The identifier of a task tells its number: it is what stands behind the last dot. -/
theorem childId_ordinal_inj {a b : Identifier} {d e : Value} {n k : Nat}
    (same : childId a d n = childId b e k) : n = k := by
  have parts := congrArg (fun id : Identifier => pieces (· == '.') id.toList) same
  rw [pieces_childId, pieces_childId, ← List.append_assoc, ← List.append_assoc] at parts
  have digits := List.singleton_inj.1 (List.append_inj' parts rfl).2
  rw [← Nat.ofDigitChars_ten_toDigits (n := n), digits, Nat.ofDigitChars_ten_toDigits]

/-- Two migrations whose tasks have an identifier in common are the same, or one of them stands
under the other one. -/
theorem under_of_childId_eq {a b : Identifier} {d e : Value} {n k : Nat}
    (same : childId a d n = childId b e k) : a = b ∨ Under a b ∨ Under b a := by
  have texts := congrArg String.toList same
  rw [childId_toList, childId_toList] at texts
  rcases List.append_eq_append_iff.1 texts with ⟨more, longer, rest⟩ | ⟨more, longer, rest⟩
  · cases more with
    | nil => exact Or.inl (String.toList_inj.1 (by rw [longer, List.append_nil]))
    | cons c more =>
      obtain ⟨rfl, -⟩ := List.cons.inj rest
      exact Or.inr (Or.inl ⟨more, longer⟩)
  · cases more with
    | nil => exact Or.inl (String.toList_inj.1 (by rw [longer, List.append_nil]))
    | cons c more =>
      obtain ⟨rfl, -⟩ := List.cons.inj rest
      exact Or.inr (Or.inr ⟨more, longer⟩)

/-- If a migration stands under another one, the first tasks of both have the same identifier for
some documents. -/
theorem Under.childId_eq {a b : Identifier} (h : Under a b) :
    ∃ d e, childId a d 0 = childId b e 0 := by
  obtain ⟨rest, longer⟩ := h
  refine ⟨.string (String.ofList (rest ++ ['.'])), .string "", String.toList_inj.1 ?_⟩
  rw [childId_toList, childId_toList, longer]
  simp [Value.display]

/-- Two migrations may have tasks with one identifier just if they are the same or one of them
stands under the other one. -/
theorem childId_collision_iff {a b : Identifier} :
    (∃ d e n k, childId a d n = childId b e k) ↔ a = b ∨ Under a b ∨ Under b a := by
  constructor
  · rintro ⟨d, e, n, k, same⟩
    exact under_of_childId_eq same
  · rintro (rfl | under | under)
    · exact ⟨.null, .null, 0, 0, rfl⟩
    · obtain ⟨d, e, same⟩ := under.childId_eq
      exact ⟨d, e, 0, 0, same⟩
    · obtain ⟨d, e, same⟩ := under.childId_eq
      exact ⟨e, d, 0, 0, same.symm⟩

/-! ## Migrations whose tasks are kept apart -/

/-- No migration stands under another one. -/
def Separate (generators : List Generator) : Prop :=
  ∀ g ∈ generators, ∀ g' ∈ generators, ¬Under g.id g'.id

instance (generators : List Generator) : Decidable (Separate generators) :=
  inferInstanceAs (Decidable (∀ _ ∈ _, ∀ _ ∈ _, _))

namespace Separate

variable {generators : List Generator}

/-- Migrations without a dot in their identifiers do not stand under one another. -/
theorem of_plain (plain : ∀ g ∈ generators, Plain g.id) : Separate generators :=
  fun g _ g' given' => (plain g' given').not_under g.id

variable (h : Separate generators)

include h

/-- No task of a migration has the identifier of a migration. -/
theorem task_ne {g : Generator} (given : g ∈ generators) (d : Value) (n : Nat) :
    (g.task d n).id ∉ generators.map Generator.id := by
  intro mem
  obtain ⟨g', given', same⟩ := List.mem_map.1 mem
  exact h g given g' given' (same ▸ under_childId g.id d n)

/-- Tasks with the same identifier belong to the same migration. -/
theorem migration_eq {g g' : Generator} (given : g ∈ generators) (given' : g' ∈ generators)
    {d d' : Value} {n n' : Nat} (same : (g.task d n).id = (g'.task d' n').id) : g.id = g'.id := by
  rcases under_of_childId_eq same with group | under | under
  · exact group
  · exact absurd under (h g given g' given')
  · exact absurd under (h g' given' g given)

end Separate

/-! ## The tasks of a scan -/

/-- Tasks that are numbered on have different identifiers, whatever they are for. -/
theorem childId_nodup (a : Identifier) (ds : List Value) (start : Nat) :
    ((ds.zipIdx start).map fun p => childId a p.1 p.2).Nodup := by
  have numbers : ((ds.zipIdx start).map Prod.snd).Nodup := by
    rw [List.zipIdx_map_snd]
    exact List.nodup_range'
  exact List.pairwise_map.2 ((List.pairwise_map.1 numbers).imp
    fun differ same => differ (childId_ordinal_inj same))

namespace Generator

/-- The tasks made from items that a cursor gives are numbered on. -/
theorem collect_numbered (g : Generator) (c : Cursor Value) (items : List Value) (produced : Nat)
    (w : World) : ∃ ds : List Value, (g.collect c items produced w).2.1 =
      (ds.zipIdx produced).map fun p => g.task p.1 p.2 := by
  induction items generalizing produced w with
  | nil =>
    refine ⟨[], ?_⟩
    rw [collect]
    split
    · rfl
    · split <;> rfl
  | cons d items ih =>
    rw [collect]
    split
    · exact ⟨[], rfl⟩
    split
    · exact ⟨[], rfl⟩
    dsimp only
    split
    · exact ⟨[], rfl⟩
    · obtain ⟨ds, tasks⟩ := ih (produced + 1) _
      exact ⟨d :: ds, by rw [tasks]; rfl⟩

/-- The tasks of a scan have different identifiers. -/
theorem scan_nodup (g : Generator) (env : Environment) (w : World) :
    ((g.scan env w).2.1.map Task.id).Nodup := by
  unfold scan
  dsimp only
  split
  · exact List.nodup_nil
  · rename_i w' c _
    obtain ⟨ds, tasks⟩ := g.collect_numbered c c.items c.yielded w'
    dsimp only
    rw [tasks, List.map_map]
    exact childId_nodup g.id ds c.yielded

end Generator

end GatedMigration
