import GatedMigration.Proofs.Evaluations
import GatedMigration.Proofs.Saves

/-!
# What is asked of operations

What an operation has to keep to is said of its script: of each part, whatever scene it begins with,
and of how the script ends (`Script.Keeps`). If the registered operations keep to it, so does
whatever is left of one at any time (`Evaluation.Obeys.step`).
-/

namespace GatedMigration

/-- Each part of a script takes the scene that it begins with to one that is related to it, and the
script ends as it may. -/
def Script.Keeps (R : Scene → Scene → Prop) (E : Outcome → Prop) : Script → Prop
  | .done outcome => E outcome
  | .act part rest => ∀ scene, R scene (part scene).1 ∧ (rest scene).Keeps R E

theorem Script.Keeps.mono {R R' : Scene → Scene → Prop} {E E' : Outcome → Prop} {s : Script}
    (h : s.Keeps R E) (parts : ∀ a b, R a b → R' a b) (ends : ∀ o, E o → E' o) : s.Keeps R' E' := by
  induction s with
  | done outcome => exact ends _ h
  | act part rest ih => exact fun scene => ⟨parts _ _ (h scene).1, ih scene (h scene).2⟩

/-- What the registered operations keep to, for each task. -/
def Registry.Obeys (r : Registry) (R : Task → Scene → Scene → Prop) (E : Task → Outcome → Prop) :
    Prop :=
  ∀ {name : String} {op : Operation}, r.get name = .ok op → ∀ t, (op t).Keeps (R t) (E t)

/-- What is left of an operation keeps to it. -/
def Evaluation.Obeys (R : Scene → Scene → Prop) (E : Outcome → Prop) : Evaluation → Prop
  | applying script => script.Keeps R E
  | _ => True

namespace Evaluation

variable {env : Environment} {t : Task} {e e' : Evaluation} {w w' : World}

/-- What the operation of a task keeps to, it keeps to at each step. -/
theorem Obeys.step {R : Task → Scene → Scene → Prop} {E : Task → Outcome → Prop}
    (ops : env.registry.Obeys R E) (h : e.Obeys (R t) (E t))
    (went : e.step env t w = (w', .inl e')) : e'.Obeys (R t) (E t) := by
  cases onward_of_step went with
  | calls known => exact ops known t
  | acts => exact (h w.yield.scene).2
  | _ => trivial

end Evaluation

/-! ## Operations and records -/

/-- Operations that save no completion records in a namespace. Whatever else they do is up to
them. -/
def Registry.KeepsRecords (r : Registry) (ns : Namespace) : Prop :=
  r.Obeys (fun _ a b => b.store.recordsOf.get ns = a.store.recordsOf.get ns) fun _ _ => True

/-- A part of an operation that leaves the book of a namespace alone saves nothing in it. -/
theorem World.saves_enact {ns : Namespace} {w : World} {part : Scene → Scene × List String}
    (keeps : (part w.scene).1.store.recordsOf.get ns = w.store.recordsOf.get ns) :
    World.Saves ns [] w (w.enact part) := by
  refine ⟨keeps, ((part w.scene).2.map Event.noted).reverse, rfl, ?_⟩
  rw [← List.map_reverse, List.filterMap_map]
  exact List.filterMap_eq_nil_iff.2 fun _ _ => rfl

end GatedMigration
