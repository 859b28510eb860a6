import GatedMigration.Run.Evaluation

/-!
# The tasks of a round

The tasks of a round stand in one list. The first ones are at work, as many as there may be at once,
and the others follow as soon as one of these has come to its verdict. Each step of one of them
leaves less to do (`Shrinks`), so all of them come to their verdicts, whoever has his turn when.
-/

namespace GatedMigration

/-- A task in a round, and how far it has come. -/
structure Flight where
  task : Task
  evaluation : Evaluation

namespace Flight

/-- A task that has not begun. -/
def fresh (t : Task) : Flight := ⟨t, .asking .fresh⟩

/-- Less is left to do for a task. -/
def Less (f f' : Flight) : Prop := WellFoundedRelation.rel f.evaluation f'.evaluation

end Flight

/-- One member of a list is gone, or less of it is left. -/
inductive Shrinks {α : Type} (less : α → α → Prop) : List α → List α → Prop
  | gone (a : α) (l : List α) : Shrinks less l (a :: l)
  | lessens {a a' : α} (h : less a' a) (l : List α) : Shrinks less (a' :: l) (a :: l)
  | later (a : α) {l l' : List α} (h : Shrinks less l' l) : Shrinks less (a :: l') (a :: l)

namespace Shrinks

variable {α : Type} {less : α → α → Prop}

theorem acc_cons {a : α} {l : List α} (ha : Acc less a) (hl : Acc (Shrinks less) l) :
    Acc (Shrinks less) (a :: l) := by
  induction ha generalizing l with
  | intro a _ ha =>
    induction hl with
    | intro l hl ih =>
      refine ⟨_, fun l' h => ?_⟩
      cases h with
      | gone => exact ⟨_, hl⟩
      | lessens h => exact ha _ h ⟨_, hl⟩
      | later _ h => exact ih _ h

theorem acc (wf : ∀ a, Acc less a) (l : List α) : Acc (Shrinks less) l := by
  induction l with
  | nil => exact ⟨_, fun _ h => by cases h⟩
  | cons a l ih => exact acc_cons (wf a) ih

theorem append_gone (before : List α) (a : α) (behind : List α) :
    Shrinks less (before ++ behind) (before ++ a :: behind) := by
  induction before with
  | nil => exact .gone a behind
  | cons b before ih => exact .later b ih

theorem append_lessens (before : List α) {a a' : α} (h : less a' a) (behind : List α) :
    Shrinks less (before ++ a' :: behind) (before ++ a :: behind) := by
  induction before with
  | nil => exact .lessens h behind
  | cons b before ih => exact .later b ih

end Shrinks

instance : WellFoundedRelation (List Flight) :=
  ⟨Shrinks Flight.Less,
    ⟨Shrinks.acc fun f => (invImage Flight.evaluation inferInstance).wf.apply f⟩⟩

end GatedMigration
