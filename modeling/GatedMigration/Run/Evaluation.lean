import GatedMigration.Operation
import GatedMigration.Oracle

/-!
# Tasks at work

A task is asked whether it may run, its operation is called if it may, and its completion record is
saved if it has come to its end. Several tasks may be at work at once: how far one has come is its
`Evaluation`, and `Evaluation.step` takes it one step further, in whatever world the others have
left. The last step has the `Verdict` on the task.

* `Evaluation.step_lt`: every step leaves less to do, so each task comes to its verdict.
-/

namespace GatedMigration

/-- What the evaluation of a task has led to. -/
inductive Verdict where
  /-- Its operation was applied, with the errors of that and of saving the record. -/
  | executed (errors : List String)
  /-- There was nothing to do, with the errors of saving the record. -/
  | passed (errors : List String)
  | waiting (state : Readiness)
  | canceled
  /-- The operation broke off. -/
  | lost

/-- How a task ends whose record is to be saved. -/
inductive Ending where
  /-- There was nothing to do. -/
  | passed
  /-- Its operation was applied, with or without an error. -/
  | executed (error : Option String)

namespace Ending

/-- The errors so far. -/
def errors : Ending → List String
  | passed => []
  | executed error => error.toList

/-- The verdict, with the errors of saving the record. -/
def verdict (more : List String) : Ending → Verdict
  | passed => .passed more
  | executed error => .executed (error.toList ++ more)

end Ending

/-- How far the evaluation of a task has come. -/
inductive Evaluation where
  /-- The task is asked whether it may run. -/
  | asking (i : Inquiry)
  /-- It may run. -/
  | ready
  /-- Its operation is at work. -/
  | applying (script : Script)
  /-- Its record is to be saved. -/
  | saving (ending : Ending)
  /-- Its record is being saved. -/
  | writing (ending : Ending) (q : World.Underway)

namespace Evaluation

/-- The rest of an evaluation, or the verdict. -/
abbrev Next := Evaluation ⊕ Verdict

/-- What the answer to the question means for the task. -/
def answered : World × Inquiry.Next → World × Next
  | (w, .inl i) => (w, .inl (.asking i))
  | (w, .inr none) => (w, .inr .canceled)
  | (w, .inr (some .ready)) => (w, .inl .ready)
  | (w, .inr (some .passed)) => (w, .inl (.saving .passed))
  | (w, .inr (some state)) => (w, .inr (.waiting state))

/-- The operation called, if it is known. -/
def launch (env : Environment) (t : Task) (w : World) : World × Next :=
  match env.registry.get t.operation with
  | .error e => (w, .inl (.saving (.executed (some e.message))))
  | .ok op => (w.note (.applied t), .inl (.applying (op t)))

/-- The operation has ended. -/
def returned (t : Task) (outcome : Outcome) (w : World) : World × Next :=
  let w := w.note (.returned t.id outcome)
  match outcome with
  | .succeeded => (w, .inl (.saving (.executed none)))
  | .lost => (w.note .taskLost, .inr .lost)
  | .failed text =>
    let w := w.yield
    if w.isCanceled then (w, .inr .canceled)
    else (w.warn (.taskFailed t.id text), .inl (.saving (.executed (some text))))

/-- The completion record of a task. -/
def record (t : Task) (ending : Ending) : CompletionRecord :=
  .finished t.id t.migration (!ending.errors.isEmpty)

/-- The completion record of a task saved. -/
def save (env : Environment) (t : Task) (ending : Ending) (s : Store) : Call Unit :=
  s.upsertRecord env.metadata (record t ending)

/-- The record was saved, or not. -/
def saved (t : Task) (ending : Ending) : World × Except StoreFailure Unit → World × Next
  | (w, .ok ()) => (w.note (.recorded (record t ending)), .inr (ending.verdict []))
  | (w, .error .canceled) => (w, .inr .canceled)
  | (w, .error e) => (w.warn (.unsavedRecord t.id e), .inr (ending.verdict [e.message]))

/-- The evaluation of a task taken one step further. -/
def step (env : Environment) (t : Task) : Evaluation → World → World × Next
  | .asking i, w => answered (i.step t.oracle env.metadata w)
  | .ready, w => launch env t w
  | .applying (.act part rest), w =>
    let w := w.yield
    (w.enact part, .inl (.applying (rest w.scene)))
  | .applying (.done outcome), w => returned t outcome w
  | .saving ending, w =>
    match w.yield.begin (save env t ending) with
    | (w, .ok q) => (w, .inl (.writing ending q))
    | (w, .error e) => saved t ending (w, .error e)
  | .writing ending q, w => saved t ending (w.complete (save env t ending) q)

/-! ## Every evaluation comes to its end -/

/-- What is left to do: the steps that are left if nothing is known of how long the next ones take,
then the records to be read, and then the operation. -/
def left : Evaluation → Nat × Nat × Script
  | asking i => (i.left.1 + 4, i.left.2, .done .lost)
  | ready => (3, 0, .done .lost)
  | applying script => (2, 0, script)
  | saving _ => (1, 0, .done .lost)
  | writing _ _ => (0, 0, .done .lost)

instance : WellFoundedRelation Evaluation := invImage left inferInstance

theorem saved_inr (t : Task) (ending : Ending) (r : World × Except StoreFailure Unit) :
    ∃ verdict, (saved t ending r).2 = .inr verdict := by
  obtain ⟨w, e | _⟩ := r
  · cases e <;> exact ⟨_, rfl⟩
  · exact ⟨_, rfl⟩

/-- Every step leaves less to do. -/
theorem step_lt {env : Environment} {t : Task} {e e' : Evaluation} {w : World}
    (h : (e.step env t w).2 = .inl e') : WellFoundedRelation.rel e' e := by
  have lower {n : Nat} (k : e'.left.1 < n) {a : Nat} {s : Script} :
      Prod.Lex (· < ·) (Prod.Lex (· < ·) WellFoundedRelation.rel) e'.left (n, a, s) :=
    .left _ _ k
  cases e with
  | asking i =>
    rw [step] at h
    have less {i' : Inquiry} (h : (i.step t.oracle env.metadata w).2 = .inl i') := Inquiry.step_lt h
    generalize i.step t.oracle env.metadata w = p at *
    obtain ⟨w', i' | _ | _ | _ | _ | _⟩ := p <;> cases h
    · show Prod.Lex _ _ (_, _, _) (_, _, _)
      have less := less rfl
      generalize i'.left = l at *
      generalize i.left = l' at *
      cases less with
      | left _ _ k => exact .left _ _ (Nat.add_lt_add_right k 4)
      | right _ k => exact .right _ (.left _ _ k)
    · exact lower (show 1 < i.left.1 + 4 by omega)
    · exact lower (show 3 < i.left.1 + 4 by omega)
  | ready =>
    rw [step, launch] at h
    split at h <;> cases h
    · exact lower (show 1 < 3 by decide)
    · exact lower (show 2 < 3 by decide)
  | applying script =>
    cases script with
    | done outcome =>
      rw [step] at h
      cases outcome with
      | succeeded =>
        cases h
        exact lower (show 1 < 2 by decide)
      | lost => cases h
      | failed text =>
        unfold returned at h
        dsimp only at h
        split at h <;> cases h
        exact lower (show 1 < 2 by decide)
    | act part rest =>
      rw [step] at h
      cases h
      exact .right _ (.right _ (.rest part rest _))
  | saving ending =>
    rw [step] at h
    split at h
    · cases h
      exact lower (show 0 < 1 by decide)
    · obtain ⟨verdict, ends⟩ := saved_inr t ending (_, .error _)
      cases ends.symm.trans h
  | writing ending q =>
    obtain ⟨verdict, ends⟩ := saved_inr t ending (w.complete _ q)
    cases ends.symm.trans h

end Evaluation

end GatedMigration
