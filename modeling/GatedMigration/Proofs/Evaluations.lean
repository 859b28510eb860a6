import GatedMigration.Run.Evaluation

/-!
# Steps of tasks at work

All that a step of a task at work can be: the task goes on (`Evaluation.Onward`), or it has come to
its verdict (`Evaluation.Final`). What the steps keep is proved of these cases.
-/

namespace GatedMigration.Evaluation

/-- A task goes on with a step that takes the world from `w` to `w'`. -/
inductive Onward (env : Environment) (t : Task) (w w' : World) :
    Evaluation → Evaluation → Prop where
  | asks {i i' : Inquiry} (step : i.step t.oracle env.metadata w = (w', .inl i')) :
      Onward env t w w' (.asking i) (.asking i')
  | readies {i : Inquiry} (step : i.step t.oracle env.metadata w = (w', .inr (some .ready))) :
      Onward env t w w' (.asking i) .ready
  | passes {i : Inquiry} (step : i.step t.oracle env.metadata w = (w', .inr (some .passed))) :
      Onward env t w w' (.asking i) (.saving .passed)
  | misses {e : RegistryFailure} (unknown : env.registry.get t.operation = .error e)
      (same : w' = w) : Onward env t w w' .ready (.saving (.executed (some e.message)))
  | calls {op : Operation} (known : env.registry.get t.operation = .ok op)
      (called : w' = w.note (.applied t)) : Onward env t w w' .ready (.applying (op t))
  | acts {part : Scene → Scene × List String} {rest : Scene → Script}
      (done : w' = w.yield.enact part) :
      Onward env t w w' (.applying (.act part rest)) (.applying (rest w.yield.scene))
  | succeeds (noted : w' = w.note (.returned t.id .succeeded)) :
      Onward env t w w' (.applying (.done .succeeded)) (.saving (.executed none))
  | fails {text : String} {v : World} (noted : v = (w.note (.returned t.id (.failed text))).yield)
      (going : v.isCanceled = false) (warned : w' = v.warn (.taskFailed t.id text)) :
      Onward env t w w' (.applying (.done (.failed text))) (.saving (.executed (some text)))
  | writes {ending : Ending} {q : World.Underway}
      (begun : w.yield.begin (save env t ending) = (w', .ok q)) :
      Onward env t w w' (.saving ending) (.writing ending q)

/-- A task comes to its verdict with a step that takes the world from `w` to `w'`. -/
inductive Final (env : Environment) (t : Task) (w w' : World) : Evaluation → Verdict → Prop where
  | canceled {i : Inquiry} (step : i.step t.oracle env.metadata w = (w', .inr none)) :
      Final env t w w' (.asking i) .canceled
  | waits {i : Inquiry} {state : Readiness}
      (step : i.step t.oracle env.metadata w = (w', .inr (some state)))
      (unready : state ≠ .ready) (unfinished : state ≠ .passed) :
      Final env t w w' (.asking i) (.waiting state)
  | breaksOff (noted : w' = (w.note (.returned t.id .lost)).note .taskLost) :
      Final env t w w' (.applying (.done .lost)) .lost
  | aborts {text : String} (noted : w' = (w.note (.returned t.id (.failed text))).yield)
      (canceled : w'.isCanceled = true) :
      Final env t w w' (.applying (.done (.failed text))) .canceled
  | refused {ending : Ending} {v : World} {e : StoreFailure} {verdict : Verdict}
      (unbegun : w.yield.begin (save env t ending) = (v, .error e))
      (ended : saved t ending (v, .error e) = (w', .inr verdict)) :
      Final env t w w' (.saving ending) verdict
  | written {ending : Ending} {q : World.Underway} {verdict : Verdict}
      (ended : saved t ending (w.complete (save env t ending) q) = (w', .inr verdict)) :
      Final env t w w' (.writing ending q) verdict

variable {env : Environment} {t : Task} {e e' : Evaluation} {verdict : Verdict} {w w' : World}

/-- The saving of a record is the last thing. -/
theorem saved_ne_inl {ending : Ending} {p : World × Except StoreFailure Unit} :
    saved t ending p ≠ (w', .inl e') := by
  obtain ⟨verdict, ends⟩ := saved_inr t ending p
  exact fun h => by rw [h] at ends; cases ends

theorem onward_of_step (h : e.step env t w = (w', .inl e')) : Onward env t w w' e e' := by
  match e with
  | .asking i =>
    rw [step] at h
    cases asked : i.step t.oracle env.metadata w with
    | mk v next =>
      rw [asked] at h
      obtain i' | _ | _ | _ | _ | _ := next <;> cases h
      · exact .asks asked
      · exact .passes asked
      · exact .readies asked
  | .ready =>
    rw [step, launch] at h
    split at h <;> cases h
    · exact .misses (by assumption) rfl
    · exact .calls (by assumption) rfl
  | .applying (.act part rest) =>
    cases h
    exact .acts rfl
  | .applying (.done outcome) =>
    rw [step] at h
    cases outcome with
    | succeeded =>
      cases h
      exact .succeeds rfl
    | lost => cases h
    | failed text =>
      unfold returned at h
      dsimp only at h
      split at h <;> cases h
      exact .fails rfl (eq_false_of_ne_true (by assumption)) rfl
  | .saving ending =>
    rw [step] at h
    split at h
    · rename_i begun
      cases h
      exact .writes begun
    · exact absurd h saved_ne_inl
  | .writing ending q => exact absurd h saved_ne_inl

theorem final_of_step (h : e.step env t w = (w', .inr verdict)) : Final env t w w' e verdict := by
  match e with
  | .asking i =>
    rw [step] at h
    cases asked : i.step t.oracle env.metadata w with
    | mk v next =>
      rw [asked] at h
      obtain i' | _ | _ | _ | _ | _ := next <;> cases h
      · exact .canceled asked
      · exact .waits asked (by rintro ⟨⟩) (by rintro ⟨⟩)
      · exact .waits asked (by rintro ⟨⟩) (by rintro ⟨⟩)
  | .ready =>
    rw [step, launch] at h
    split at h <;> cases h
  | .applying (.act part rest) => cases h
  | .applying (.done outcome) =>
    rw [step] at h
    cases outcome with
    | succeeded => cases h
    | lost =>
      cases h
      exact .breaksOff rfl
    | failed text =>
      unfold returned at h
      dsimp only at h
      split at h <;> cases h
      exact .aborts rfl (by assumption)
  | .saving ending =>
    rw [step] at h
    split at h
    · cases h
    · rename_i unbegun
      exact .refused unbegun h
  | .writing ending q => exact .written h

end GatedMigration.Evaluation
