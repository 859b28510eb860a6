import GatedMigration.World

/-!
# Undisturbed worlds

In an undisturbed world nothing ends a run early and nobody else is at work
(`World.Undisturbed`). There a wait always comes to its end, and a call to the store gives the
answer of the store, be it a failure (`World.Undisturbed.guard`).
-/

namespace GatedMigration

/-- Nothing ends the run early, and nobody else is at work. -/
structure World.Undisturbed (w : World) : Prop where
  context : w.context = {}
  outside : w.outside = []

namespace World.Undisturbed

variable {w : World} (h : w.Undisturbed)

include h

/-- Only the context and those outside disturb. -/
theorem of_eq {w' : World} (context : w'.context = w.context) (outside : w'.outside = w.outside) :
    w'.Undisturbed :=
  ⟨context.trans h.context, outside.trans h.outside⟩

theorem yield : w.yield = w := by
  rw [World.yield, h.outside]

theorem isCanceled : w.isCanceled = false := by
  rw [World.isCanceled, h.context]
  rfl

theorem refusal? : w.refusal? = none := by
  rw [World.refusal?, h.isCanceled, h.context]
  rfl

theorem wait (ms : Nat) : w.wait ms = ({ w with clock := w.waitEnd ms }, .ok ()) := by
  rw [World.wait, h.context]

theorem guardWait (ms : Nat) : w.guardWait ms = (w.pass ms, .ok ()) := by
  rw [World.guardWait, h.yield, h.refusal?, h.wait]
  rfl

theorem pause (ms : Nat) : w.pause ms = (w.pass ms, true) := by
  rw [World.pause, h.yield, h.isCanceled, h.context]
  rfl

/-- A guarded call comes to its end. -/
theorem guard {α : Type} (call : Call α) :
    ∃ t, w.guard call = ({ w with clock := t, store := (call.finish (call.start w.store)).1 },
      (call.finish (call.start w.store)).2) := by
  have started : ({ w with store := call.start w.store } : World).Undisturbed := h.of_eq rfl rfl
  rw [World.guard, h.refusal?]
  dsimp only
  rw [started.wait]
  exact ⟨_, rfl⟩

/-- A guarded call gives the answer of the store. -/
theorem guard_of_finish {α : Type} {call : Call α} {s : Store} {answer : Except StoreFailure α}
    (finish : call.finish (call.start w.store) = (s, answer)) :
    ∃ w', w.guard call = (w', answer) ∧ w'.Undisturbed ∧ w'.store = s := by
  obtain ⟨t, guarded⟩ := h.guard call
  rw [finish] at guarded
  exact ⟨_, guarded, h.of_eq rfl rfl, rfl⟩

theorem begin {α : Type} (call : Store → Call α) :
    w.begin call = ({ w with store := (call w.store).start w.store },
      .ok ⟨w.store, w.waitEnd (call w.store).latency⟩) := by
  rw [World.begin, h.refusal?]

/-- A guarded call that has started comes to its end, and gives the answer of the store. -/
theorem complete {α : Type} (call : Store → Call α) (q : Underway) :
    ∃ t, w.complete call q = ({ w with clock := t, store := ((call q.asked).finish w.store).1 },
      ((call q.asked).finish w.store).2) := by
  have woken : w.wake q.due = ({ w with clock := max w.clock q.due }, .ok ()) := by
    have later : ({ w with clock := max w.clock q.due } : World).Undisturbed := h.of_eq rfl rfl
    unfold wake
    rw [h.context]
    dsimp only [earlier]
    rw [← h.context, later.refusal?]
  unfold World.complete
  split
  · rename_i refused
    split at refused
    · cases refused
    · cases woken.symm.trans refused
  · rename_i v ended
    split at ended
    · cases ended
      exact ⟨w.clock, rfl⟩
    · cases woken.symm.trans ended
      exact ⟨max w.clock q.due, rfl⟩

end World.Undisturbed

/-! ## Counting documents -/

variable {sel : Selector}

/-- A selector that has an answer for each of some documents counts them. -/
theorem Store.countMatching_ok (docs : List Document)
    (h : ∀ d ∈ docs, ∃ hit, sel.accepts d = .ok hit) :
    ∃ n, countMatching sel docs = .ok n ∧ (n = 0 ↔ ∀ d ∈ docs, sel.accepts d = .ok false) := by
  induction docs with
  | nil => exact ⟨0, rfl, fun _ _ mem => absurd mem List.not_mem_nil, fun _ => rfl⟩
  | cons d docs ih =>
    obtain ⟨n, counted, none⟩ := ih fun d mem => h d (List.mem_cons_of_mem _ mem)
    obtain ⟨hit, accepted⟩ := h d List.mem_cons_self
    rw [countMatching, accepted, counted]
    refine ⟨_, rfl, ?_⟩
    rw [List.forall_mem_cons, accepted, ← none]
    cases hit <;> simp

/-- A selector that fails on one of the documents counts nothing. -/
theorem Store.countMatching_error {docs : List Document} {d : Document} (mem : d ∈ docs)
    {e : SelectorError} (fails : sel.accepts d = .error e) :
    ∃ e', countMatching sel docs = .error e' := by
  induction docs with
  | nil => exact absurd mem List.not_mem_nil
  | cons d' docs ih =>
    rcases List.mem_cons.1 mem with rfl | mem
    · exact ⟨e, by rw [countMatching, fails]⟩
    · obtain ⟨e', counted⟩ := ih mem
      rw [countMatching, counted]
      split
      · exact ⟨_, rfl⟩
      · exact ⟨e', rfl⟩

end GatedMigration
