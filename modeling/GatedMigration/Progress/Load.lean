import GatedMigration.Progress

/-!
# What is left of a run

The load of a run is how many migrations are pending, and then how many are running and how many
tasks are pending. Whatever counts as progress lowers it (`Progress.Lower`), and whatever does not
keeps it (`Progress.Level`), so a run makes progress only finitely often, although a migration that
fans out brings any number of new tasks.
-/

namespace GatedMigration.Progress

/-- How many migrations have not fanned out. -/
def waiting (p : Progress) : Nat := p.generators.count fun g => g.entry.phase == .pending

/-- How many migrations and tasks have begun or may begin and are not finished. -/
def unfinished (p : Progress) : Nat :=
  p.generators.count (fun g => g.entry.phase == .running)
    + p.children.count fun e => e.phase == .pending

/-- What is left: pending migrations, then whatever else is unfinished, then idle rounds. -/
def load (p : Progress) : Nat × Nat × Nat :=
  (p.waiting, p.unfinished, p.maxIdleRounds - p.idleRounds)

/-- The same load, under the same bound on idle rounds. -/
def Level (p q : Progress) : Prop :=
  p.waiting = q.waiting ∧ p.unfinished = q.unfinished ∧ p.maxIdleRounds = q.maxIdleRounds
    ∧ p.idleRounds = q.idleRounds

/-- A lower load, under the same bound on idle rounds. -/
def Lower (p q : Progress) : Prop :=
  (p.waiting < q.waiting ∨ p.waiting = q.waiting ∧ p.unfinished < q.unfinished)
    ∧ p.maxIdleRounds = q.maxIdleRounds

theorem Level.rfl {p : Progress} : Level p p := ⟨Eq.refl _, Eq.refl _, Eq.refl _, Eq.refl _⟩

theorem Level.trans {p q r : Progress} (h : Level p q) (k : Level q r) : Level p r :=
  ⟨h.1.trans k.1, h.2.1.trans k.2.1, h.2.2.1.trans k.2.2.1, h.2.2.2.trans k.2.2.2⟩

theorem Lower.trans {p q r : Progress} (h : Lower p q) (k : Lower q r) : Lower p r := by
  unfold Lower at *
  omega

theorem Lower.trans_level {p q r : Progress} (h : Lower p q) (k : Level q r) : Lower p r := by
  unfold Lower Level at *
  omega

theorem Level.trans_lower {p q r : Progress} (h : Level p q) (k : Lower q r) : Lower p r := by
  unfold Lower Level at *
  omega

theorem level_observe (p : Progress) (id : Identifier) (state : Readiness) :
    Level (p.observe id state) p := by
  unfold observe
  split
  · have h (test : GeneratorEntry → Bool)
        (ht : ∀ g : GeneratorEntry, ∀ s, test { g with entry := { g.entry with lastState := s } }
          = test g) :=
      IdMap.count_adjust_eq (m := p.generators) (k := id) fun g _ => ht g (some state)
    refine ⟨?_, ?_, Eq.refl _, Eq.refl _⟩
    · exact h _ fun _ _ => Eq.refl _
    · unfold unfinished
      rw [h _ fun _ _ => Eq.refl _]
  · have h := IdMap.count_adjust_eq (m := p.children) (k := id)
      (f := fun e => { e with lastState := some state }) (t := fun e => e.phase == .pending)
      fun e _ => Eq.refl _
    refine ⟨Eq.refl _, ?_, Eq.refl _, Eq.refl _⟩
    unfold unfinished
    rw [h]

theorem finish_phase_ne (e : Entry) {clean ph : Phase} (errors : List String) (hc : clean ≠ ph)
    (hf : Phase.failed ≠ ph) : ((e.finish clean errors).phase == ph) = false := by
  unfold Entry.finish
  simp only
  split <;> simp [hc, hf]

theorem lower_generatorRan {p : Progress} {id : Identifier} {g : GeneratorEntry}
    (h : p.generators.find? id = some g) (hg : g.entry.phase = .pending)
    (children : List Identifier) (errors : List String) :
    Lower (p.generatorRan id children errors) p := by
  have key := IdMap.count_insert_old h
    { entry := { g.entry with
        phase := .running, lastState := some .ready, errors := g.entry.errors ++ errors }
      children := g.children ++ children } fun g => g.entry.phase == .pending
  refine ⟨Or.inl ?_, ?_⟩
  · unfold waiting generatorRan
    rw [h]
    simp [hg] at key
    simp only
    omega
  · unfold generatorRan
    rw [h]

theorem lower_generatorPassed {p : Progress} {id : Identifier} {g : GeneratorEntry}
    (h : p.generators.find? id = some g) (hg : g.entry.phase = .pending)
    (errors : List String) : Lower (p.generatorPassed id errors) p := by
  refine ⟨Or.inl ?_, Eq.refl _⟩
  have := IdMap.count_adjust_lt h (t := fun g => g.entry.phase == .pending)
    (f := fun g => { g with entry :=
      { g.entry with lastState := some .passed }.finish .passed errors })
    (by simp [hg]) (finish_phase_ne _ errors (by decide) (by decide))
  unfold waiting generatorPassed
  simp only at this ⊢
  omega

theorem lower_child {p : Progress} {id : Identifier} {e : Entry}
    (h : p.children.find? id = some e) (he : e.phase = .pending) (f : Entry → Entry)
    (hf : ((f e).phase == .pending) = false) :
    Lower { p with children := p.children.adjust id f } p := by
  have := IdMap.count_adjust_lt h (t := fun e => e.phase == .pending) (f := f) (by simp [he]) hf
  refine ⟨Or.inr ⟨Eq.refl _, ?_⟩, Eq.refl _⟩
  unfold unfinished
  simp only
  omega

theorem lower_childExecuted {p : Progress} {id : Identifier} {e : Entry}
    (h : p.children.find? id = some e) (he : e.phase = .pending) (errors : List String) :
    Lower (p.childExecuted id errors) p :=
  lower_child h he _ (finish_phase_ne _ errors (by decide) (by decide))

theorem lower_childPassed {p : Progress} {id : Identifier} {e : Entry}
    (h : p.children.find? id = some e) (he : e.phase = .pending) (errors : List String) :
    Lower (p.childPassed id errors) p :=
  lower_child h he _ (finish_phase_ne _ errors (by decide) (by decide))

theorem lower_finalizeGenerator {p : Progress} {id : Identifier} {g : GeneratorEntry}
    (h : p.generators.find? id = some g) (hg : g.entry.phase = .running)
    (errors : List String) : Lower (p.finalizeGenerator id errors) p := by
  have running := IdMap.count_adjust_lt h (t := fun g => g.entry.phase == .running)
    (f := fun g =>
      let all := failedChildrenErrors (p.failedChildren g) ++ errors
      { g with entry := g.entry.finish .succeeded all })
    (by simp [hg]) (finish_phase_ne _ _ (by decide) (by decide))
  have pending := IdMap.count_adjust_eq (m := p.generators) (k := id)
    (t := fun g => g.entry.phase == .pending)
    (f := fun g =>
      let all := failedChildrenErrors (p.failedChildren g) ++ errors
      { g with entry := g.entry.finish .succeeded all })
    fun g' hg' => by
      obtain rfl : g = g' := by simpa [h] using hg'
      rw [finish_phase_ne _ _ (by decide) (by decide), hg]
      rfl
  refine ⟨Or.inr ⟨pending, ?_⟩, Eq.refl _⟩
  unfold unfinished finalizeGenerator
  simp only at running ⊢
  omega

end GatedMigration.Progress
