import GatedMigration.Run.Round

/-!
# Rounds and the load of a run

A part of a round that makes progress lowers the load of the run, and one that makes none keeps it:
`round_load`. It follows from what one question does to the migration that it is about
(`advance_load`) and one verdict to its task (`record_load`), since neither touches another one.
-/

namespace GatedMigration

open Progress (Level Lower)

namespace Progress

/-- Either progress, and less is left, or none, and as much is left. -/
def Accounted (p q : Progress) (before after : Bool) : Prop :=
  Level p q ∧ after = before ∨ Lower p q ∧ after = true

theorem Accounted.trans {p q r : Progress} {a b c : Bool} (h : Accounted p q b c)
    (k : Accounted q r a b) : Accounted p r a c := by
  rcases h with ⟨h, rfl⟩ | ⟨h, rfl⟩ <;> rcases k with ⟨k, rfl⟩ | ⟨k, rfl⟩
  · exact Or.inl ⟨h.trans k, rfl⟩
  · exact Or.inr ⟨h.trans_lower k, rfl⟩
  · exact Or.inr ⟨h.trans_level k, rfl⟩
  · exact Or.inr ⟨h.trans k, rfl⟩

theorem mem_keys_filter {α : Type} (m : IdMap α) (test : α → Bool) {id : Identifier}
    (h : id ∈ (m.toList.filter fun p => test p.2).map Prod.fst) :
    ∃ v, m.find? id = some v ∧ test v = true := by
  obtain ⟨⟨id', v⟩, hmem, rfl⟩ := List.mem_map.1 h
  obtain ⟨hmem, htest⟩ := List.mem_filter.1 hmem
  refine ⟨v, ?_, htest⟩
  exact Keyed.find?_of_mem m.ascending hmem

theorem nodup_keys_filter {α : Type} (m : IdMap α) (test : String × α → Bool) :
    ((m.toList.filter test).map Prod.fst).Nodup :=
  Keyed.nodup_of_ascending (m.ascending.sublist ((List.filter_sublist (p := test)).map Prod.fst))

end Progress

namespace RunState

/-! ## Migrations -/

theorem advance_load (env : Environment) {id : Identifier} {s : RunState} {g : GeneratorEntry}
    (h : s.progress.generators.find? id = some g) (hg : g.entry.phase = .pending) :
    ((s.advance env id).2 = .moved → Lower (s.advance env id).1.progress s.progress) ∧
    ((s.advance env id).2 = .idle → Level (s.advance env id).1.progress s.progress) := by
  unfold advance
  split
  · exact ⟨fun e => (by cases e), fun _ => Level.rfl⟩
  · split
    · exact ⟨fun e => by (cases e), fun e => by (cases e)⟩
    · split
      · exact ⟨fun e => by (cases e), fun e => by (cases e)⟩
      · exact ⟨fun _ => Progress.lower_generatorRan h hg _ _, fun e => by (cases e)⟩
    · split
      · exact ⟨fun e => by (cases e), fun e => by (cases e)⟩
      · exact ⟨fun _ => Progress.lower_generatorPassed h hg _, fun e => by (cases e)⟩
    · exact ⟨fun e => by (cases e), fun _ => Progress.level_observe _ _ _⟩

theorem advance_generators_of_ne {env : Environment} {id id' : Identifier} {s : RunState}
    {g : GeneratorEntry} (h : s.progress.generators.find? id = some g) (hne : id' ≠ id) :
    (s.advance env id).1.progress.generators.find? id' = s.progress.generators.find? id' := by
  unfold advance
  split
  · rfl
  · split
    · rfl
    · split
      · rfl
      · simp only [takeJobs, Progress.generatorRan, h]
        exact IdMap.find?_insert_of_ne _ hne _
    · split
      · rfl
      · exact IdMap.find?_adjust_of_ne _ hne _
    · simp only [Progress.observe]
      split
      · exact IdMap.find?_adjust_of_ne _ hne _
      · rfl

theorem generatorRound_load (env : Environment) {ids : List Identifier} (progressed : Bool)
    {s : RunState} (hids : ids.Nodup)
    (hp : ∀ id ∈ ids, ∃ g, s.progress.generators.find? id = some g ∧ g.entry.phase = .pending)
    {b : Bool} (hb : (generatorRound env ids progressed s).2 = some b) :
    Progress.Accounted (generatorRound env ids progressed s).1.progress s.progress
      progressed b := by
  induction ids generalizing progressed s with
  | nil =>
    obtain rfl : progressed = b := by simpa [generatorRound] using hb
    exact Or.inl ⟨Level.rfl, rfl⟩
  | cons id ids ih =>
    obtain ⟨hid, hids⟩ := List.nodup_cons.1 hids
    obtain ⟨g, hg, hpend⟩ := hp id List.mem_cons_self
    have load := advance_load env hg hpend
    have others : ∀ id' ∈ ids, ∃ g, (s.advance env id).1.progress.generators.find? id' = some g ∧
        g.entry.phase = .pending := fun id' hmem => by
      have hne : id' ≠ id := fun e => hid (e ▸ hmem)
      rw [advance_generators_of_ne hg hne]
      exact hp id' (List.mem_cons_of_mem _ hmem)
    rw [generatorRound] at hb ⊢
    generalize s.advance env id = r at *
    obtain ⟨s', step⟩ := r
    cases step with
    | canceled => simp at hb
    | moved =>
      simp only at hb load others ⊢
      rcases ih _ hids others hb with ⟨hlevel, hb'⟩ | ⟨hlower, hb'⟩
      · exact Or.inr ⟨hlevel.trans_lower (load.1 trivial), by simpa using hb'⟩
      · exact Or.inr ⟨hlower.trans (load.1 trivial), hb'⟩
    | idle =>
      simp only at hb load others ⊢
      rcases ih _ hids others hb with ⟨hlevel, hb'⟩ | ⟨hlower, hb'⟩
      · refine Or.inl ⟨hlevel.trans (load.2 trivial), ?_⟩
        rw [hb']
        cases progressed <;> rfl
      · exact Or.inr ⟨hlower.trans_level (load.2 trivial), hb'⟩

/-! ## Tasks -/

theorem record_load {p : Progress} {id : Identifier} {e : Entry}
    (h : p.children.find? id = some e) (he : e.phase = .pending) (verdict : Verdict) :
    ((record p id verdict).2 = .moved → Lower (record p id verdict).1 p) ∧
    ((record p id verdict).2 ≠ .moved → Level (record p id verdict).1 p) := by
  cases verdict with
  | executed errors =>
    exact ⟨fun _ => Progress.lower_childExecuted h he errors, fun hne => absurd rfl hne⟩
  | passed errors =>
    exact ⟨fun _ => Progress.lower_childPassed h he errors, fun hne => absurd rfl hne⟩
  | waiting state => exact ⟨fun e => (by cases e), fun _ => Progress.level_observe _ _ _⟩
  | canceled => exact ⟨fun e => (by cases e), fun _ => Level.rfl⟩
  | lost => exact ⟨fun e => (by cases e), fun _ => Level.rfl⟩

theorem record_children_of_ne (p : Progress) {id id' : Identifier} (hne : id' ≠ id)
    (verdict : Verdict) : (record p id verdict).1.children.find? id' = p.children.find? id' := by
  cases verdict with
  | executed errors => exact IdMap.find?_adjust_of_ne _ hne _
  | passed errors => exact IdMap.find?_adjust_of_ne _ hne _
  | waiting state =>
    simp only [record, Progress.observe]
    split
    · rfl
    · exact IdMap.find?_adjust_of_ne _ hne _
  | canceled => rfl
  | lost => rfl

/-- Tasks in a round are known and pending, and each of them stands there once. -/
structure Expects (s : RunState) (flights : List Flight) : Prop where
  distinct : (flights.map fun f => f.task.id).Nodup
  known : ∀ f ∈ flights, s.tasks.find? f.task.id = some f.task
  pending : ∀ f ∈ flights, ∃ e, s.progress.children.find? f.task.id = some e ∧ e.phase = .pending

/-- Whichever of the tasks at work goes on, the others are still expected. -/
theorem Expects.work {env : Environment} {workers : Nat} {flights : List Flight} {s : RunState}
    {r : RunState × List Flight × Step} (h : s.Expects flights)
    (works : Works env workers flights s r) : r.1.Expects r.2.1 := by
  cases works with
  | goesOn before f behind world evaluation among room step =>
    subst among
    obtain ⟨distinct, known, pending⟩ := h
    have same {f' : Flight} (mem : f' ∈ before ++ { f with evaluation } :: behind) :
        ∃ f'' ∈ before ++ f :: behind, f''.task = f'.task := by
      rcases List.mem_append.1 mem with mem | mem
      · exact ⟨f', List.mem_append_left _ mem, rfl⟩
      · rcases List.mem_cons.1 mem with rfl | mem
        · exact ⟨f, List.mem_append_cons_self, rfl⟩
        · exact ⟨f', List.mem_append_right _ (List.mem_cons_of_mem _ mem), rfl⟩
    refine ⟨by simpa only [List.map_append, List.map_cons] using distinct, fun f' mem => ?_,
      fun f' mem => ?_⟩
    · obtain ⟨f'', mem, same⟩ := same mem
      exact same ▸ known f'' mem
    · obtain ⟨f'', mem, same⟩ := same mem
      exact same ▸ pending f'' mem
  | ends before f behind world verdict among room step =>
    subst among
    obtain ⟨distinct, known, pending⟩ := h
    rw [List.map_append, List.map_cons, List.perm_middle.nodup_iff, List.nodup_cons,
      ← List.map_append] at distinct
    have earlier {f' : Flight} (mem : f' ∈ before ++ behind) : f' ∈ before ++ f :: behind :=
      (List.sublist_append_right [f] behind).append_left before |>.subset mem
    refine ⟨distinct.2, fun f' mem => known f' (earlier mem), fun f' mem => ?_⟩
    have hne : f'.task.id ≠ f.task.id := fun e => distinct.1 (e ▸ List.mem_map_of_mem mem)
    dsimp only
    rw [record_children_of_ne _ hne]
    exact pending f' (earlier mem)

/-- The tasks at work bring no new task. -/
theorem work_known {env : Environment} {workers : Nat} {flights : List Flight} {s : RunState}
    {r : RunState × List Flight × Step} (h : s.Expects flights)
    (works : Works env workers flights s r) {id : Identifier}
    (known : r.1.progress.children.contains id = true) :
    s.progress.children.contains id = true := by
  cases works with
  | goesOn => exact known
  | ends before f behind world verdict among =>
    by_cases same : id = f.task.id
    · obtain ⟨e, found, -⟩ :=
        h.pending f (among ▸ List.mem_append_cons_self)
      exact same ▸ IdMap.contains_of_find? found
    · rw [IdMap.contains, ← record_children_of_ne s.progress same verdict]
      exact known

theorem work_load {env : Environment} {workers : Nat} {flights : List Flight} {s : RunState}
    {r : RunState × List Flight × Step} (h : s.Expects flights)
    (works : Works env workers flights s r) :
    (r.2.2 = .moved → Lower r.1.progress s.progress) ∧
    (r.2.2 ≠ .moved → Level r.1.progress s.progress) := by
  cases works with
  | goesOn => exact ⟨fun e => (by cases e), fun _ => Level.rfl⟩
  | ends before f behind world verdict among =>
    obtain ⟨e, he, pending⟩ :=
      h.pending f (among ▸ List.mem_append_cons_self)
    exact record_load he pending verdict

theorem childRound_load {env : Environment} {workers : Nat} {flights : List Flight}
    {progressed canceled : Bool} {s : RunState} (expected : s.Expects flights) {b : Bool}
    (hb : (childRound env workers flights progressed canceled s).2 = some b) :
    Progress.Accounted (childRound env workers flights progressed canceled s).1.progress s.progress
      progressed b := by
  induction flights, progressed, canceled, s using childRound.induct env workers with
  | case1 progressed canceled s =>
    rw [childRound_nil] at hb ⊢
    dsimp only at hb
    split at hb
    · cases hb
    · obtain rfl : progressed = b := by simpa using hb
      exact Or.inl ⟨Level.rfl, rfl⟩
  | case2 flights progressed canceled s left s' flights' step worked ih =>
    have works := work_cases env workers left s
    rw [childRound_eq env workers left] at hb ⊢
    rw [worked] at works hb ⊢
    have load := work_load expected works
    have rest := ih (expected.work works) hb
    by_cases hm : step = .moved
    · subst hm
      rcases rest with ⟨hlevel, hb'⟩ | ⟨hlower, hb'⟩
      · exact Or.inr ⟨hlevel.trans_lower (load.1 rfl), by simpa using hb'⟩
      · exact Or.inr ⟨hlower.trans (load.1 rfl), hb'⟩
    · rcases rest with ⟨hlevel, hb'⟩ | ⟨hlower, hb'⟩
      · refine Or.inl ⟨hlevel.trans (load.2 hm), ?_⟩
        rw [hb']
        cases step <;> simp_all
      · exact Or.inr ⟨hlower.trans_level (load.2 hm), hb'⟩

/-! ## Closing migrations -/

theorem close_load (env : Environment) {id : Identifier} (hasErrors : Bool) {s : RunState}
    {g : GeneratorEntry} (h : s.progress.generators.find? id = some g)
    (hg : g.entry.phase = .running) :
    ((s.close env id hasErrors).2 = .moved →
      Lower (s.close env id hasErrors).1.progress s.progress) ∧
    (s.close env id hasErrors).2 ≠ .idle := by
  unfold close
  split
  · exact ⟨fun e => (by cases e), fun e => (by cases e)⟩
  · exact ⟨fun _ => Progress.lower_finalizeGenerator h hg _, fun e => (by cases e)⟩

theorem close_generators_of_ne {env : Environment} {id id' : Identifier} {hasErrors : Bool}
    {s : RunState} (hne : id' ≠ id) :
    (s.close env id hasErrors).1.progress.generators.find? id' =
      s.progress.generators.find? id' := by
  unfold close
  split
  · rfl
  · exact IdMap.find?_adjust_of_ne _ hne _

theorem finalizeRound_load (env : Environment) {settled : List (Identifier × Bool)}
    (progressed : Bool) {s : RunState} (hids : (settled.map Prod.fst).Nodup)
    (hp : ∀ id ∈ settled.map Prod.fst,
      ∃ g, s.progress.generators.find? id = some g ∧ g.entry.phase = .running)
    {b : Bool} (hb : (finalizeRound env settled progressed s).2 = some b) :
    Progress.Accounted (finalizeRound env settled progressed s).1.progress s.progress
      progressed b := by
  induction settled generalizing progressed s with
  | nil =>
    obtain rfl : progressed = b := by simpa [finalizeRound] using hb
    exact Or.inl ⟨Level.rfl, rfl⟩
  | cons x settled ih =>
    obtain ⟨id, hasErrors⟩ := x
    obtain ⟨hid, hids⟩ := List.nodup_cons.1 hids
    obtain ⟨g, hg, hrun⟩ := hp id List.mem_cons_self
    have load := close_load env hasErrors hg hrun
    have others : ∀ id' ∈ settled.map Prod.fst,
        ∃ g, (s.close env id hasErrors).1.progress.generators.find? id' = some g ∧
          g.entry.phase = .running := fun id' hmem => by
      have hne : id' ≠ id := fun e => hid (e ▸ hmem)
      rw [close_generators_of_ne hne]
      exact hp id' (List.mem_cons_of_mem _ hmem)
    rw [finalizeRound] at hb ⊢
    generalize s.close env id hasErrors = r at *
    obtain ⟨s', step⟩ := r
    cases step with
    | canceled => simp at hb
    | idle => exact absurd rfl load.2
    | moved =>
      refine (ih _ hids others hb).trans (Or.inr ⟨load.1 rfl, ?_⟩)
      cases progressed <;> rfl

/-! ## Whole rounds -/

theorem pendingGenerators_nodup (p : Progress) : p.pendingGenerators.Nodup :=
  Progress.nodup_keys_filter p.generators fun g => g.2.entry.phase == .pending

theorem pendingChildren_nodup (p : Progress) : p.pendingChildren.Nodup :=
  Progress.nodup_keys_filter p.children fun c => c.2.phase == .pending

theorem mem_pendingGenerators {p : Progress} {id : Identifier} (h : id ∈ p.pendingGenerators) :
    ∃ g, p.generators.find? id = some g ∧ g.entry.phase = .pending := by
  obtain ⟨g, hg, ht⟩ := Progress.mem_keys_filter p.generators (fun g => g.entry.phase == .pending) h
  exact ⟨g, hg, by simpa using ht⟩

theorem mem_pendingChildren {p : Progress} {id : Identifier} (h : id ∈ p.pendingChildren) :
    ∃ e, p.children.find? id = some e ∧ e.phase = .pending := by
  obtain ⟨e, he, ht⟩ := Progress.mem_keys_filter p.children (fun c => c.phase == .pending) h
  exact ⟨e, he, by simpa using ht⟩

/-- The tasks that a round begins with are expected. -/
theorem flights_expected (s : RunState) : s.Expects s.flights := by
  have named {id : Identifier} {f : Flight}
      (h : (s.tasks.find? id).map Flight.fresh = some f) : f.task.id = id := by
    obtain ⟨t, found, rfl⟩ := Option.map_eq_some_iff.1 h
    exact s.filed found
  refine ⟨?_, fun f mem => ?_, fun f mem => ?_⟩
  · refine (pendingChildren_nodup s.progress).sublist ?_
    unfold flights
    generalize s.progress.pendingChildren = ids
    induction ids with
    | nil => exact .slnil
    | cons id ids ih =>
      rw [List.filterMap_cons]
      cases found : (s.tasks.find? id).map Flight.fresh with
      | none => exact ih.cons id
      | some f =>
        dsimp only
        rw [List.map_cons, named found]
        exact ih.cons_cons id
  · obtain ⟨id, -, found⟩ := List.mem_filterMap.1 mem
    rw [named found]
    obtain ⟨t, known, rfl⟩ := Option.map_eq_some_iff.1 found
    exact known
  · obtain ⟨id, pending, found⟩ := List.mem_filterMap.1 mem
    rw [named found]
    exact mem_pendingChildren pending

/-- A pending task that is known is to begin. -/
theorem fresh_mem_flights {s : RunState} {t : Task} (known : s.tasks.find? t.id = some t)
    {e : Entry} (found : s.progress.children.find? t.id = some e) (pending : e.phase = .pending) :
    Flight.fresh t ∈ s.flights := by
  have listed : t.id ∈ s.progress.pendingChildren :=
    List.mem_map.2 ⟨(t.id, e), List.mem_filter.2 ⟨Keyed.mem_of_find?_eq_some found,
      beq_iff_eq.2 pending⟩, rfl⟩
  exact List.mem_filterMap.2 ⟨t.id, listed, by rw [known]; rfl⟩

theorem settledGenerators_fst (p : Progress) : p.settledGenerators.map Prod.fst =
    (p.generators.toList.filter fun g => p.isSettled g.2).map Prod.fst := by
  simp [Progress.settledGenerators]

theorem settledGenerators_nodup (p : Progress) : (p.settledGenerators.map Prod.fst).Nodup := by
  rw [settledGenerators_fst]
  exact Progress.nodup_keys_filter _ _

theorem mem_settledGenerators {p : Progress} {id : Identifier}
    (h : id ∈ p.settledGenerators.map Prod.fst) :
    ∃ g, p.generators.find? id = some g ∧ g.entry.phase = .running := by
  rw [settledGenerators_fst] at h
  obtain ⟨g, hg, ht⟩ := Progress.mem_keys_filter p.generators p.isSettled h
  simp only [Progress.isSettled, Bool.and_eq_true, beq_iff_eq] at ht
  exact ⟨g, hg, ht.1⟩

theorem round_load {env : Environment} {workers : Nat} {s : RunState} {b : Bool}
    (hb : (s.round env workers).2 = some b) :
    Progress.Accounted (s.round env workers).1.progress s.progress false b := by
  unfold round at hb ⊢
  have asked {b : Bool} := generatorRound_load env false (pendingGenerators_nodup s.progress)
    (fun _ => mem_pendingGenerators) (s := s) (b := b)
  generalize generatorRound env s.progress.pendingGenerators false s = r₁ at *
  obtain ⟨s₁, a₁⟩ := r₁
  cases a₁ with
  | none => simp at hb
  | some p₁ =>
    simp only at hb ⊢
    have worked {b : Bool}
        (hb : (childRound env workers s₁.flights p₁ false s₁).2 = some b) :=
      childRound_load s₁.flights_expected hb
    generalize childRound env workers s₁.flights p₁ false s₁ = r₂ at *
    obtain ⟨s₂, a₂⟩ := r₂
    cases a₂ with
    | none => simp at hb
    | some p₂ =>
      simp only at hb ⊢
      have closed := finalizeRound_load env p₂ (settledGenerators_nodup s₂.progress)
        (fun _ => mem_settledGenerators) hb
      exact closed.trans ((worked rfl).trans (asked rfl))

/-- If the run may go on after a round, less of it is left. -/
theorem load_endRound_lt {env : Environment} {workers : Nat} {s s' : RunState} {progressed : Bool}
    (h : s.round env workers = (s', some progressed))
    (go : (s'.progress.endRound progressed).mayGoOn = true) :
    WellFoundedRelation.rel (s'.progress.endRound progressed).load s.progress.load := by
  have load := round_load (b := progressed) (by rw [h])
  rw [h] at load
  rcases load with ⟨⟨hw, hu, hm, hi⟩, rfl⟩ | ⟨⟨hlow, hm⟩, rfl⟩
  · replace go : s'.progress.idleRounds + 1 < s'.progress.maxIdleRounds := of_decide_eq_true go
    refine Prod.Lex.right' _ (Nat.le_of_eq hw) (Prod.Lex.right' _ (Nat.le_of_eq hu) ?_)
    change s'.progress.maxIdleRounds - (s'.progress.idleRounds + 1) <
      s.progress.maxIdleRounds - s.progress.idleRounds
    rw [hm, hi] at *
    omega
  · rcases hlow with hw | ⟨hw, hu⟩
    · exact Prod.Lex.left _ _ hw
    · exact Prod.Lex.right' _ (Nat.le_of_eq hw) (Prod.Lex.left _ _ hu)

end RunState

end GatedMigration
