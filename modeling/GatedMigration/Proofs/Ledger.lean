import GatedMigration.Proofs.Effect

/-!
# The ledger of a run

The records that a run has saved agree with its bookkeeping at every moment
(`Progress.Recorded`): each belongs to something that is finished, says whether it has failed, and
names its migration; and whatever is finished without errors has one. No record is saved twice.
What has come to its end is recorded by the step that ends it (`Recorded.ended`), and no other step
touches the records (`Recorded.of_same`).
-/

namespace GatedMigration

/-! ## Effects and the laws -/

namespace RunState.Effect

variable {env : Environment} {s s' : RunState}

/-- What is finished stays as it is. -/
theorem keeps (h : Effect env s s') : s.progress.Keeps s'.progress := by
  cases h with
  | quiet stands => exact stands.keeps
  | fansOut _ _ _ _ _ _ _ before pending _ after => exact after.keeps before pending
  | ends _ _ _ _ _ _ before unfinished _ _ after => exact after.keeps before unfinished

/-- The migrations stay the same. -/
theorem generators (h : Effect env s s') (id : Identifier) :
    s'.progress.generators.contains id = s.progress.generators.contains id := by
  cases h with
  | quiet stands => exact stands.generators id
  | fansOut _ _ _ _ _ _ _ _ _ _ after => exact after.generators id
  | ends _ _ _ _ _ _ _ _ _ _ after => exact after.generators id

/-- The laws of the bookkeeping are kept, if no migration has the identifier of a task. -/
theorem lawful (h : Effect env s s') (laws : s.progress.Lawful)
    (plain : ∀ id, s.progress.generators.contains id = true → Plain id) :
    s'.progress.Lawful := by
  cases h with
  | quiet stands => exact stands.lawful laws
  | fansOut id old g tasks errors known source before pending own after =>
    refine after.lawful before known pending laws fun c mem => ?_
    obtain ⟨t, handed, rfl⟩ := List.mem_map.1 mem
    obtain ⟨d, n, rfl⟩ := own t handed
    exact eq_false_of_ne_true fun migration => (plain _ migration).ne_childId _ _ _ rfl
  | ends id group old clean errors owner before unfinished how done after =>
    exact after.lawful before unfinished how done laws

/-- The tasks of what is no longer pending stay the same. -/
theorem begun (h : Effect env s s') {id : Identifier} {st : Standing}
    (at_id : s.progress.standing? id = some st) (begun : st.phase ≠ .pending) :
    ∃ st', s'.progress.standing? id = some st' ∧ st'.phase ≠ .pending ∧ st'.tasks = st.tasks := by
  cases h with
  | quiet stands => exact ⟨st, stands.standing ▸ at_id, begun, rfl⟩
  | fansOut id' old g tasks errors known source before pending own after =>
    exact ⟨st, after.begun before pending at_id begun, begun, rfl⟩
  | ends id' group old clean errors owner before unfinished how done after =>
    exact after.begun before (by rcases how with rfl | ⟨rfl, -⟩ <;> rfl) at_id begun

end RunState.Effect

/-! ## Records and phases -/

/-- The task belongs to the migration. -/
def Progress.Member (p : Progress) (group id : Identifier) : Prop :=
  p.generators.contains group = true ∧ ∃ st, p.standing? group = some st ∧ id ∈ st.tasks

/-- The records that were saved agree with the bookkeeping. -/
structure Progress.Recorded (p : Progress) (rs : List CompletionRecord) : Prop where
  distinct : (rs.map CompletionRecord.id).Nodup
  /-- A record says that something has come to its end, and how. -/
  truthful : ∀ r ∈ rs, r.completed = true ∧ ∃ st, p.standing? r.id = some st ∧
    st.phase.isTerminal = true ∧ (r.hasErrors = true ↔ st.phase = .failed)
  /-- The record of a migration names it, the record of a task the migration it belongs to. -/
  grouped : ∀ r ∈ rs, p.generators.contains r.id = true ∧ r.group = r.id ∨ p.Member r.group r.id
  /-- Whatever is finished without errors has a record that says so. -/
  complete : ∀ {id st}, p.standing? id = some st → st.phase.isClean = true →
    ∃ r ∈ rs, r.id = id ∧ r.hasErrors = false

namespace Progress

variable {p q : Progress} {rs : List CompletionRecord}

/-- From `p` to `q` the migrations stay the same, and so does what belongs to them. -/
def Belongs (p q : Progress) : Prop :=
  (∀ id, q.generators.contains id = p.generators.contains id) ∧
    ∀ {group id}, p.Member group id → q.Member group id

/-- Records still agree with the bookkeeping if nothing new is finished without errors. -/
theorem Recorded.of_same (h : p.Recorded rs) (keeps : Keeps p q) (belongs : Belongs p q)
    (clean : ∀ {id st}, q.standing? id = some st → st.phase.isClean = true →
      p.standing? id = some st) : q.Recorded rs := by
  refine ⟨h.distinct, fun r mem => ?_, fun r mem => ?_, ?_⟩
  · obtain ⟨completed, st, at_r, terminal, failed⟩ := h.truthful r mem
    exact ⟨completed, st, keeps at_r terminal, terminal, failed⟩
  · rcases h.grouped r mem with ⟨migration, group⟩ | member
    · exact Or.inl ⟨(belongs.1 r.id).trans migration, group⟩
    · exact Or.inr (belongs.2 member)
  · exact fun at_id is_clean => h.complete (clean at_id is_clean) is_clean

/-- What comes to its end is recorded with what it ended with. -/
theorem Recorded.ended (h : p.Recorded rs) (belongs : Belongs p q) {id group : Identifier}
    {old : Standing} {clean : Phase} {errors : List String}
    (before : p.standing? id = some old) (unfinished : old.phase.isTerminal = false)
    (is_clean : clean.isClean = true) (after : Settles p q id (old.finish clean errors))
    (owner : p.generators.contains id = true ∧ group = id ∨ p.Member group id) :
    q.Recorded (.finished id group (!(old.errors ++ errors).isEmpty) :: rs) := by
  have keeps : Keeps p q := after.keeps before unfinished
  refine ⟨?_, ?_, ?_, ?_⟩
  · -- Whatever has a record was finished before.
    refine List.nodup_cons.2 ⟨fun mem => ?_, h.distinct⟩
    obtain ⟨r, earlier, rfl⟩ := List.mem_map.1 mem
    obtain ⟨-, st, at_r, terminal, -⟩ := h.truthful r earlier
    cases at_r.symm.trans before
    rw [unfinished] at terminal
    cases terminal
  · intro r mem
    rcases List.mem_cons.1 mem with rfl | mem
    · exact ⟨rfl, _, after.self, old.finish_terminal (Phase.isTerminal_of_isClean is_clean) errors,
        old.finish_failed_iff is_clean errors⟩
    · obtain ⟨completed, st, at_r, terminal, failed⟩ := h.truthful r mem
      exact ⟨completed, st, keeps at_r terminal, terminal, failed⟩
  · intro r mem
    rcases List.mem_cons.1 mem with rfl | mem
    · exact owner.imp (fun ⟨migration, same⟩ => ⟨(belongs.1 id).trans migration, same⟩) belongs.2
    · exact (h.grouped r mem).imp
        (fun ⟨migration, same⟩ => ⟨(belongs.1 r.id).trans migration, same⟩) belongs.2
  · intro id' st at_id clean_st
    by_cases e : id' = id
    · subst e
      cases at_id.symm.trans after.self
      refine ⟨_, List.mem_cons_self, rfl, ?_⟩
      show (!(old.errors ++ errors).isEmpty) = false
      rw [Standing.errors_eq_nil_of_finish_clean clean_st]
      rfl
    · rw [after.others id' e] at at_id
      obtain ⟨r, mem, found⟩ := h.complete at_id clean_st
      exact ⟨r, List.mem_cons_of_mem _ mem, found⟩

end Progress

namespace RunState

variable {env : Environment} {s s' : RunState}

/-- A task belongs to its migration for good. -/
theorem Effect.belongs (h : Effect env s s') : Progress.Belongs s.progress s'.progress := by
  refine ⟨h.generators, fun {group id} member => ?_⟩
  obtain ⟨migration, st, at_group, mem⟩ := member
  refine ⟨(h.generators group).trans migration, ?_⟩
  cases h with
  | quiet stands => exact ⟨st, by rw [stands.standing, at_group], mem⟩
  | fansOut id' old g tasks errors known source before pending own after =>
    by_cases e : group = id'
    · subst e
      cases at_group.symm.trans before
      exact ⟨_, after.self, List.mem_append_left _ mem⟩
    · exact ⟨st, by rw [after.others group e, at_group, Option.some_or], mem⟩
  | ends id' group' old clean errors owner before unfinished how done after =>
    by_cases e : group = id'
    · subst e
      cases at_group.symm.trans before
      exact ⟨_, after.self, mem⟩
    · exact ⟨st, by rw [after.others group e, at_group], mem⟩

/-- After a step the records agree with the bookkeeping, those from before with those that the step
has saved. -/
theorem Effect.recorded (h : Effect env s s') {rs : List CompletionRecord} {w : World}
    (saves : World.Saves env.metadata rs w s.world) (recorded : s.progress.Recorded rs)
    (members : ∀ {id t}, s.tasks.find? id = some t → s.progress.Member t.migration id) :
    ∃ rs', World.Saves env.metadata rs' w s'.world ∧ s'.progress.Recorded rs' := by
  have belongs := h.belongs
  have same := recorded.of_same h.keeps belongs
  cases h with
  | quiet stands _ quiet =>
    refine ⟨rs, saves.before quiet, same fun at_id _ => ?_⟩
    rw [← stands.standing]
    exact at_id
  | fansOut id old g tasks errors known source before pending own after _ quiet =>
    refine ⟨rs, saves.before quiet, same fun at_id clean => ?_⟩
    rcases after.stood at_id with at_id | rfl | ⟨rfl, rfl⟩
    · exact at_id
    · cases clean
    · cases clean
  | ends id group old clean errors owner before unfinished how done after _ reports =>
    have is_clean : clean.isClean = true := by
      rcases how with rfl | ⟨rfl, -⟩ <;> rfl
    rcases reports with saved | ⟨some_error, quiet⟩
    · refine ⟨_, saves.trans saved, recorded.ended belongs before unfinished is_clean after ?_⟩
      rcases owner with ⟨migration, rfl⟩ | ⟨-, t, found, rfl, rfl⟩
      · exact Or.inl ⟨migration, rfl⟩
      · exact Or.inr (members found)
    · refine ⟨rs, saves.before quiet, same fun {id' st} at_id clean_st => ?_⟩
      by_cases e : id' = id
      · subst e
        cases at_id.symm.trans after.self
        exact absurd (Standing.errors_eq_nil_of_finish_clean clean_st) some_error
      · rw [after.others id' e] at at_id
        exact at_id

end RunState

end GatedMigration
