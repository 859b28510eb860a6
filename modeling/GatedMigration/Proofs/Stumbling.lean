import GatedMigration.Proofs.Change
import GatedMigration.Proofs.Decision
import GatedMigration.Proofs.Meaning

/-!
# Selectors that are stumbled over

A selector with an operator that is not supported (`Selector.HasUnsupported`) need not make
evaluation fail: it fails on just those documents on which evaluation gets to a part that makes no
sense. Where there is such a document, counting fails, the oracle does not answer that there is
nothing to do, and a migration stays pending (`Selector.stumbles_exact`). Where there is none, what
makes no sense goes unnoticed, and the migration may be recorded as having nothing to do
(`Selector.nearby_unnoticed`).
-/

namespace GatedMigration

variable {sel : Selector} {ns metadata : Namespace}

namespace Selector

/-- Somewhere in entries, at any depth of clauses, an operator is not supported. -/
inductive HasUnsupported : List (String × Value) → Prop
  | combinator {entries : List (String × Value)} {key : String} {condition : Value} :
    (key, condition) ∈ entries → isOperatorName key = true → key ≠ "$and" → key ≠ "$or" →
    HasUnsupported entries
  | operator {entries operators : List (String × Value)} {path name : String}
    {condition arg : Value} :
    (path, condition) ∈ entries → isOperatorName path = false →
    condition.operators? = some operators → (name, arg) ∈ operators →
    Operator.named? name = none → HasUnsupported entries
  | clause {entries inner : List (String × Value)} {key : String} {clauses : List Value} :
    (key, .array clauses) ∈ entries → key = "$and" ∨ key = "$or" → .map inner ∈ clauses →
    HasUnsupported inner → HasUnsupported entries

/-- A selector with an operator that is not supported is not well-formed. -/
theorem HasUnsupported.not_wellFormed {entries : List (String × Value)}
    (h : HasUnsupported entries) : ¬WellFormed entries := by
  induction h with
  | combinator mem name no_and no_or =>
    rintro ⟨each⟩
    rcases each _ mem with ⟨combinator, -, -⟩ | ⟨field, -⟩
    · exact combinator.elim no_and no_or
    · exact Bool.noConfusion (field.symm.trans name)
  | operator mem field known inner unknown =>
    rintro ⟨each⟩
    rcases each _ mem with ⟨combinator, -, -⟩ | ⟨-, fits⟩
    · exact Bool.noConfusion (field.symm.trans (isOperatorName_of_combinator combinator))
    · obtain ⟨op, named, -⟩ := fits _ known _ inner
      cases unknown.symm.trans named
  | clause mem combinator inner _ ih =>
    rintro ⟨each⟩
    rcases each _ mem with ⟨-, list, clauses⟩ | ⟨field, -⟩
    · obtain ⟨entries, mem, same⟩ := List.mem_map.1 (Value.array.inj list ▸ inner)
      cases same
      exact ih (clauses _ mem)
    · exact Bool.noConfusion (field.symm.trans (isOperatorName_of_combinator combinator))

/-- The selector makes evaluation stumble on a document. -/
def StumblesOn (s : Selector) (d : Document) : Prop := Stumbles d s.entries

theorem accepts_error_iff (s : Selector) (d : Document) :
    (∃ e, s.accepts d = .error e) ↔ s.StumblesOn d :=
  (meetsEntries_answers d s.entries).error_iff

theorem accepts_ok_iff (s : Selector) (d : Document) :
    (∃ b, s.accepts d = .ok b) ↔ ¬s.StumblesOn d := by
  rw [← accepts_error_iff]
  cases s.accepts d <;> simp

end Selector

/-- Counting the documents that match fails just if the selector makes evaluation stumble on one of
them. -/
theorem Store.countMatching_error_iff {docs : List Document} :
    (∃ e, countMatching sel docs = .error e) ↔ ∃ d ∈ docs, sel.StumblesOn d := by
  constructor
  · rintro ⟨e, failed⟩
    by_contra none
    push Not at none
    obtain ⟨n, counted, -⟩ := countMatching_ok docs
      fun d mem => (sel.accepts_ok_iff d).2 (none d mem)
    cases failed.symm.trans counted
  · rintro ⟨d, mem, stumbles⟩
    obtain ⟨e, failed⟩ := (sel.accepts_error_iff d).2 stumbles
    exact countMatching_error mem failed

namespace Store

variable {s : Store}

/-- The documents of a namespace cannot be counted if the store fails, or if the selector makes
evaluation stumble on one of them. -/
theorem not_countable_iff : s.countable ns sel = false ↔ s.faults.unreachable ≠ none ∨
    s.faults.countError ≠ none ∨ ∃ d ∈ s.documents ns, sel.StumblesOn d := by
  rw [← Bool.not_eq_true, countable_iff]
  simp only [sel.accepts_ok_iff, not_and_or, not_forall, exists_prop, not_not]

theorem counted_error_iff :
    (∃ e, s.counted ns sel = .error e) ↔ s.countable ns sel = false := by
  constructor
  · rintro ⟨e, failed⟩
    rw [← Bool.not_eq_true]
    intro countable
    obtain ⟨n, counted, -⟩ := counted_of_countable countable
    cases failed.symm.trans counted
  · intro uncountable
    obtain ⟨e, failed, -⟩ := counted_of_not_countable uncountable
    exact ⟨e, failed⟩

theorem decision_eq_unresolved_iff {after : List Identifier} :
    s.decision sel ns metadata after = .unresolved ↔ s.countable ns sel = false := by
  unfold decision
  cases s.countable ns sel <;> cases s.anyMatching ns sel <;> cases after.isEmpty <;>
    cases s.releases metadata after <;> decide

end Store

theorem World.yield_documents (w : World) (ns : Namespace) :
    w.yield.store.documents ns = w.store.documents ns := by
  unfold yield
  split
  · rfl
  · dsimp only
    split <;> rfl

namespace Oracle

variable {o : Oracle} {w : World}

/-- If the selector of an oracle makes evaluation stumble on one of the documents, the oracle says
that it cannot tell, unless the run is to end. -/
theorem state_of_stumbles (metadata : Namespace) {d : Document}
    (mem : d ∈ w.store.documents o.namesp) (stumbles : o.selector.StumblesOn d) :
    (o.state metadata w).2 = some .unresolved ∨ (o.state metadata w).2 = none := by
  rw [state]
  split
  · exact Or.inr rfl
  · exact Or.inl rfl
  · rename_i n counted
    obtain ⟨_, _, -, answer⟩ := World.guard_ok counted
    have ok : Store.reported (Store.countMatching o.selector
        (w.yield.store.documents o.namesp)) = .ok n :=
      Store.underFaults_ok (congrArg Prod.snd answer)
    rw [World.yield_documents] at ok
    obtain ⟨e, failed⟩ := Store.countMatching_error_iff.2 ⟨d, mem, stumbles⟩
    rw [failed] at ok
    cases ok

/-- In an undisturbed world an oracle says that it cannot tell just if the documents cannot be
counted. -/
theorem state_unresolved_iff (h : w.Undisturbed) (metadata : Namespace) :
    (o.state metadata w).2 = some .unresolved ↔
      w.store.countable o.namesp o.selector = false := by
  obtain ⟨w', answer, -, -⟩ := h.state o metadata
  rw [answer, Option.some.injEq, Store.decision_eq_unresolved_iff]

end Oracle

/-! ## Migrations that have nothing to do -/

namespace Progress

variable {p : Progress} {id id' : Identifier}

/-- It is on the books that a migration has nothing to do. -/
def HasPassed (p : Progress) (id : Identifier) : Prop :=
  ∃ g, p.generators.find? id = some g ∧ g.entry.phase = .passed

theorem HasPassed.of_adjust {q : Progress} {f : GeneratorEntry → GeneratorEntry}
    (h : q.HasPassed id') (same : q.generators = p.generators.adjust id f)
    (kept : ∀ g, (f g).entry.phase = .passed → g.entry.phase = .passed) : p.HasPassed id' := by
  obtain ⟨g, found, passed⟩ := h
  rw [same] at found
  by_cases e : id' = id
  · rw [e, IdMap.find?_adjust_self, Option.map_eq_some_iff] at found
    obtain ⟨g₀, found, rfl⟩ := found
    exact ⟨g₀, e ▸ found, kept g₀ passed⟩
  · rw [IdMap.find?_adjust_of_ne _ e] at found
    exact ⟨g, found, passed⟩

theorem HasPassed.of_observe {state : Readiness} (h : (p.observe id state).HasPassed id') :
    p.HasPassed id' := by
  unfold observe at h
  split at h
  · exact h.of_adjust rfl fun _ passed => passed
  · exact h

theorem HasPassed.of_generatorRan {tasks : List Identifier} {errors : List String}
    (h : (p.generatorRan id tasks errors).HasPassed id') : p.HasPassed id' := by
  unfold generatorRan at h
  split at h
  · exact h
  · obtain ⟨g, found, passed⟩ := h
    dsimp only at found
    by_cases e : id' = id
    · rw [e, IdMap.find?_insert_self] at found
      cases found
      cases passed
    · rw [IdMap.find?_insert_of_ne _ e] at found
      exact ⟨g, found, passed⟩

theorem HasPassed.of_generatorPassed {errors : List String}
    (h : (p.generatorPassed id errors).HasPassed id') : id' = id ∨ p.HasPassed id' := by
  refine or_iff_not_imp_left.2 fun ne => ?_
  obtain ⟨g, found, passed⟩ := h
  exact ⟨g, (IdMap.find?_adjust_of_ne _ ne _).symm.trans found, passed⟩

theorem HasPassed.of_finalizeGenerator {errors : List String}
    (h : (p.finalizeGenerator id errors).HasPassed id') : p.HasPassed id' := by
  refine h.of_adjust rfl fun g passed => ?_
  dsimp only [Entry.finish] at passed
  split at passed <;> cases passed

end Progress

namespace Moment

variable {env : Environment} {options : RunOptions} {id : Identifier}

theorem passed_of_advance {s : RunState} {id' : Identifier}
    (h : (s.advance env id').1.progress.HasPassed id) :
    s.progress.HasPassed id ∨ ∃ g w, s.generators.find? id = some g ∧
      g.oracle.state env.metadata s.world = (w, some .passed) := by
  unfold RunState.advance at h
  split at h
  · exact Or.inl h
  rename_i g source
  split at h
  · exact Or.inl h
  · split at h
    · exact Or.inl h
    · exact Or.inl h.of_generatorRan
  · rename_i asked
    split at h
    · exact Or.inl h
    · rcases h.of_generatorPassed with rfl | h
      · exact Or.inr ⟨g, _, source, asked⟩
      · exact Or.inl h
  · exact Or.inl h.of_observe

theorem passed_of_record {p : Progress} {id' : Identifier} {verdict : Verdict}
    (h : (RunState.record p id' verdict).1.HasPassed id) : p.HasPassed id := by
  cases verdict with
  | waiting state => exact Progress.HasPassed.of_observe h
  | executed | passed | canceled | lost => exact h

theorem passed_of_close {s : RunState} {id' : Identifier} {hasErrors : Bool}
    (h : (s.close env id' hasErrors).1.progress.HasPassed id) : s.progress.HasPassed id := by
  unfold RunState.close at h
  split at h
  · exact h
  · exact Progress.HasPassed.of_finalizeGenerator h

/-- A step after which a migration has passed finds that it had passed before, or is told so by its
oracle. -/
theorem passed_of_next {m : Moment} (h : (m.next env options).state.progress.HasPassed id) :
    m.state.progress.HasPassed id ∨ ∃ g w, m.state.generators.find? id = some g ∧
      g.oracle.state env.metadata m.state.world = (w, some .passed) := by
  cases m.next_transition env options with
  | asks _ _ _ _ state =>
    rw [state] at h
    exact passed_of_advance h
  | starts _ _ next =>
    rw [next] at h
    exact Or.inl h
  | works _ _ _ _ _ r works next =>
    rw [next] at h
    refine Or.inl ?_
    cases works with
    | goesOn => exact h
    | ends => exact passed_of_record h
  | closes _ _ _ _ _ state =>
    rw [state] at h
    exact Or.inl (passed_of_close h)
  | waits _ _ _ _ state =>
    rw [state] at h
    exact Or.inl h

end Moment

/-- A migration that has passed at some moment of a run was asked before, at a moment when its
selector made evaluation stumble on none of the documents. -/
theorem World.not_stumbles_of_passed {env : Environment} {options : RunOptions}
    {generators : List Generator} (w : World) (n : Nat) {id : Identifier}
    (h : (w.moment env options generators n).state.progress.HasPassed id) :
    ∃ g ∈ generators, g.id = id ∧ ∃ k < n, ∀ d ∈
      (w.moment env options generators k).state.world.store.documents g.migration.namesp,
      ¬g.migration.selector.StumblesOn d := by
  induction n with
  | zero =>
    obtain ⟨g, found, passed⟩ := h
    have fresh := Progress.start_standing (Progress.standing?_of_generator found)
    cases passed.symm.trans (congrArg Standing.phase fresh)
  | succ n ih =>
    rcases Moment.passed_of_next h with before | ⟨g, w', source, asked⟩
    · obtain ⟨g, given, named, k, earlier, sound⟩ := ih before
      exact ⟨g, given, named, k, Nat.lt_succ_of_lt earlier, sound⟩
    · obtain ⟨g₀, given, named, same⟩ := w.moment_source n source
      refine ⟨g₀, given, named, n, Nat.lt_succ_self n, fun d mem stumbles => ?_⟩
      rw [← same] at mem stumbles
      rcases g.oracle.state_of_stumbles env.metadata mem stumbles with answer | answer
      · rw [asked] at answer
        cases answer
      · rw [asked] at answer
        cases answer

/-- Evaluation fails on just those documents that a selector makes it stumble on. Where there is
one, the documents cannot be counted and the oracle says that it cannot tell. A migration that has
passed was asked when there was none. -/
theorem Selector.stumbles_exact (s : Selector) :
    (∀ d, (∃ e, s.accepts d = .error e) ↔ s.StumblesOn d) ∧
    (∀ (store : Store) (ns : Namespace), (∃ e, store.counted ns s = .error e) ↔
      store.faults.unreachable ≠ none ∨ store.faults.countError ≠ none ∨
        ∃ d ∈ store.documents ns, s.StumblesOn d) ∧
    (∀ (w : World) (ns metadata : Namespace) (after : List Identifier), w.Undisturbed →
      (((Oracle.ofList s ns after).state metadata w).2 = some .unresolved ↔
        w.store.faults.unreachable ≠ none ∨ w.store.faults.countError ≠ none ∨
          ∃ d ∈ w.store.documents ns, s.StumblesOn d)) ∧
    ∀ (w : World) (env : Environment) (options : RunOptions) (generators : List Generator)
      (n : Nat) (id : Identifier),
      (w.moment env options generators n).state.progress.HasPassed id →
      ∃ g ∈ generators, g.id = id ∧ ∃ k < n, ∀ d ∈
        (w.moment env options generators k).state.world.store.documents g.migration.namesp,
        ¬g.migration.selector.StumblesOn d :=
  ⟨s.accepts_error_iff,
    fun _ _ => Store.counted_error_iff.trans Store.not_countable_iff,
    fun _ _ metadata _ h => (Oracle.state_unresolved_iff h metadata).trans Store.not_countable_iff,
    fun w _ _ _ n _ passed => w.not_stumbles_of_passed n passed⟩

/-! ## A bad selector that goes unnoticed -/

namespace Sample

/-- The open places near something: an operator that is not supported behind a condition on another
field. -/
def nearby : Selector := ⟨[("open", .bool true), ("where", .map [("$near", .int 1)])]⟩

def openPlace : Document := [("_id", .int 1), ("open", .bool true)]

def closedPlace : Document := [("_id", .int 1), ("open", .bool false)]

/-- The migration `p` marks the open places near something. -/
def places : Generator := .new ⟨"p", ⟨"db", "places"⟩, nearby, "mark", none, none, []⟩

/-- One place. -/
def onePlace (d : Document) : World :=
  { World.initial with store := Store.empty.insertMany ⟨"db", "places"⟩ [d] }

/-- The world once the run over a closed place is prepared. -/
def closedReady : World := ((onePlace closedPlace).prepare env {} [places]).1

theorem closed_prepared :
    (onePlace closedPlace).prepare env {} [places] = (closedReady, .ok ()) :=
  Prod.ext rfl (by decide +kernel)

theorem closed_stage : (closedReady.moment env {} [places] 5).stage = .over false := by
  decide +kernel

theorem closed_passed :
    (closedReady.moment env {} [places] 5).state.progress.HasPassed "p" := by
  have phase : ((closedReady.moment env {} [places] 5).state.progress.generators.find? "p").map
      (fun g => g.entry.phase) = some .passed := by decide +kernel
  obtain ⟨g, found, passed⟩ := Option.map_eq_some_iff.1 phase
  exact ⟨g, found, passed⟩

theorem nearby_hasUnsupported : Selector.HasUnsupported nearby.entries :=
  .operator (List.mem_cons_of_mem _ List.mem_cons_self) (by decide) rfl List.mem_cons_self
    (by decide)

end Sample

/-- An open place lets the operator be noticed: the oracle cannot tell. Over a closed place the
migration passes, since no document brings evaluation to the operator. -/
theorem Selector.nearby_noticed :
    Sample.nearby.StumblesOn Sample.openPlace ∧
    ((Oracle.ofList Sample.nearby ⟨"db", "places"⟩ []).state Sample.env.metadata
      (Sample.onePlace Sample.openPlace)).2 = some .unresolved ∧
    (Sample.closedReady.moment Sample.env {} [Sample.places] 5).state.progress.HasPassed "p" ∧
    ∃ g ∈ [Sample.places], g.id = "p" ∧ ∃ k < 5, ∀ d ∈
      (Sample.closedReady.moment Sample.env {} [Sample.places]
        k).state.world.store.documents g.migration.namesp,
      ¬g.migration.selector.StumblesOn d := by
  obtain ⟨accepts, -, oracle, passes⟩ := stumbles_exact Sample.nearby
  have stumbles : Sample.nearby.StumblesOn Sample.openPlace :=
    (accepts _).1 ⟨.unsupportedOperator "$near", rfl⟩
  have stored : Sample.openPlace ∈
      (Sample.onePlace Sample.openPlace).store.documents ⟨"db", "places"⟩ := List.mem_cons_self
  exact ⟨stumbles, (oracle _ _ _ _ ⟨rfl, rfl⟩).2 (Or.inr (Or.inr ⟨_, stored, stumbles⟩)),
    Sample.closed_passed, passes _ _ _ _ _ _ Sample.closed_passed⟩

/-- The closed place is evaluated without an error although the selector has an operator that is not
supported, and a run over it ends well: on its report the migration has nothing to do. -/
theorem Selector.nearby_unnoticed :
    HasUnsupported Sample.nearby.entries ∧
    Sample.nearby.accepts Sample.closedPlace = .ok false ∧
    (Sample.onePlace Sample.closedPlace).store.documents ⟨"db", "places"⟩ =
      [Sample.closedPlace] ∧
    (Sample.onePlace Sample.closedPlace).store.counted ⟨"db", "places"⟩ Sample.nearby = .ok 0 ∧
    ∃ w report, (Sample.onePlace Sample.closedPlace).run Sample.env {} [Sample.places] =
        (w, .ok report) ∧
      report.outcome = .succeeded ∧ report.generators.find? "p" = some .passed ∧
      w.store.record? Sample.env.metadata "p" = some (.finished "p" "p" false) := by
  refine ⟨Sample.nearby_hasUnsupported, rfl, rfl, rfl, ?_⟩
  have ended := World.moment_of_stage Sample.closed_stage
  exact ⟨_, _, World.run_of_over Sample.closed_prepared ended, by decide +kernel,
    by decide +kernel, by decide +kernel⟩

end GatedMigration
