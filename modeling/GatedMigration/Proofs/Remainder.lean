import GatedMigration.Proofs.Commands
import GatedMigration.Proofs.Scans

/-!
# What a run leaves to be migrated

A document that matches the selector of a migration is left (`Store.Left`); documents are told apart
by their identifying values. If no operation makes more of them and each one that ends well gets rid
of those of its task (`Moment.Clears`), what is left only becomes less (`World.left_of_later`).

* `World.surveyed_of_clean`: a migration that is finished without errors was told at some moment
  that nothing is left, or was scanned to the end (`Moment.Surveys`).
* `World.discharged_of_clean`: so was each task told so, or its operation has ended well
  (`Moment.Discharges`).
* `World.nothing_left`: hence nothing is left of a migration that is finished without errors.
-/

namespace GatedMigration

/-- A document of a namespace that matches a selector has the identifying value. One without a value
counts as having null. -/
def Store.Left (s : Store) (ns : Namespace) (sel : Selector) (id : Value) : Prop :=
  ∃ d ∈ s.documents ns, sel.accepts d = .ok true ∧ Document.id d = id

namespace Store

variable {s s' : Store} {ns : Namespace} {sel : Selector}

theorem left_congr (same : s'.documents = s.documents) (id : Value) :
    s'.Left ns sel id ↔ s.Left ns sel id := by
  rw [Left, Left, same]

/-- Where the count is zero no document matches. -/
theorem accepts_false_of_count {docs : List Document} (h : countMatching sel docs = .ok 0) :
    ∀ d ∈ docs, sel.accepts d = .ok false := by
  have answered : ∀ d ∈ docs, ∃ hit, sel.accepts d = .ok hit := by
    intro d mem
    cases answer : sel.accepts d with
    | ok hit => exact ⟨hit, rfl⟩
    | error e =>
      obtain ⟨e', failed⟩ := countMatching_error mem answer
      cases h.symm.trans failed
  obtain ⟨n, counted, none⟩ := countMatching_ok docs answered
  cases h.symm.trans counted
  exact none.1 rfl

/-- The documents that are left are those that match. -/
theorem left_iff {id : Value} :
    s.Left ns sel id ↔ id ∈ (s.matching ns sel).map Document.id := by
  rw [List.mem_map]
  refine exists_congr fun d => ?_
  rw [matching, List.mem_filter, and_assoc]
  refine and_congr_right fun _ => and_congr_left fun _ => ?_
  cases sel.accepts d with
  | error e => exact iff_of_false (fun h => by cases h) (fun h => by cases h)
  | ok hit => cases hit <;> decide

end Store

/-- Apart from operations nothing in a run changes documents. -/
theorem World.documents_frame : WideFrame fun w w' => w'.store.documents = w.store.documents where
  trans h k := k.trans h
  yield w := by
    unfold yield
    split
    · rfl
    · dsimp only
      split <;> rfl
  turn w := by
    unfold takeTurn
    split <;> rfl
  clock _ _ := rfl
  warn _ _ := rfl
  counters _ _ := rfl
  cursors _ _ := rfl
  note _ _ _ := rfl
  graph _ _ := rfl
  putRecord _ _ _ := rfl

/-! ## Oracles -/

namespace Oracle

variable {o : Oracle} {metadata : Namespace}

theorem readRecords_ne_passed (c : Cursor CompletionRecord) (items : List CompletionRecord)
    (satisfied : Nat) (w : World) :
    (o.readRecords metadata c items satisfied w).2 ≠ some .passed := by
  induction items generalizing satisfied w with
  | nil =>
    rw [readRecords]
    split
    · simp
    · simp
    split
    · simp
    · dsimp only
      split <;> simp
  | cons r items ih =>
    rw [readRecords]
    split
    · simp
    · simp
    split
    · simp
    dsimp only
    split
    · exact ih _ _
    · simp

/-- An oracle says that there is nothing to do only if nothing is left. -/
theorem nothing_left_of_passed {w w' : World}
    (h : o.state metadata w = (w', some .passed)) (id : Value) :
    ¬w.store.Left o.namesp o.selector id := by
  rw [← Store.left_congr (World.documents_frame.yield w)]
  rw [state] at h
  split at h
  · cases h
  · cases h
  rename_i n counted
  split at h
  · rename_i none
    obtain ⟨_, _, -, answer⟩ := World.guard_ok counted
    have count := Store.eq_ok_of_reported (Store.underFaults_ok (congrArg Prod.snd answer))
    rw [none] at count
    rintro ⟨d, mem, hit, -⟩
    cases hit.symm.trans (Store.accepts_false_of_count count d mem)
  split at h
  · cases h
  · -- The prerequisites do not tell that there is nothing to do.
    unfold prerequisites at h
    dsimp only at h
    split at h
    · cases h
    · cases h
    · exact absurd (congrArg Prod.snd h) (readRecords_ne_passed _ _ _ _)

end Oracle

/-- A question step by step ends so only if nothing is left when it does. -/
theorem Inquiry.nothing_left_of_passed {o : Oracle} {metadata : Namespace} {i : Inquiry}
    {w w' : World} (h : i.step o metadata w = (w', .inr (some .passed))) (id : Value) :
    ¬w.store.Left o.namesp o.selector id := by
  have called {α : Type} {v : World} {c : Store → Call α} {underway : World.Underway → Inquiry}
      {answered : World × Except StoreFailure α → World × Next}
      (failed : ∀ v e, (answered (v, .error e)).2 ≠ .inr (some .passed)) :
      call v c underway answered ≠ (w', .inr (some .passed)) := by
    intro told
    unfold call at told
    split at told
    · cases told
    · exact failed _ _ (congrArg Prod.snd told)
  have unread {c : Cursor CompletionRecord} {items : List CompletionRecord} {satisfied : Nat}
      (r : World × Except StoreFailure Unit) :
      (afterWait o metadata c items satisfied r).2 ≠ .inr (some .passed) := by
    unfold afterWait
    split
    · rintro ⟨⟩
    · rintro ⟨⟩
    split
    · rintro ⟨⟩
    split
    · split <;> rintro ⟨⟩
    · split <;> rintro ⟨⟩
  cases i with
  | fresh => exact absurd h (called fun v e => by cases e <;> rintro ⟨⟩)
  | counted => exact absurd h (called fun v e => by cases e <;> rintro ⟨⟩)
  | reading => exact absurd h (called fun v e => unread (v, .error e))
  | querying q =>
    rw [step] at h
    unfold afterQuery at h
    split at h <;> cases h
  | waiting c items satisfied q => exact absurd (congrArg Prod.snd h) (unread _)
  | counting q =>
    rw [step] at h
    rcases w.complete_cases o.count q with ⟨t, e, failed⟩ | ⟨t, done⟩
    · rw [failed] at h
      cases e <;> cases h
    · have counted : (o.count q.asked).finish w.store = (w.store, Store.underFaults _ _
        (Store.reported (Store.countMatching o.selector (w.store.documents o.namesp)))) := rfl
      rw [done, counted] at h
      unfold afterCount at h
      split at h
      · cases h
      · cases h
      rename_i n same
      split at h
      · rename_i none
        have count := Store.eq_ok_of_reported (Store.underFaults_ok (congrArg Prod.snd same))
        rw [none] at count
        rintro ⟨d, mem, hit, -⟩
        cases hit.symm.trans (Store.accepts_false_of_count count d mem)
      · split at h <;> cases h

/-! ## Scans -/

namespace Generator

variable {g : Generator} {env : Environment}

/-- A scan that comes to its end without a bound makes a task for whatever is left. -/
theorem mem_scan (unlimited : g.migration.limit = none) {w : World}
    (ended : (g.scan env w).2.2 = .ok ()) {d : Value}
    (left : w.store.Left g.migration.namesp g.migration.selector d) :
    ∃ n, g.task d n ∈ (g.scan env w).2.1 := by
  have delivered := delivered_of_ok ended
  rw [unlimited, upTo] at delivered
  rw [Store.left_iff, ← delivered] at left
  obtain ⟨n, at_n⟩ := List.mem_iff_getElem?.1 left
  have numbered : (d, n) ∈ (g.delivered env w).zipIdx := List.mem_zipIdx_iff_getElem?.2 at_n
  rw [g.scan_delivered]
  exact ⟨n, List.mem_map.2 ⟨(d, n), numbered, rfl⟩⟩

end Generator

/-! ## Steps -/

namespace Moment

variable {env : Environment} {options : RunOptions} {generators : List Generator} {m : Moment}

/-- Documents with this identifying value are left of a migration at a moment. -/
def Left (m : Moment) (g : Generator) (d : Value) : Prop :=
  m.state.world.store.Left g.migration.namesp g.migration.selector d

/-- What the operations at work do to the documents that are left. -/
structure Clears (env : Environment) (options : RunOptions) (generators : List Generator)
    (m : Moment) : Prop where
  /-- The part that an operation does next leaves nothing that was not left before. -/
  parts : ∀ part, m.Enacts env options part → ∀ g ∈ generators, ∀ d,
    (m.next env options).Left g d → m.Left g d
  /-- When the operation of a task ends well, nothing that has the identifying value of the task is
  left of the task's migration. -/
  ends : ∀ t, m.Applies t (.done .succeeded) →
    ¬m.state.world.store.Left t.namesp t.oracle.selector t.documentId

/-- In the next step a migration is told that it has nothing to do, or is scanned to the end. -/
def Surveys (env : Environment) (m : Moment) (id : Identifier) : Prop :=
  ∃ ids progressed g w, m.stage = .asking (id :: ids) progressed ∧
    m.state.generators.find? id = some g ∧
    (g.oracle.state env.metadata m.state.world = (w, some .passed) ∨
      g.oracle.state env.metadata m.state.world = (w, some .ready) ∧
        (g.scan env w).2.2 = .ok ())

/-- A task at work is told that it has nothing to do when it goes on, or its operation ends well. -/
def Discharges (env : Environment) (m : Moment) (t : Task) : Prop :=
  (∃ i w, ⟨t, .asking i⟩ ∈ m.stage.flights ∧
    i.step t.oracle env.metadata m.state.world.takeTurn.2 = (w, .inr (some .passed))) ∨
  m.Applies t (.done .succeeded)

/-- What is left after a step was left before it. -/
theorem left_of_next (clears : m.Clears env options generators) {g : Generator}
    (given : g ∈ generators) {d : Value} (h : (m.next env options).Left g d) : m.Left g d := by
  have frame := World.documents_frame
  rcases next_frame frame (fun _ _ _ => rfl) options m with same | ⟨f, mem, deed⟩
  · exact (Store.left_congr same d).1 h
  cases deed with
  | call op ready known called =>
    rw [Left, called] at h
    exact (Store.left_congr (frame.turn m.state.world) d).1 h
  | part part rest at_work done =>
    exact clears.parts part ⟨⟨f, mem, rest, at_work⟩, done⟩ g given d h

/-- When a task is discharged nothing is left of its document. -/
theorem Discharges.not_left {g : Generator} {d : Value} {n : Nat}
    (h : m.Discharges env (g.task d n)) (clears : m.Clears env options generators) :
    ¬m.Left g d := by
  rcases h with ⟨i, w, -, told⟩ | well
  · rw [Left, ← Store.left_congr (World.documents_frame.turn m.state.world)]
    exact Inquiry.nothing_left_of_passed told d
  · exact clears.ends _ well

/-- A task that is discharged is the one that is known under its identifier. -/
theorem Discharges.known {t : Task} (h : m.Discharges env t) (todo : m.stage.Sound m.state) :
    m.state.tasks.find? t.id = some t := by
  rcases h with ⟨i, w, mem, -⟩ | mem
  · exact todo.expects.known _ mem
  · exact todo.expects.known _ mem

end Moment

/-! ## Tasks that are discharged -/

/-- If the record of a task that has come so far is saved as that of one without errors, `K`
holds. -/
def Evaluation.Settled (K : Prop) : Evaluation → Prop
  | saving ending | writing ending _ => ending.errors = [] → K
  | _ => True

theorem Evaluation.Settled.mono {K K' : Prop} {e : Evaluation} (h : e.Settled K) (more : K → K') :
    e.Settled K' := by
  cases e with
  | saving | writing => exact fun clean => more (h clean)
  | _ => trivial

/-- A task at work that is to end without errors was discharged before. -/
theorem World.moment_settled (w : World) (env : Environment) (options : RunOptions)
    (generators : List Generator) (n : Nat) :
    ∀ f ∈ (w.moment env options generators n).stage.flights, f.evaluation.Settled
      (∃ k < n, (w.moment env options generators k).Discharges env f.task) := by
  induction n with
  | zero => exact fun f mem => absurd mem List.not_mem_nil
  | succ n ih =>
    have later {f : Flight} (mem : f ∈ (w.moment env options generators n).stage.flights) :
        f.evaluation.Settled
          (∃ k < n + 1, (w.moment env options generators k).Discharges env f.task) :=
      (ih f mem).mono fun ⟨k, before, discharges⟩ => ⟨k, Nat.lt_succ_of_lt before, discharges⟩
    refine Moment.next_flights (P := fun f => f.evaluation.Settled
      (∃ k < n + 1, (w.moment env options generators k).Discharges env f.task))
      (moment_stage w options n) (fun _ _ _ _ => trivial)
      (fun f mem world evaluation _ step => ?_) fun f mem _ _ _ _ => later mem
    have before := later mem
    obtain ⟨t, e⟩ := f
    cases Evaluation.onward_of_step step with
    | passes told => exact fun _ => ⟨n, Nat.lt_succ_self n, Or.inl ⟨_, _, mem, told⟩⟩
    | succeeds => exact fun _ => ⟨n, Nat.lt_succ_self n, Or.inr mem⟩
    | misses | fails => exact fun clean => by cases clean
    | writes => exact before
    | asks | readies | calls | acts => trivial

/-! ## Migrations that are surveyed -/

/-- A scan after which a generator has no errors has come to its end. -/
theorem Generator.scan_ended {g : Generator} {env : Environment} {w : World}
    (h : (g.run env w).2.1.errors = []) : (g.scan env w).2.2 = .ok () := by
  unfold run at h
  dsimp only at h
  split at h
  · rename_i ended
    exact ended
  · exact absurd h (by simp)

namespace Progress

/-- A migration has begun, and there are no errors so far. -/
def BegunWell (p : Progress) (id : Identifier) : Prop :=
  ∃ g, p.generators.find? id = some g ∧ g.entry.phase ≠ .pending ∧ g.entry.errors = []

variable {p : Progress} {id c : Identifier}

/-- What is finished without errors has no errors, and its tasks are finished without errors. -/
theorem Lawful.of_isClean (laws : p.Lawful) {st : Standing} (at_id : p.standing? id = some st)
    (clean : st.phase.isClean = true) : st.errors = [] ∧ ∀ c ∈ st.tasks, p.Clean c := by
  cases phase : st.phase with
  | succeeded => exact laws.clean at_id phase
  | passed =>
    obtain ⟨errors, none⟩ := laws.bare at_id (Or.inr phase)
    refine ⟨errors, fun c mem => ?_⟩
    rw [none] at mem
    exact absurd mem List.not_mem_nil
  | pending | running | failed =>
    rw [phase] at clean
    cases clean

theorem Clean.begunWell (h : p.Clean id) (laws : p.Lawful)
    (migration : p.generators.contains id = true) : p.BegunWell id := by
  obtain ⟨st, at_id, clean⟩ := h
  obtain ⟨g, found, rfl⟩ := generator_of_standing migration at_id
  refine ⟨g, found, fun pending => ?_, (laws.of_isClean at_id clean).1⟩
  rw [show g.standing.phase = .pending from pending] at clean
  cases clean

end Progress

namespace Moment

variable {env : Environment} {id : Identifier}

/-- A migration that has begun without errors after it was asked is surveyed with that. -/
theorem surveys_of_advance {s : RunState} {e : GeneratorEntry}
    (found : s.progress.generators.find? id = some e) (pending : e.entry.phase = .pending)
    (ids : List Identifier) (progressed : Bool)
    (h : (s.advance env id).1.progress.BegunWell id) :
    Surveys env ⟨.asking (id :: ids) progressed, s⟩ id := by
  have unchanged {p : Progress} (same : p.generators.find? id = some e) : ¬p.BegunWell id := by
    rintro ⟨e', found', begun, -⟩
    cases same.symm.trans found'
    exact begun pending
  unfold RunState.advance at h
  cases source : s.generators.find? id with
  | none =>
    rw [source] at h
    exact absurd h (unchanged found)
  | some g =>
    rw [source] at h
    dsimp only at h
    cases asked : g.oracle.state env.metadata s.world with
    | mk world answer =>
    rw [asked] at h
    have observed (state : Readiness) : ¬(s.progress.observe id state).BegunWell id := by
      rintro ⟨e', found', begun, -⟩
      rw [Progress.observe, if_pos (IdMap.contains_of_find? found)] at found'
      dsimp only at found'
      rw [IdMap.find?_adjust_self, found] at found'
      cases found'
      exact begun pending
    cases answer with
    | none => exact absurd h (unchanged found)
    | some r =>
      cases r with
      | unresolved | blocked => exact absurd h (observed _)
      | passed => exact ⟨ids, progressed, g, world, rfl, source, Or.inl asked⟩
      | ready =>
        refine ⟨ids, progressed, g, world, rfl, source, Or.inr ⟨asked, g.scan_ended ?_⟩⟩
        dsimp only at h
        generalize g.run env world = r at *
        split at h
        · exact absurd h (unchanged found)
        · obtain ⟨e', found', -, none⟩ := h
          unfold RunState.takeJobs Progress.generatorRan at found'
          dsimp only at found'
          rw [found] at found'
          dsimp only at found'
          rw [IdMap.find?_insert_self] at found'
          cases found'
          exact (List.append_eq_nil_iff.1 none).2

/-- A migration that has begun without errors after a step had done so before, or is surveyed with
the step. -/
theorem surveys_of_next {m : Moment} (lawful : m.state.progress.Lawful)
    (todo : m.stage.Sound m.state) (options : RunOptions)
    (h : (m.next env options).state.progress.BegunWell id) :
    m.state.progress.BegunWell id ∨ m.Surveys env id := by
  cases m.next_transition env options with
  | asks id' ids progressed stage state =>
    obtain ⟨_, s⟩ := m
    obtain rfl := stage
    obtain ⟨e, found, pending⟩ := todo.2 id' List.mem_cons_self
    rw [state] at h
    by_cases same : id = id'
    · subst same
      exact Or.inr (surveys_of_advance found pending ids progressed h)
    · obtain ⟨g, found', well⟩ := h
      rw [RunState.advance_generators_of_ne found same] at found'
      exact Or.inl ⟨g, found', well⟩
  | starts progressed stage next =>
    rw [next] at h
    exact Or.inl h
  | works flights progressed canceled left stage r works next =>
    rw [stage] at todo
    rw [next] at h
    rw [Progress.BegunWell, RunState.work_generators works lawful todo] at h
    exact Or.inl h
  | closes id' hasErrors settled progressed stage state =>
    rw [stage] at todo
    obtain ⟨e, found, is_settled, -⟩ := todo.2 (id', hasErrors) List.mem_cons_self
    rw [state] at h
    obtain ⟨g, found', begun, none⟩ := h
    by_cases same : id = id'
    · subst same
      refine Or.inl ⟨e, found, ?_, ?_⟩
      · rw [(Progress.isSettled_iff.1 is_settled).1]
        exact Phase.noConfusion
      · unfold RunState.close at found'
        split at found'
        · cases found.symm.trans found'
          exact none
        · obtain ⟨e', before, rfl⟩ :=
            Option.map_eq_some_iff.1 ((IdMap.find?_adjust_self _ _ _).symm.trans found')
          cases found.symm.trans before
          exact (List.append_eq_nil_iff.1 none).1
    · rw [RunState.close_generators_of_ne same] at found'
      exact Or.inl ⟨g, found', begun, none⟩
  | waits _ _ _ _ state =>
    rw [state] at h
    exact Or.inl h

end Moment

/-! ## All moments -/

namespace World

variable {env : Environment} {options : RunOptions} {generators : List Generator}

/-- What is left at a moment was left at each moment before it. -/
theorem left_of_later {w : World}
    (clears : ∀ n, (w.moment env options generators n).Clears env options generators)
    {g : Generator} (given : g ∈ generators) {d : Value} {k n : Nat} (later : k ≤ n)
    (h : (w.moment env options generators n).Left g d) :
    (w.moment env options generators k).Left g d := by
  induction later with
  | refl => exact h
  | step _ ih => exact ih (Moment.left_of_next (clears _) given h)

section

variable (fresh : ∀ g ∈ generators, g.buffered = []) (separate : Separate generators)

include fresh separate

/-- A migration that is finished without errors was surveyed before. -/
theorem surveyed_of_clean (w : World) {n : Nat} {id : Identifier}
    (migration : id ∈ generators.map Generator.id)
    (h : (w.moment env options generators n).state.progress.Clean id) :
    ∃ k < n, (w.moment env options generators k).Surveys env id := by
  have orderly (n : Nat) : (w.moment env options generators n).Orderly generators _ :=
    w.moment_orderly fresh separate n
  replace h := h.begunWell (orderly n).lawful (((orderly n).migrations id).2 migration)
  induction n with
  | zero =>
    obtain ⟨g, found, begun, -⟩ := h
    have start := Progress.start_standing (Progress.standing?_of_generator found)
    exact absurd (congrArg Standing.phase start) begun
  | succ n ih =>
    rcases Moment.surveys_of_next (orderly n).lawful (w.moment_stage options n) options h
      with h | now
    · obtain ⟨k, earlier, surveys⟩ := ih h
      exact ⟨k, Nat.lt_succ_of_lt earlier, surveys⟩
    · exact ⟨n, Nat.lt_succ_self n, now⟩

/-- A task that is finished without errors was discharged before. -/
theorem discharged_of_clean (w : World) {n : Nat} {c : Identifier}
    (task : c ∉ generators.map Generator.id)
    (h : (w.moment env options generators n).state.progress.Clean c) :
    ∃ k < n, ∃ t, t.id = c ∧ (w.moment env options generators k).Discharges env t := by
  induction n with
  | zero =>
    obtain ⟨st, at_c, clean⟩ := h
    rw [Progress.start_standing at_c] at clean
    cases clean
  | succ n ih =>
    obtain ⟨st, at_c, clean⟩ := h
    have orderly : (w.moment env options generators n).Orderly generators _ :=
      w.moment_orderly fresh separate n
    have change : Moment.Change env _ (w.moment env options generators (n + 1)).state :=
      Moment.next_change orderly.lawful (w.moment_stage options n) options
    rw [← orderly.migrations, Bool.not_eq_true] at task
    rcases change.finished task at_c clean with at_c | ⟨f, mem, rfl, ending, q, writing, none, -⟩
    · obtain ⟨k, earlier, discharged⟩ := ih ⟨st, at_c, clean⟩
      exact ⟨k, Nat.lt_succ_of_lt earlier, discharged⟩
    · have settled := w.moment_settled env options generators n f mem
      rw [writing] at settled
      obtain ⟨k, earlier, discharges⟩ := settled none
      exact ⟨k, Nat.lt_succ_of_lt earlier, f.task, rfl, discharges⟩

/-- A task of a scan is discharged before its migration is finished without errors. -/
theorem discharged_of_scanning (w : World) {k n : Nat} (later : k < n) {t : Task}
    (mem : t ∈ (w.moment env options generators k).scanning env)
    (clean : (w.moment env options generators n).state.progress.Clean t.migration) :
    ∃ j < n, (w.moment env options generators j).Discharges env t := by
  have orderly (n : Nat) : (w.moment env options generators n).Orderly generators _ :=
    w.moment_orderly fresh separate n
  obtain ⟨st, at_g, is_clean⟩ := clean
  have handed : t ∈ w.handedOver env options generators n := by
    refine w.handedOver_of_scanning fresh separate later mem at_g fun pending => ?_
    rw [pending] at is_clean
    cases is_clean
  obtain ⟨⟨g, given, d, i, rfl⟩, st', at_g', -, member⟩ := (orderly n).own t handed
  cases at_g.symm.trans at_g'
  have finished := ((orderly n).lawful.of_isClean at_g is_clean).2 _ member
  obtain ⟨j, before, t, named, discharges⟩ :=
    w.discharged_of_clean fresh separate (separate.task_ne given d i) finished
  -- Only one task is known under the identifier.
  have known := discharges.known (w.moment_stage options j)
  rw [named] at known
  obtain ⟨handed', named⟩ := (orderly j).tasks.1 known
  have known' := (orderly n).tasks.2 ⟨w.handedOver_mono (Nat.le_of_lt before) handed', named⟩
  cases known'.symm.trans ((orderly n).tasks.2 ⟨handed, rfl⟩)
  exact ⟨j, before, discharges⟩

/-- Nothing is left of a migration that is finished without errors. -/
theorem nothing_left {w : World} (distinct : (generators.map Generator.id).Nodup)
    (unlimited : ∀ g ∈ generators, g.migration.limit = none)
    (clears : ∀ n, (w.moment env options generators n).Clears env options generators) {n : Nat}
    {g : Generator} (given : g ∈ generators)
    (clean : (w.moment env options generators n).state.progress.Clean g.id) (d : Value) :
    ¬(w.moment env options generators n).Left g d := by
  intro left
  obtain ⟨k, earlier, ids, progressed, g', v, stage, source, how⟩ :=
    w.surveyed_of_clean fresh separate (List.mem_map_of_mem given) clean
  obtain ⟨g₀, given₀, same_id, same⟩ := w.moment_source k source
  obtain rfl : g₀ = g := List.inj_on_of_nodup_map distinct given₀ given same_id
  have left_then : (w.moment env options generators k).state.world.store.Left
      g'.migration.namesp g'.migration.selector d := by
    rw [same]
    exact left_of_later clears given (Nat.le_of_lt earlier) left
  rcases how with told | ⟨ready, ended⟩
  · exact Oracle.nothing_left_of_passed told d left_then
  · -- The scan makes a task for what is left, and the task is discharged.
    have asked := g'.oracle.state_frame documents_frame.toFrame env.metadata
      (w.moment env options generators k).state.world
    rw [ready] at asked
    obtain ⟨i, made⟩ := Generator.mem_scan (by rw [same]; exact unlimited g₀ given) ended
      ((Store.left_congr asked d).2 left_then)
    rw [Generator.task_congr same] at made
    obtain ⟨j, before, discharges⟩ := w.discharged_of_scanning fresh separate earlier
      (Moment.mem_scanning stage source ready made) clean
    exact discharges.not_left (clears j) (left_of_later clears given (Nat.le_of_lt before) left)

end

end World

end GatedMigration
