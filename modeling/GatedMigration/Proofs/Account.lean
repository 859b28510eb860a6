import GatedMigration.Proofs.Agreement
import GatedMigration.Proofs.Commands

/-!
# The account of errors

Whatever the bookkeeping is told, and in whatever order, it keeps the errors of each migration and
each task as they came (`Progress.Accounts`), as long as no migration is told of as a new task. So
the report loses no error, and each identifier has its place in it (`Progress.Truthful`).

* `Accounts.obey`: a command adds to the errors what it tells, and keeps phases and errors in step.
* `Progress.told_eq_said`: if no identifier is used both as a migration and as a task, this is every
  error that a command gives for what is known.
* `Progress.no_error_lost`: what follows for the report.
-/

namespace GatedMigration

namespace Progress

/-- A line among the errors of a migration or a task. -/
inductive Line where
  /-- An error that the bookkeeping was told. -/
  | told (error : String)
  /-- What the bookkeeping adds when a migration is closed some of whose tasks have failed. -/
  | failedTasks (n : Nat)

namespace Line

/-- The text of a line. -/
def text : Line → String
  | told error => error
  | failedTasks n => toString n ++ " child task(s) failed"

/-- The error that the bookkeeping was told, if the line is one. -/
def told? : Line → Option String
  | told error => some error
  | failedTasks _ => none

theorem text_told (errors : List String) : (errors.map told).map text = errors := by
  rw [List.map_map]
  exact List.map_id errors

theorem told?_told (errors : List String) : (errors.map told).filterMap told? = errors := by
  rw [List.filterMap_map]
  exact List.filterMap_some

end Line

/-! ## What the bookkeeping was told -/

namespace Command

/-- The errors of a command for a migration or a task that is known. What is told of a migration
does not reach a task, nor the other way round. -/
def tells (p : Progress) (id : Identifier) : Command → List String
  | generatorRan id' _ errors | generatorPassed id' errors | finalizeGenerator id' errors =>
    if id' = id ∧ p.generators.contains id = true then errors else []
  | childExecuted id' errors | childPassed id' errors =>
    if id' = id ∧ p.children.contains id = true then errors else []
  | observe _ _ | endRound _ => []

/-- The migrations that a command is about. -/
def migrations : Command → List Identifier
  | generatorRan id _ _ | generatorPassed id _ | finalizeGenerator id _ => [id]
  | _ => []

/-- The tasks that a command is about or tells of. -/
def tasks : Command → List Identifier
  | generatorRan _ tasks _ => tasks
  | childExecuted id _ | childPassed id _ => [id]
  | _ => []

/-- The errors that come with a command. -/
def errors : Command → List String
  | generatorRan _ _ errors | generatorPassed _ errors | childExecuted _ errors
  | childPassed _ errors | finalizeGenerator _ errors => errors
  | observe _ _ | endRound _ => []

/-- What a command is about. -/
def subject? : Command → Option Identifier
  | observe id _ | generatorRan id _ _ | generatorPassed id _ | childExecuted id _
  | childPassed id _ | finalizeGenerator id _ => some id
  | endRound _ => none

end Command

/-- The errors for a migration or a task that it was told of while it was known, in order. -/
def told (p : Progress) (id : Identifier) : List Command → List String
  | [] => []
  | c :: cs => c.tells p id ++ told (p.obey c) id cs

/-- Whether a migration or a task is known. -/
def knows (p : Progress) (id : Identifier) : Bool :=
  p.generators.contains id || p.children.contains id

/-- All errors that come with commands about an identifier that is known, in order. -/
def said (p : Progress) (id : Identifier) : List Command → List String
  | [] => []
  | c :: cs =>
    (if c.subject? = some id ∧ p.knows id = true then c.errors else []) ++ said (p.obey c) id cs

variable {p : Progress} {id : Identifier}

/-- If no identifier is used both as a migration and as a task, every error that comes with a
command about something known reaches it. -/
theorem told_eq_said {cs : List Command}
    (kinds : ∀ c ∈ cs, ∀ t ∈ c.tasks, p.generators.contains t = false ∧
      ∀ c' ∈ cs, t ∉ c'.migrations)
    (known : ∀ t, p.children.contains t = true → ∀ c ∈ cs, t ∉ c.migrations) (id : Identifier) :
    p.told id cs = p.said id cs := by
  induction cs generalizing p with
  | nil => rfl
  | cons c cs ih =>
    rw [told, said]
    refine congrArg₂ _ ?_ (ih (fun c' mem t task => ?_) fun t at_t c' mem => ?_)
    · -- The command reaches what it is about.
      have migration (mine : id ∈ c.migrations) : p.knows id = p.generators.contains id := by
        rw [knows]
        cases task : p.children.contains id with
        | false => exact Bool.or_false _
        | true => exact absurd mine (known id task c List.mem_cons_self)
      have task (mine : id ∈ c.tasks) : p.knows id = p.children.contains id := by
        rw [knows, (kinds c List.mem_cons_self id mine).1, Bool.false_or]
      cases c with
      | observe | endRound => exact (ite_self _).symm
      | generatorRan id' | generatorPassed id' | finalizeGenerator id' =>
        by_cases same : id' = id
        · rw [migration (List.mem_singleton.2 same.symm)]
          simp [Command.tells, Command.subject?, Command.errors, same]
        · simp [Command.tells, Command.subject?, same]
      | childExecuted id' | childPassed id' =>
        by_cases same : id' = id
        · rw [task (List.mem_singleton.2 same.symm)]
          simp [Command.tells, Command.subject?, Command.errors, same]
        · simp [Command.tells, Command.subject?, same]
    · obtain ⟨other, apart⟩ := kinds c' (List.mem_cons_of_mem _ mem) t task
      exact ⟨(obey_contains p c t).trans other,
        fun c'' mem => apart c'' (List.mem_cons_of_mem _ mem)⟩
    · rcases obey_task_known at_t with old | new
      · exact known t old c' (List.mem_cons_of_mem _ mem)
      · have task : t ∈ c.tasks := by
          cases c with
          | generatorRan => exact new
          | _ => cases new
        exact (kinds c List.mem_cons_self t task).2 c' (List.mem_cons_of_mem _ mem)

/-! ## Phases and errors in step -/

/-- What has ended without errors has none, and what has failed has one. -/
def Honest (e : Entry) : Prop :=
  (e.phase.isClean = true → e.errors = []) ∧ (e.phase = .failed → e.errors ≠ [])

theorem finish_honest (e : Entry) {clean : Phase} (is_clean : clean.isClean = true)
    (errors : List String) : Honest (e.finish clean errors) := by
  unfold Honest
  rw [finish_phase_eq]
  split
  · rename_i none
    exact ⟨fun _ => none, fun failed => by rw [failed] at is_clean; cases is_clean⟩
  · rename_i some
    exact ⟨fun never => (by cases never), fun _ => some⟩

theorem honest_of_going {e : Entry} (going : e.phase.isTerminal = false) : Honest e := by
  refine ⟨fun clean => ?_, fun failed => ?_⟩
  · rw [Phase.isTerminal_of_isClean clean] at going
    cases going
  · rw [failed] at going
    cases going

/-- The bookkeeping holds the errors that it was told, and phases and errors are in step. Only for
migrations are there lines of its own among the errors. -/
structure Accounts (p : Progress) (told : Identifier → List String) : Prop where
  apart : ∀ {t}, p.children.contains t = true → p.generators.contains t = false
  migration : ∀ {id g}, p.generators.find? id = some g → Honest g.entry ∧
    ∃ lines : List Line, g.entry.errors = lines.map Line.text ∧
      lines.filterMap Line.told? = told id
  task : ∀ {id e}, p.children.find? id = some e → Honest e ∧ e.errors = told id
  unknown : ∀ {id}, p.knows id = false → told id = []

namespace Accounts

variable {told told' : Identifier → List String}

theorem of_eq (h : p.Accounts told) (same : ∀ id, told' id = told id) : p.Accounts told' := by
  rwa [funext same]

/-- At the start nothing was told. -/
theorem start (ids : List Identifier) (maxIdleRounds : Nat) :
    (Progress.start ids maxIdleRounds).Accounts fun _ => [] := by
  refine ⟨fun known => (by cases known), fun found => ?_, fun found => (by cases found),
    fun _ => rfl⟩
  obtain ⟨_, _, _, rfl⟩ :=
    IdMap.find?_ofList ids (fun id => id) (fun _ => ({} : GeneratorEntry)) found
  exact ⟨honest_of_going rfl, [], rfl, rfl⟩

/-- What is told of a migration is added to its errors. -/
theorem adjust_migration (h : p.Accounts told) {id' : Identifier}
    {f : GeneratorEntry → GeneratorEntry} (errors : List String)
    (changed : ∀ g, p.generators.find? id' = some g → Honest g.entry → Honest (f g).entry ∧
      ∃ lines : List Line, (f g).entry.errors = g.entry.errors ++ lines.map Line.text ∧
        lines.filterMap Line.told? = errors) :
    Accounts { p with generators := p.generators.adjust id' f }
      fun id => told id ++ if id' = id ∧ p.generators.contains id = true then errors else [] := by
  have contains (id : Identifier) := IdMap.contains_adjust p.generators id' id f
  refine ⟨fun known => (contains _).trans (h.apart known), fun {id g'} found' => ?_,
    fun {id e} found => ?_, fun {id} unknown => ?_⟩
  · rw [IdMap.find?_adjust] at found'
    split at found'
    · rename_i same
      subst same
      obtain ⟨g, found, rfl⟩ := Option.map_eq_some_iff.1 found'
      obtain ⟨honest, lines, errors_eq, told_eq⟩ := h.migration found
      obtain ⟨honest', more, errors_eq', told_eq'⟩ := changed g found honest
      refine ⟨honest', lines ++ more, ?_, ?_⟩
      · rw [errors_eq', errors_eq, List.map_append]
      · rw [if_pos ⟨rfl, IdMap.contains_of_find? found⟩, List.filterMap_append, told_eq, told_eq']
    · rename_i ne
      rw [if_neg fun both => ne both.1.symm, List.append_nil]
      exact h.migration found'
  · have other := h.apart (IdMap.contains_of_find? found)
    rw [if_neg fun both => (by rw [other] at both; cases both.2), List.append_nil]
    exact h.task found
  · obtain ⟨none, other⟩ := Bool.or_eq_false_iff.1 unknown
    replace none : p.generators.contains id = false := (contains id).symm.trans none
    rw [if_neg fun both => (by rw [none] at both; cases both.2), List.append_nil]
    exact h.unknown (Bool.or_eq_false_iff.2 ⟨none, other⟩)

/-- What is told of a task is added to its errors. -/
theorem adjust_task (h : p.Accounts told) {id' : Identifier} {f : Entry → Entry}
    (errors : List String)
    (changed : ∀ e, Honest e → Honest (f e) ∧ (f e).errors = e.errors ++ errors) :
    Accounts { p with children := p.children.adjust id' f }
      fun id => told id ++ if id' = id ∧ p.children.contains id = true then errors else [] := by
  have contains (id : Identifier) := IdMap.contains_adjust p.children id' id f
  refine ⟨fun known => h.apart ((contains _).symm.trans known), fun {id g} found => ?_,
    fun {id e'} found' => ?_, fun {id} unknown => ?_⟩
  · have none : ¬(id' = id ∧ p.children.contains id = true) := fun both => by
      cases (h.apart both.2).symm.trans (IdMap.contains_of_find? found)
    rw [if_neg none, List.append_nil]
    exact h.migration found
  · rw [IdMap.find?_adjust] at found'
    split at found'
    · rename_i same
      subst same
      obtain ⟨e, found, rfl⟩ := Option.map_eq_some_iff.1 found'
      obtain ⟨honest, errors_eq⟩ := h.task found
      obtain ⟨honest', errors_eq'⟩ := changed e honest
      rw [if_pos ⟨rfl, IdMap.contains_of_find? found⟩, errors_eq', errors_eq]
      exact ⟨honest', rfl⟩
    · rename_i ne
      rw [if_neg fun both => ne both.1.symm, List.append_nil]
      exact h.task found'
  · obtain ⟨other, none⟩ := Bool.or_eq_false_iff.1 unknown
    replace none : p.children.contains id = false := (contains id).symm.trans none
    rw [if_neg fun both => (by rw [none] at both; cases both.2), List.append_nil]
    exact h.unknown (Bool.or_eq_false_iff.2 ⟨other, none⟩)

/-- Of a new task nothing was told. -/
theorem add_tasks (h : p.Accounts told) {tasks : List Identifier}
    (new : ∀ t ∈ tasks, p.generators.contains t = false) :
    Accounts { p with children := addChildren p.children tasks } told := by
  have known {t : Identifier} : (addChildren p.children tasks).contains t = true ↔
      p.children.contains t = true ∨ t ∈ tasks := by
    unfold IdMap.contains
    rw [find?_addChildren]
    cases p.children.find? t with
    | some e => simp
    | none => by_cases mem : t ∈ tasks <;> simp [mem]
  refine ⟨fun at_t => (known.1 at_t).elim h.apart (new _), h.migration, fun {id e} found => ?_,
    fun {id} unknown => h.unknown ?_⟩
  · rw [find?_addChildren] at found
    rcases Option.or_eq_some_iff.1 found with found | ⟨none, fresh⟩
    · exact h.task found
    · split at fresh
      · rename_i mem
        cases fresh
        refine ⟨honest_of_going rfl, (h.unknown ?_).symm⟩
        have unlisted : p.children.contains id = false := by rw [IdMap.contains, none]; rfl
        exact Bool.or_eq_false_iff.2 ⟨new id mem, unlisted⟩
      · cases fresh
  · obtain ⟨other, none⟩ := Bool.or_eq_false_iff.1 unknown
    refine Bool.or_eq_false_iff.2 ⟨other, eq_false_of_ne_true fun at_id => ?_⟩
    rw [known.2 (Or.inl at_id)] at none
    cases none

/-- The line that the bookkeeping adds when a migration is closed. -/
theorem failedChildrenErrors_lines (failed : Nat) : ∃ lines : List Line,
    failedChildrenErrors failed = lines.map Line.text ∧ lines.filterMap Line.told? = [] := by
  unfold failedChildrenErrors
  split
  · exact ⟨[], rfl, rfl⟩
  · exact ⟨[.failedTasks failed], rfl, rfl⟩

/-- After a command the bookkeeping holds besides what the command tells. -/
theorem obey (h : p.Accounts told) {c : Command}
    (new : ∀ t ∈ c.newTasks, p.generators.contains t = false) :
    (p.obey c).Accounts fun id => told id ++ c.tells p id := by
  cases c with
  | endRound progressed =>
    refine Accounts.of_eq ⟨h.apart, h.migration, h.task, h.unknown⟩ fun id => ?_
    exact List.append_nil _
  | observe id' state =>
    -- An answer brings no error.
    suffices q : (p.observe id' state).Accounts told from q.of_eq fun id => List.append_nil _
    unfold Progress.observe
    split
    · refine Accounts.of_eq (h.adjust_migration [] fun g _ honest => ?_) fun id => ?_
      · exact ⟨honest, [], (List.append_nil _).symm, rfl⟩
      · rw [ite_self, List.append_nil]
    · refine Accounts.of_eq (h.adjust_task [] fun e honest => ?_) fun id => ?_
      · exact ⟨honest, (List.append_nil _).symm⟩
      · rw [ite_self, List.append_nil]
  | generatorRan id' tasks errors =>
    show (p.generatorRan id' tasks errors).Accounts _
    cases found : p.generators.find? id' with
    | none =>
      rw [generatorRan, found]
      refine h.of_eq fun id => ?_
      have none : ¬(id' = id ∧ p.generators.contains id = true) := by
        rintro ⟨rfl, known⟩
        rw [IdMap.contains, found] at known
        cases known
      exact (congrArg _ (if_neg none)).trans (List.append_nil _)
    | some g =>
      let run (g : GeneratorEntry) : GeneratorEntry :=
        { entry := { g.entry with
            phase := .running, lastState := some .ready, errors := g.entry.errors ++ errors }
          children := g.children ++ tasks }
      have ran : Accounts { p with generators := p.generators.adjust id' run } fun id => told id ++
          if id' = id ∧ p.generators.contains id = true then errors else [] :=
        h.adjust_migration errors fun g _ _ =>
          ⟨honest_of_going rfl, errors.map .told, by rw [Line.text_told], Line.told?_told errors⟩
      have fanned := ran.add_tasks fun t mem =>
        (IdMap.contains_adjust p.generators id' t run).trans (new t mem)
      rw [IdMap.adjust, found] at fanned
      rw [generatorRan, found]
      exact fanned
  | generatorPassed id' errors =>
    refine h.adjust_migration errors fun g _ _ => ⟨finish_honest _ rfl _, errors.map .told, ?_,
      Line.told?_told errors⟩
    rw [Line.text_told]
    rfl
  | finalizeGenerator id' errors =>
    refine h.adjust_migration errors fun g _ _ => ⟨finish_honest _ rfl _, ?_⟩
    obtain ⟨lines, added, none⟩ := failedChildrenErrors_lines (p.failedChildren g)
    refine ⟨lines ++ errors.map .told, ?_, ?_⟩
    · rw [List.map_append, Line.text_told, ← added]
      rfl
    · rw [List.filterMap_append, none, Line.told?_told, List.nil_append]
  | childExecuted _ errors | childPassed _ errors =>
    exact h.adjust_task errors fun e _ => ⟨finish_honest _ rfl _, rfl⟩

/-- After commands the bookkeeping holds besides all that they have told. -/
theorem after (h : p.Accounts told) {cs : List Command}
    (new : ∀ c ∈ cs, ∀ t ∈ c.newTasks, p.generators.contains t = false) :
    (p.after cs).Accounts fun id => told id ++ p.told id cs := by
  induction cs generalizing p told with
  | nil => exact h.of_eq fun id => List.append_nil _
  | cons c cs ih =>
    have next := h.obey (new c List.mem_cons_self)
    refine (ih next fun c' mem t mem' => ?_).of_eq fun id => (List.append_assoc _ _ _).symm
    exact (obey_contains p c t).trans (new c' (List.mem_cons_of_mem _ mem) t mem')

end Accounts

end Progress

/-! ## Places in a report -/

namespace IdMap

variable {α : Type}

theorem keys_nodup (m : IdMap α) : m.keys.Nodup := Keyed.nodup_of_ascending m.ascending

theorem mem_keys {m : IdMap α} {id : Identifier} : id ∈ m.keys ↔ m.contains id = true :=
  Keyed.find?_isSome_iff.symm

theorem size_pos_iff {m : IdMap α} : 0 < m.size ↔ ∃ id, m.contains id = true := by
  refine List.length_pos_iff_exists_mem.trans
    ⟨fun ⟨⟨id, v⟩, mem⟩ => ⟨id, ?_⟩, fun ⟨id, known⟩ => ?_⟩
  · exact contains_of_find? (Keyed.find?_of_mem m.ascending mem)
  · obtain ⟨v, found⟩ := find?_of_contains known
    exact ⟨(id, v), Keyed.mem_of_find?_eq_some found⟩

end IdMap

/-- How often the lists of a report name an identifier. -/
def Report.places (r : Report) (id : Identifier) : Nat :=
  r.succeeded.count id + r.passed.count id + r.failed.keys.count id + r.blocked.keys.count id

namespace Progress

variable {p : Progress} {id : Identifier}

/-- How often a list without repetitions names an identifier. -/
theorem count_of_nodup {l : List Identifier} (nodup : l.Nodup) {listed : Prop} [Decidable listed]
    (iff : id ∈ l ↔ listed) : l.count id = if listed then 1 else 0 := by
  split
  · rename_i holds
    exact List.count_eq_one_of_mem nodup (iff.2 holds)
  · rename_i fails
    exact List.count_eq_zero_of_not_mem fun mem => fails (iff.1 mem)

theorem knows_iff : p.knows id = true ↔ ∃ ph, p.phase? id = some ph := by
  unfold knows phase? IdMap.contains
  cases p.generators.find? id with
  | some g => exact ⟨fun _ => ⟨_, rfl⟩, fun _ => rfl⟩
  | none => cases p.children.find? id <;> simp

/-- What has a phase has an entry with it. -/
theorem exists_entry {ph : Phase} (at_id : p.phase? id = some ph) :
    ∃ e, (id, e) ∈ p.entries ∧ e.phase = ph := by
  unfold phase? at at_id
  split at at_id
  · rename_i g found
    refine ⟨g.entry, List.mem_append_left _ ?_, Option.some.inj at_id⟩
    exact List.mem_map.2 ⟨(id, g), Keyed.mem_of_find?_eq_some found, rfl⟩
  · obtain ⟨e, found, phase⟩ := Option.map_eq_some_iff.1 at_id
    exact ⟨e, List.mem_append_right _ (Keyed.mem_of_find?_eq_some found), phase⟩

section Apart

variable (apart : ∀ {t}, p.children.contains t = true → p.generators.contains t = false)

include apart

/-- No identifier has two entries. -/
theorem entries_nodup : (p.entries.map Prod.fst).Nodup := by
  have keys : p.entries.map Prod.fst = p.generators.keys ++ p.children.keys := by
    rw [entries, List.map_append, List.map_map]
    rfl
  rw [keys]
  refine List.nodup_append.2 ⟨p.generators.keys_nodup, p.children.keys_nodup, ?_⟩
  rintro id migration _ task rfl
  cases (apart (IdMap.mem_keys.1 task)).symm.trans (IdMap.mem_keys.1 migration)

/-- What a report lists is what is in the phases that it asks for. -/
theorem mem_in_phase_iff (test : Phase → Bool) :
    id ∈ (p.entries.filter fun e => test e.2.phase).map Prod.fst ↔
      ∃ ph, p.phase? id = some ph ∧ test ph = true := by
  constructor
  · intro mem
    obtain ⟨⟨id, e⟩, listed, rfl⟩ := List.mem_map.1 mem
    obtain ⟨entry, holds⟩ := List.mem_filter.1 listed
    exact ⟨e.phase, phase?_of_mem_entries apart entry, holds⟩
  · rintro ⟨ph, at_id, holds⟩
    obtain ⟨e, mem, rfl⟩ := exists_entry at_id
    exact mem_filter_of_mem_entries mem holds

theorem mem_exact_phase_iff (ph : Phase) :
    id ∈ (p.entries.filter fun e => e.2.phase == ph).map Prod.fst ↔ p.phase? id = some ph := by
  rw [mem_in_phase_iff apart (· == ph)]
  simp

theorem in_phase_nodup (test : Phase → Bool) :
    ((p.entries.filter fun e => test e.2.phase).map Prod.fst).Nodup :=
  (entries_nodup apart).sublist (List.filter_sublist.map _)

theorem reported_succeeded_iff (canceled : Bool) : id ∈ (p.report canceled).succeeded ↔
    p.phase? id = some .succeeded ∧ p.generators.contains id = false := by
  refine List.mem_filter.trans (and_congr (mem_exact_phase_iff apart _) ?_)
  rw [Bool.not_eq_true']

theorem reported_passed_iff (canceled : Bool) :
    id ∈ (p.report canceled).passed ↔ p.phase? id = some .passed :=
  mem_exact_phase_iff apart _

theorem reported_failed_iff (canceled : Bool) :
    (p.report canceled).failed.contains id = true ↔ p.phase? id = some .failed :=
  (report_failed_iff canceled).trans (mem_exact_phase_iff apart _)

theorem reported_blocked_iff (canceled : Bool) : (p.report canceled).blocked.contains id = true ↔
    p.phase? id = some .pending ∨ p.phase? id = some .running := by
  rw [report_blocked_iff, mem_in_phase_iff apart (!·.isTerminal)]
  constructor
  · rintro ⟨ph, at_id, waits⟩
    cases ph with
    | pending => exact Or.inl at_id
    | running => exact Or.inr at_id
    | succeeded | passed | failed => cases waits
  · rintro (at_id | at_id)
    · exact ⟨_, at_id, rfl⟩
    · exact ⟨_, at_id, rfl⟩

/-- Whatever is known has one place in a report, but for the migrations that have succeeded, which
have none. -/
theorem places_eq (canceled : Bool) (id : Identifier) : (p.report canceled).places id =
    if p.knows id = false ∨ p.generators.contains id = true ∧ p.phase? id = some .succeeded
    then 0 else 1 := by
  have once : (p.report canceled).succeeded.Nodup :=
    (in_phase_nodup apart (· == .succeeded)).filter _
  have succeeded : (p.report canceled).succeeded.count id =
      if p.phase? id = some .succeeded ∧ p.generators.contains id = false then 1 else 0 :=
    count_of_nodup once (reported_succeeded_iff apart canceled)
  have passed : (p.report canceled).passed.count id =
      if p.phase? id = some .passed then 1 else 0 :=
    count_of_nodup (in_phase_nodup apart (· == .passed)) (reported_passed_iff apart canceled)
  have failed : (p.report canceled).failed.keys.count id =
      if p.phase? id = some .failed then 1 else 0 :=
    count_of_nodup (IdMap.keys_nodup _)
      (IdMap.mem_keys.trans (reported_failed_iff apart canceled))
  have blocked : (p.report canceled).blocked.keys.count id =
      if p.phase? id = some .pending ∨ p.phase? id = some .running then 1 else 0 :=
    count_of_nodup (IdMap.keys_nodup _)
      (IdMap.mem_keys.trans (reported_blocked_iff apart canceled))
  rw [Report.places, succeeded, passed, failed, blocked]
  cases at_id : p.phase? id with
  | none =>
    have unknown : p.knows id = false := by
      rw [← Bool.not_eq_true, knows_iff, at_id]
      rintro ⟨_, none⟩
      cases none
    simp [unknown]
  | some ph =>
    have known : p.knows id = true := knows_iff.2 ⟨ph, at_id⟩
    cases ph with
    | succeeded => cases p.generators.contains id <;> simp [known]
    | passed | failed | pending | running => simp [known]

end Apart

/-! ## What the report tells -/

/-- Every entry holds the errors that were told, and its phase is in step with them. -/
theorem Accounts.entry {told : Identifier → List String} (h : p.Accounts told) {e : Entry}
    (mem : (id, e) ∈ p.entries) : Honest e ∧
      ∃ lines : List Line, e.errors = lines.map Line.text ∧
        lines.filterMap Line.told? = told id ∧
        (p.generators.contains id = false → lines = (told id).map .told) := by
  rcases List.mem_append.1 mem with migration | task
  · obtain ⟨⟨id', g⟩, owner, same⟩ := List.mem_map.1 migration
    cases same
    have found : p.generators.find? id' = some g := Keyed.find?_of_mem p.generators.ascending owner
    obtain ⟨honest, lines, errors, told_eq⟩ := h.migration found
    refine ⟨honest, lines, errors, told_eq, fun none => ?_⟩
    cases none.symm.trans (IdMap.contains_of_find? found)
  · obtain ⟨honest, errors⟩ := h.task (Keyed.find?_of_mem p.children.ascending task)
    refine ⟨honest, (told id).map .told, ?_, Line.told?_told _, fun _ => rfl⟩
    rw [Line.text_told, errors]

/-- A report that loses no error and gives everything its place; `told` is what the bookkeeping was
told of each identifier. -/
structure Truthful (p : Progress) (told : Identifier → List String) : Prop where
  /-- What has ended without errors was told none. -/
  clean : ∀ {id ph}, p.phase? id = some ph → ph.isClean = true → told id = []
  /-- What has failed is listed with all errors that were told, in their order. There is one at
  least. Only a migration has other lines among them, which count its failed tasks. -/
  errors : ∀ {canceled id}, p.phase? id = some .failed →
    ∃ lines : List Line, lines ≠ [] ∧
      (p.report canceled).failed.find? id = some (lines.map Line.text) ∧
      lines.filterMap Line.told? = told id ∧
      (p.generators.contains id = false → lines = (told id).map .told)
  /-- Each identifier that is known has one place in the report, a migration that has succeeded
  none, and so has what is unknown. -/
  places : ∀ canceled id, (p.report canceled).places id =
    if p.knows id = false ∨ p.generators.contains id = true ∧ p.phase? id = some .succeeded
    then 0 else 1
  succeeded : ∀ {canceled id}, id ∈ (p.report canceled).succeeded ↔
    p.phase? id = some .succeeded ∧ p.generators.contains id = false
  passed : ∀ {canceled id}, id ∈ (p.report canceled).passed ↔ p.phase? id = some .passed
  failed : ∀ {canceled id}, (p.report canceled).failed.contains id = true ↔
    p.phase? id = some .failed
  blocked : ∀ {canceled id}, (p.report canceled).blocked.contains id = true ↔
    p.phase? id = some .pending ∨ p.phase? id = some .running
  /-- The outcome speaks of what waits first, then of what has failed. -/
  waiting : (p.report false).outcome = .completedButBlocked ↔ p.isFinished = false
  erring : p.isFinished = true →
    ((p.report false).outcome = .completedWithErrors ↔ ∃ id, p.phase? id = some .failed)
  fine : p.isFinished = true →
    ((p.report false).outcome = .succeeded ↔ ∀ id, p.phase? id ≠ some .failed)
  /-- Cancelling changes the outcome and nothing else. -/
  canceled : p.report true = { p.report false with outcome := .canceled }

theorem Accounts.truthful {told : Identifier → List String} (h : p.Accounts told) :
    p.Truthful told := by
  have waits := p.blocked_size_pos false
  have fails : 0 < (p.report false).failed.size ↔ ∃ id, p.phase? id = some .failed :=
    IdMap.size_pos_iff.trans (exists_congr fun id => reported_failed_iff h.apart false)
  refine ⟨fun at_id is_clean => ?_, fun {canceled id} at_id => ?_, places_eq h.apart,
    reported_succeeded_iff h.apart _, reported_passed_iff h.apart _, reported_failed_iff h.apart _,
    reported_blocked_iff h.apart _, ?_, fun finished => ?_, fun finished => ?_, rfl⟩
  · obtain ⟨e, mem, rfl⟩ := exists_entry at_id
    obtain ⟨honest, lines, errors, told_eq, -⟩ := h.entry mem
    rw [honest.1 is_clean, eq_comm, List.map_eq_nil_iff] at errors
    rw [← told_eq, errors, List.filterMap_nil]
  · have listed := (reported_failed_iff h.apart canceled).2 at_id
    obtain ⟨es, found⟩ := IdMap.find?_of_contains listed
    obtain ⟨⟨id, e⟩, kept, rfl, rfl⟩ :=
      IdMap.find?_ofList _ Prod.fst (fun e : Identifier × Entry => e.2.errors) found
    obtain ⟨mem, phase⟩ := List.mem_filter.1 kept
    obtain ⟨honest, lines, errors, told_eq, of_task⟩ := h.entry mem
    refine ⟨lines, fun none => honest.2 (beq_iff_eq.1 phase) ?_, ?_, told_eq, of_task⟩
    · rw [errors, none, List.map_nil]
    · exact found.trans (congrArg some errors)
  · rw [report_outcome, ← waits]
    by_cases some : 0 < (p.report false).blocked.size
    · simp [outcome, some]
    · by_cases failed : 0 < (p.report false).failed.size <;> simp [outcome, some, failed]
  · have none : ¬0 < (p.report false).blocked.size := fun some => by
      cases finished.symm.trans (waits.1 some)
    rw [report_outcome, ← fails]
    by_cases failed : 0 < (p.report false).failed.size <;> simp [outcome, none, failed]
  · have none : ¬0 < (p.report false).blocked.size := fun some => by
      cases finished.symm.trans (waits.1 some)
    rw [report_outcome, ← not_exists, ← fails]
    by_cases failed : 0 < (p.report false).failed.size <;> simp [outcome, none, failed]

/-- Whatever the bookkeeping is told, as long as no migration is told of as a new task, its report
loses no error and gives everything its place. If moreover no identifier is used both as a migration
and as a task, the errors are all those that came with commands about something known. -/
theorem no_error_lost {ids : List Identifier} (maxIdleRounds : Nat) {cs : List Command}
    (new : ∀ c ∈ cs, ∀ t ∈ c.newTasks, t ∉ ids) :
    ((start ids maxIdleRounds).after cs).Truthful
        (fun id => (start ids maxIdleRounds).told id cs) ∧
      ((∀ c ∈ cs, ∀ t ∈ c.tasks, t ∉ ids ∧ ∀ c' ∈ cs, t ∉ c'.migrations) →
        ∀ id, (start ids maxIdleRounds).told id cs = (start ids maxIdleRounds).said id cs) := by
  have unlisted {t : Identifier} (other : t ∉ ids) :
      (start ids maxIdleRounds).generators.contains t = false := by
    rw [← Bool.not_eq_true, start_contains]
    exact other
  refine ⟨?_, fun kinds id => told_eq_said (fun c mem t task => ?_) (fun t known => ?_) id⟩
  · exact ((Accounts.start ids maxIdleRounds).after fun c mem t fresh =>
      unlisted (new c mem t fresh)).truthful
  · exact ⟨unlisted (kinds c mem t task).1, (kinds c mem t task).2⟩
  · cases known

end Progress

namespace Sample

/-- A migration is closed with a failed task, then fans out again and is closed once more; an error
comes for a migration that is not known. -/
def reopened : List Progress.Command :=
  [.generatorPassed "x" ["unheard"], .generatorRan "a" ["a.1.0", "a.2.1"] ["partial"],
    .childExecuted "a.1.0" ["boom"], .childPassed "a.2.1" [], .finalizeGenerator "a" [],
    .generatorRan "a" ["a.1.0"] [], .childExecuted "a.1.0" [], .finalizeGenerator "a" ["again"],
    .endRound true]

end Sample

namespace Progress

/-- The report of the migration that was closed twice has both of its errors. -/
theorem no_error_of_reopened_lost :
    (∀ c ∈ Sample.reopened, ∀ t ∈ c.newTasks, t ∉ ["a", "b"]) ∧
    (∀ c ∈ Sample.reopened, ∀ t ∈ c.tasks, t ∉ ["a", "b"] ∧
      ∀ c' ∈ Sample.reopened, t ∉ c'.migrations) ∧
    (start ["a", "b"] 1).said "a" Sample.reopened = ["partial", "again"] ∧
    ∃ lines : List Line,
      (((start ["a", "b"] 1).after Sample.reopened).report false).failed.find? "a" =
        some (lines.map Line.text) ∧
      lines.filterMap Line.told? = ["partial", "again"] := by
  have new : ∀ c ∈ Sample.reopened, ∀ t ∈ c.newTasks, t ∉ ["a", "b"] := by decide +kernel
  have kinds : ∀ c ∈ Sample.reopened, ∀ t ∈ c.tasks, t ∉ ["a", "b"] ∧
      ∀ c' ∈ Sample.reopened, t ∉ c'.migrations := by decide +kernel
  have said : (start ["a", "b"] 1).said "a" Sample.reopened = ["partial", "again"] := by
    decide +kernel
  have failed : ((start ["a", "b"] 1).after Sample.reopened).phase? "a" = some .failed := by
    decide +kernel
  obtain ⟨truthful, told_eq⟩ := no_error_lost 1 new
  obtain ⟨lines, -, found, told, -⟩ := truthful.errors failed
  exact ⟨new, kinds, said, lines, found, told.trans ((told_eq kinds "a").trans said)⟩

end Progress

end GatedMigration
