import GatedMigration.Proofs.Invariant
import Mathlib.Logic.Relation

/-!
# Phases only move forward

The bookkeeping of a run changes by a few moves (`Progress.Move`), each of them about something that
is listed as waiting for it. Nothing is assumed of the identifiers here: migrations may share tasks,
a task may be made twice, and it may have the identifier of a migration. What is finished keeps its
phase all the same (`Progress.Forward`), and what is finished has no unfinished task, and no failed
one if it has succeeded (`Progress.Ordered`).

* `Move.generators`, `Move.children`: what a move does to a migration and to a task.
* `Progress.phases_forward`: all of this after any moves, and how a migration ends that is closed.
* `World.moment_moves`: a run makes no other moves.
-/

namespace GatedMigration

open Relation (ReflTransGen)

/-! ## What one map carries over to another -/

/-- Whatever is found in a map is found in another one, and the two values are related. -/
def IdMap.Carries {α : Type} (R : α → α → Prop) (m m' : IdMap α) : Prop :=
  ∀ id v, m.find? id = some v → ∃ v', m'.find? id = some v' ∧ R v v'

namespace IdMap.Carries

variable {α : Type} {R R' : α → α → Prop} {m m' : IdMap α}

theorem refl (self : ∀ v, R v v) (m : IdMap α) : Carries R m m :=
  fun _ v found => ⟨v, found, self v⟩

theorem imp (h : Carries R m m') (weaken : ∀ {v v'}, R v v' → R' v v') : Carries R' m m' := by
  intro id v found
  obtain ⟨v', found', related⟩ := h id v found
  exact ⟨v', found', weaken related⟩

/-- One value is changed. -/
theorem adjust (self : ∀ v, R v v) {id : Identifier} {f : α → α}
    (changed : ∀ v, m.find? id = some v → R v (f v)) : Carries R m (m.adjust id f) := by
  intro id' v found
  by_cases e : id' = id
  · subst e
    refine ⟨f v, ?_, changed v found⟩
    rw [find?_adjust_self, found, Option.map_some]
  · refine ⟨v, ?_, self v⟩
    rw [find?_adjust_of_ne _ e, found]

/-- One value is replaced. -/
theorem insert (self : ∀ v, R v v) {id : Identifier} {v' : α}
    (changed : ∀ v, m.find? id = some v → R v v') : Carries R m (m.insert id v') := by
  intro id' v found
  by_cases e : id' = id
  · subst e
    exact ⟨v', find?_insert_self _ _ _, changed v found⟩
  · refine ⟨v, ?_, self v⟩
    rw [find?_insert_of_ne _ e, found]

end IdMap.Carries

/-- A task keeps its phase unless it is pending. -/
def Entry.Advances (e e' : Entry) : Prop := e'.phase = e.phase ∨ e.phase = .pending

namespace Progress

variable {p q r : Progress} {id : Identifier}

/-! ## What is listed -/

theorem mem_pendingGenerators {g : GeneratorEntry} (h : p.generators.find? id = some g)
    (pending : g.entry.phase = .pending) : id ∈ p.pendingGenerators :=
  List.mem_map.2 ⟨(id, g), List.mem_filter.2 ⟨Keyed.mem_of_find?_eq_some h, beq_iff_eq.2 pending⟩,
    rfl⟩

theorem mem_pendingChildren {e : Entry} (h : p.children.find? id = some e)
    (pending : e.phase = .pending) : id ∈ p.pendingChildren :=
  List.mem_map.2 ⟨(id, e), List.mem_filter.2 ⟨Keyed.mem_of_find?_eq_some h, beq_iff_eq.2 pending⟩,
    rfl⟩

theorem mem_settledGenerators {g : GeneratorEntry} (h : p.generators.find? id = some g)
    (settled : p.isSettled g = true) : id ∈ p.settledGenerators.map Prod.fst := by
  rw [RunState.settledGenerators_fst]
  exact List.mem_map.2 ⟨(id, g), List.mem_filter.2 ⟨Keyed.mem_of_find?_eq_some h, settled⟩, rfl⟩

theorem isDone_iff_entry :
    p.isDone id = true ↔ ∃ e, p.children.find? id = some e ∧ e.phase.isTerminal = true :=
  Option.any_eq_true _ _

theorem isSettled_iff {g : GeneratorEntry} : p.isSettled g = true ↔
    g.entry.phase = .running ∧ ∀ c ∈ g.children, p.isDone c = true := by
  simp only [isSettled, Bool.and_eq_true, beq_iff_eq, List.all_eq_true]

theorem settled_of_listed (listed : id ∈ p.settledGenerators.map Prod.fst) {g : GeneratorEntry}
    (found : p.generators.find? id = some g) : p.isSettled g = true := by
  obtain ⟨⟨_, flag⟩, mem, rfl⟩ := List.mem_map.1 listed
  obtain ⟨g', found', settled, -⟩ := RunState.settledGenerators_flag mem
  cases found.symm.trans found'
  exact settled

theorem hasFailed_of_failedChildren {g : GeneratorEntry} (none : p.failedChildren g = 0)
    {c : Identifier} (mem : c ∈ g.children) : p.hasFailed c = false := by
  rw [failedChildren, List.length_eq_zero_iff, List.filter_eq_nil_iff] at none
  exact eq_false_of_ne_true (none c mem)

/-! ## Moves -/

/-- A change of the bookkeeping, about something that is listed for it. -/
inductive Move (p : Progress) : Progress → Prop where
  | observe (id : Identifier) (state : Readiness) : Move p (p.observe id state)
  | generatorRan {id : Identifier} (listed : id ∈ p.pendingGenerators)
      (tasks : List Identifier) (errors : List String) : Move p (p.generatorRan id tasks errors)
  | generatorPassed {id : Identifier} (listed : id ∈ p.pendingGenerators)
      (errors : List String) : Move p (p.generatorPassed id errors)
  | childExecuted {id : Identifier} (listed : id ∈ p.pendingChildren)
      (errors : List String) : Move p (p.childExecuted id errors)
  | childPassed {id : Identifier} (listed : id ∈ p.pendingChildren)
      (errors : List String) : Move p (p.childPassed id errors)
  | finalizeGenerator {id : Identifier} (listed : id ∈ p.settledGenerators.map Prod.fst)
      (errors : List String) : Move p (p.finalizeGenerator id errors)
  | endRound (progressed : Bool) : Move p (p.endRound progressed)

/-- What a move from `p` can do to a migration. -/
inductive Advances (p : Progress) (g g' : GeneratorEntry) : Prop where
  /-- Its phase and its tasks stay the same. -/
  | stays (phase : g'.entry.phase = g.entry.phase) (tasks : g'.children = g.children)
  /-- It fans out. -/
  | runs (pending : g.entry.phase = .pending) (running : g'.entry.phase = .running)
  /-- It has nothing to do. -/
  | passes (pending : g.entry.phase = .pending)
      (ended : g'.entry.phase = .passed ∨ g'.entry.phase = .failed)
      (tasks : g'.children = g.children)
  /-- It is closed: its tasks are all finished, and if one has failed it does not succeed. -/
  | closes (settled : p.isSettled g = true)
      (ended : g'.entry.phase = .succeeded ∨ g'.entry.phase = .failed)
      (tasks : g'.children = g.children)
      (clean : g'.entry.phase = .succeeded → ∀ c ∈ g.children, p.hasFailed c = false)

theorem Advances.rfl {g : GeneratorEntry} : p.Advances g g := .stays (Eq.refl _) (Eq.refl _)

/-- What comes to its end has failed just if it has an error, old or new. -/
theorem finish_phase_eq (e : Entry) (clean : Phase) (errors : List String) :
    (e.finish clean errors).phase = if e.errors ++ errors = [] then clean else .failed := by
  simp only [Entry.finish, List.isEmpty_iff]

namespace Move

variable (h : Move p q)

include h

/-- A move leaves the migrations the same. -/
theorem contains (id : Identifier) : q.generators.contains id = p.generators.contains id := by
  cases h with
  | observe id' state => exact (observe_stands p id' state).generators id
  | generatorRan listed tasks errors =>
    obtain ⟨g, found, -⟩ := RunState.mem_pendingGenerators listed
    exact (generatorRan_extends found tasks errors).generators id
  | generatorPassed listed errors => exact IdMap.contains_adjust _ _ _ _
  | finalizeGenerator listed errors => exact IdMap.contains_adjust _ _ _ _
  | childExecuted | childPassed | endRound => rfl

/-- What a move does to the migrations. -/
theorem generators : p.generators.Carries p.Advances q.generators := by
  have self (g : GeneratorEntry) : p.Advances g g := .rfl
  cases h with
  | observe id state =>
    unfold Progress.observe
    split
    · exact .adjust self fun g _ => .stays rfl rfl
    · exact .refl self _
  | @generatorRan id listed tasks errors =>
    obtain ⟨g, found, pending⟩ := RunState.mem_pendingGenerators listed
    unfold Progress.generatorRan
    rw [found]
    refine .insert self fun g' found' => ?_
    cases found.symm.trans found'
    exact .runs pending rfl
  | generatorPassed listed errors =>
    obtain ⟨g, found, pending⟩ := RunState.mem_pendingGenerators listed
    refine .adjust self fun g' found' => ?_
    cases found.symm.trans found'
    refine .passes pending ?_ rfl
    rw [finish_phase_eq]
    split
    · exact Or.inl rfl
    · exact Or.inr rfl
  | finalizeGenerator listed errors =>
    refine .adjust self fun g found => ?_
    have settled := settled_of_listed listed found
    refine .closes settled ?_ rfl fun succeeded c mem => ?_
    · rw [finish_phase_eq]
      split
      · exact Or.inl rfl
      · exact Or.inr rfl
    · rw [finish_phase_eq] at succeeded
      split at succeeded
      · rename_i none
        rw [List.append_eq_nil_iff, List.append_eq_nil_iff, failedChildrenErrors_eq_nil] at none
        exact hasFailed_of_failedChildren none.2.1 mem
      · cases succeeded
  | childExecuted | childPassed | endRound => exact .refl self _

/-- What a move does to the tasks: only a pending one gets another phase. -/
theorem children : p.children.Carries Entry.Advances q.children := by
  have self (e : Entry) : e.Advances e := Or.inl rfl
  cases h with
  | observe id state =>
    unfold Progress.observe
    split
    · exact .refl self _
    · exact .adjust self fun e _ => Or.inl rfl
  | generatorRan listed tasks errors =>
    obtain ⟨g, found, -⟩ := RunState.mem_pendingGenerators listed
    intro id e found'
    refine ⟨e, ?_, self e⟩
    rw [Progress.generatorRan, found]
    show (addChildren p.children tasks).find? id = some e
    rw [find?_addChildren, found', Option.some_or]
  | childExecuted listed errors | childPassed listed errors =>
    obtain ⟨e, found, pending⟩ := RunState.mem_pendingChildren listed
    refine .adjust self fun e' found' => ?_
    cases found.symm.trans found'
    exact Or.inr pending
  | generatorPassed | finalizeGenerator | endRound => exact .refl self _

/-- A migration after a move was one before it. -/
theorem before {g' : GeneratorEntry} (found' : q.generators.find? id = some g') :
    ∃ g, p.generators.find? id = some g ∧ p.Advances g g' := by
  have known := (h.contains id).symm.trans (IdMap.contains_of_find? found')
  obtain ⟨g, found⟩ := IdMap.find?_of_contains known
  obtain ⟨g'', found'', advances⟩ := h.generators id g found
  cases found'.symm.trans found''
  exact ⟨g, found, advances⟩

end Move

/-! ## What is finished -/

/-- From `p` to `q` whatever is finished keeps its phase, and a migration its tasks. -/
structure Forward (p q : Progress) : Prop where
  contains : ∀ id, q.generators.contains id = p.generators.contains id
  generators : p.generators.Carries (fun g g' => g.entry.phase.isTerminal = true →
    g'.entry.phase = g.entry.phase ∧ g'.children = g.children) q.generators
  children : p.children.Carries (fun e e' => e.phase.isTerminal = true → e'.phase = e.phase)
    q.children

namespace Forward

theorem refl (p : Progress) : Forward p p :=
  ⟨fun _ => rfl, .refl (fun _ _ => ⟨rfl, rfl⟩) _, .refl (fun _ _ => rfl) _⟩

theorem trans (h : Forward p q) (k : Forward q r) : Forward p r := by
  refine ⟨fun id => (k.contains id).trans (h.contains id), fun id g found => ?_,
    fun id e found => ?_⟩
  · obtain ⟨g', found', same⟩ := h.generators id g found
    obtain ⟨g'', found'', same'⟩ := k.generators id g' found'
    refine ⟨g'', found'', fun finished => ?_⟩
    obtain ⟨phase, tasks⟩ := same finished
    obtain ⟨phase', tasks'⟩ := same' (phase ▸ finished)
    exact ⟨phase'.trans phase, tasks'.trans tasks⟩
  · obtain ⟨e', found', same⟩ := h.children id e found
    obtain ⟨e'', found'', same'⟩ := k.children id e' found'
    refine ⟨e'', found'', fun finished => ?_⟩
    have phase := same finished
    exact (same' (phase ▸ finished)).trans phase

variable (h : Forward p q)

include h

theorem isDone (done : p.isDone id = true) : q.isDone id = true := by
  obtain ⟨e, found, finished⟩ := isDone_iff_entry.1 done
  obtain ⟨e', found', same⟩ := h.children id e found
  refine isDone_iff_entry.2 ⟨e', found', ?_⟩
  rw [same finished]
  exact finished

theorem hasFailed (done : p.isDone id = true) : q.hasFailed id = p.hasFailed id := by
  obtain ⟨e, found, finished⟩ := isDone_iff_entry.1 done
  obtain ⟨e', found', same⟩ := h.children id e found
  unfold Progress.hasFailed
  rw [found, found', Option.any_some, Option.any_some, same finished]

/-- A migration or else a task that is finished keeps its phase. -/
theorem phase? {phase : Phase} (at_id : p.phase? id = some phase)
    (finished : phase.isTerminal = true) : q.phase? id = some phase := by
  unfold Progress.phase? at at_id ⊢
  have migrations := h.contains id
  cases found : p.generators.find? id with
  | some g =>
    rw [found] at at_id
    obtain rfl := Option.some.inj at_id
    obtain ⟨g', found', same⟩ := h.generators id g found
    rw [found']
    exact congrArg some (same finished).1
  | none =>
    rw [IdMap.contains, IdMap.contains, found] at migrations
    rw [found, Option.map_eq_some_iff] at at_id
    obtain ⟨e, found, rfl⟩ := at_id
    obtain ⟨e', found', same⟩ := h.children id e found
    have unknown : q.generators.find? id = none := by simpa using migrations
    rw [unknown]
    dsimp only
    rw [found', Option.map_some, same finished]

end Forward

/-- Whatever is finished before a move keeps its phase. -/
theorem Move.forward (h : Move p q) : Forward p q := by
  refine ⟨h.contains, h.generators.imp fun advances finished => ?_,
    h.children.imp fun advances finished => ?_⟩
  · cases advances with
    | stays phase tasks => exact ⟨phase, tasks⟩
    | runs pending | passes pending =>
      rw [pending] at finished
      cases finished
    | closes settled =>
      rw [(isSettled_iff.1 settled).1] at finished
      cases finished
  · rcases advances with phase | pending
    · exact phase
    · rw [pending] at finished
      cases finished

/-- What is finished has finished tasks, and what has succeeded no failed ones. -/
structure Ordered (p : Progress) : Prop where
  bare : ∀ {id g}, p.generators.find? id = some g → g.entry.phase = .pending → g.children = []
  done : ∀ {id g}, p.generators.find? id = some g → g.entry.phase.isTerminal = true →
    ∀ c ∈ g.children, p.isDone c = true
  clean : ∀ {id g}, p.generators.find? id = some g → g.entry.phase = .succeeded →
    ∀ c ∈ g.children, p.hasFailed c = false

theorem start_ordered (ids : List Identifier) (maxIdleRounds : Nat) :
    (start ids maxIdleRounds).Ordered := by
  have blank {id : Identifier} {g : GeneratorEntry}
      (found : (start ids maxIdleRounds).generators.find? id = some g) : g = {} := by
    obtain ⟨_, _, _, rfl⟩ :=
      IdMap.find?_ofList ids (fun id => id) (fun _ => ({} : GeneratorEntry)) found
    rfl
  constructor
  · intro id g found _
    rw [blank found]
  · intro id g found _ c mem
    rw [blank found] at mem
    cases mem
  · intro id g found _ c mem
    rw [blank found] at mem
    cases mem

theorem Move.ordered (h : Move p q) (ok : p.Ordered) : q.Ordered := by
  constructor
  · intro id g' found' pending
    obtain ⟨g, found, advances⟩ := h.before found'
    cases advances with
    | stays phase tasks => rw [tasks, ok.bare found (phase.symm.trans pending)]
    | runs _ running => cases running.symm.trans pending
    | passes before _ tasks => rw [tasks, ok.bare found before]
    | closes _ ended =>
      rcases ended with ended | ended
      · cases ended.symm.trans pending
      · cases ended.symm.trans pending
  · intro id g' found' finished c mem
    obtain ⟨g, found, advances⟩ := h.before found'
    refine h.forward.isDone ?_
    cases advances with
    | stays phase tasks =>
      rw [phase] at finished
      exact ok.done found finished c (tasks ▸ mem)
    | runs _ running =>
      rw [running] at finished
      cases finished
    | passes pending _ tasks =>
      rw [tasks, ok.bare found pending] at mem
      cases mem
    | closes settled _ tasks => exact (isSettled_iff.1 settled).2 c (tasks ▸ mem)
  · intro id g' found' succeeded c mem
    obtain ⟨g, found, advances⟩ := h.before found'
    cases advances with
    | stays phase tasks =>
      have before : g.entry.phase = .succeeded := phase.symm.trans succeeded
      have done := ok.done found (before ▸ rfl) c (tasks ▸ mem)
      rw [h.forward.hasFailed done]
      exact ok.clean found before c (tasks ▸ mem)
    | runs _ running => cases running.symm.trans succeeded
    | passes _ ended =>
      rcases ended with ended | ended
      · cases ended.symm.trans succeeded
      · cases ended.symm.trans succeeded
    | closes settled _ tasks clean =>
      have done := (isSettled_iff.1 settled).2 c (tasks ▸ mem)
      rw [h.forward.hasFailed done]
      exact clean succeeded c (tasks ▸ mem)

/-! ## Any moves -/

theorem forward_of_moves (moves : ReflTransGen Move p q) : Forward p q := by
  induction moves with
  | refl => exact .refl p
  | tail _ move ih => exact ih.trans move.forward

theorem ordered_of_moves (moves : ReflTransGen Move p q) (ok : p.Ordered) : q.Ordered := by
  induction moves with
  | refl => exact ok
  | tail _ move ih => exact move.ordered ih

/-- A migration that is closed has failed just if it was listed as one in which something went
wrong, or if its own record could not be saved. -/
theorem finalizeGenerator_phase {flag : Bool} (listed : (id, flag) ∈ p.settledGenerators)
    (errors : List String) : ∃ g, (p.finalizeGenerator id errors).generators.find? id = some g ∧
      g.entry.phase = if flag = true ∨ errors ≠ [] then .failed else .succeeded := by
  obtain ⟨g, found, -, rfl⟩ := RunState.settledGenerators_flag listed
  dsimp only at found
  refine ⟨_, (IdMap.find?_adjust_self _ _ _).trans (by rw [found, Option.map_some]), ?_⟩
  dsimp only
  rw [finish_phase_eq]
  generalize flag : (!g.entry.errors.isEmpty || decide (0 < p.failedChildren g)) = wrong
  have clean : g.entry.errors ++ (failedChildrenErrors (p.failedChildren g) ++ errors) = [] ↔
      ¬(wrong = true ∨ errors ≠ []) := by
    rw [← flag, List.append_eq_nil_iff, List.append_eq_nil_iff, failedChildrenErrors_eq_nil]
    simp [and_assoc]
  by_cases wrong : wrong = true ∨ errors ≠ []
  · rw [if_pos wrong, if_neg fun none => clean.1 none wrong]
  · rw [if_neg wrong, if_pos (clean.2 wrong)]

/-- After any moves from the start, whatever is finished keeps its phase through all further moves;
the tasks of a migration that is finished are finished, and none of them has failed if the migration
has succeeded. A migration that is listed as settled is closed as failed just if it is listed with
an error or gets one. -/
theorem phases_forward {ids : List Identifier} {maxIdleRounds : Nat}
    (moves : ReflTransGen Move (start ids maxIdleRounds) p) :
    (∀ q, ReflTransGen Move p q →
      (∀ id g, p.generators.find? id = some g → g.entry.phase.isTerminal = true →
        ∃ g', q.generators.find? id = some g' ∧ g'.entry.phase = g.entry.phase) ∧
      (∀ id e, p.children.find? id = some e → e.phase.isTerminal = true →
        ∃ e', q.children.find? id = some e' ∧ e'.phase = e.phase) ∧
      ∀ id phase, p.phase? id = some phase → phase.isTerminal = true →
        q.phase? id = some phase) ∧
    (∀ id g, p.generators.find? id = some g → g.entry.phase.isTerminal = true →
      ∀ c ∈ g.children, ∃ e, p.children.find? c = some e ∧ e.phase.isTerminal = true) ∧
    (∀ id g, p.generators.find? id = some g → g.entry.phase = .succeeded →
      ∀ c ∈ g.children, ∀ e, p.children.find? c = some e → e.phase ≠ .failed) ∧
    ∀ id flag errors, (id, flag) ∈ p.settledGenerators →
      ∃ g, (p.finalizeGenerator id errors).generators.find? id = some g ∧
        g.entry.phase = if flag = true ∨ errors ≠ [] then .failed else .succeeded := by
  have ordered := ordered_of_moves moves (start_ordered ids maxIdleRounds)
  refine ⟨fun q more => ?_, fun id g found finished c mem => ?_,
    fun id g found succeeded c mem e at_c failed => ?_,
    fun id flag errors listed => finalizeGenerator_phase listed errors⟩
  · have forward := forward_of_moves more
    refine ⟨fun id g found finished => ?_, fun id e found finished => ?_,
      fun id phase at_id finished => forward.phase? at_id finished⟩
    · obtain ⟨g', found', same⟩ := forward.generators id g found
      exact ⟨g', found', (same finished).1⟩
    · obtain ⟨e', found', same⟩ := forward.children id e found
      exact ⟨e', found', same finished⟩
  · exact isDone_iff_entry.1 (ordered.done found finished c mem)
  · have unfailed := ordered.clean found succeeded c mem
    rw [hasFailed, at_c, Option.any_some, failed] at unfailed
    cases unfailed

end Progress

namespace Sample

/-- Two migrations have one task in common, the first one twice, and the task has failed. -/
def shared : Progress :=
  (((Progress.start ["a", "b"] 1).generatorRan "a" ["a.1.0", "a.1.0"] []).generatorRan "b"
    ["a.1.0"] []).childExecuted "a.1.0" ["no such field"]

end Sample

namespace Progress

/-- A task that has failed stays failed for both of its migrations, which are closed as failed. -/
theorem shared_forward :
    ReflTransGen Move (start ["a", "b"] 1) Sample.shared ∧
    (∀ q, ReflTransGen Move Sample.shared q → q.phase? "a.1.0" = some .failed) ∧
    ("b", true) ∈ Sample.shared.settledGenerators ∧
    ∃ g, (Sample.shared.finalizeGenerator "b" []).generators.find? "b" = some g ∧
      g.entry.phase = .failed := by
  have moves : ReflTransGen Move (start ["a", "b"] 1) Sample.shared :=
    (((ReflTransGen.refl.tail (.generatorRan (by decide +kernel) _ _)).tail
      (.generatorRan (by decide +kernel) _ _)).tail (.childExecuted (by decide +kernel) _))
  obtain ⟨forward, -, -, closed⟩ := phases_forward moves
  have failed : Sample.shared.phase? "a.1.0" = some .failed := by decide +kernel
  have listed : ("b", true) ∈ Sample.shared.settledGenerators := by decide +kernel
  exact ⟨moves, fun q more => (forward q more).2.2 _ _ failed rfl, listed,
    closed "b" true [] listed⟩

end Progress

/-! ## The moves of a run -/

namespace RunState

open Progress (Move)

variable {s : RunState} {id : Identifier}

theorem advance_moves (env : Environment) {g : GeneratorEntry}
    (found : s.progress.generators.find? id = some g) (pending : g.entry.phase = .pending) :
    ReflTransGen Move s.progress (s.advance env id).1.progress := by
  have listed := Progress.mem_pendingGenerators found pending
  unfold advance
  split
  · exact .refl
  split
  · exact .refl
  · split
    · exact .refl
    · exact .single (.generatorRan listed _ _)
  · split
    · exact .refl
    · exact .single (.generatorPassed listed _)
  · exact .single (.observe _ _)

theorem record_moves {e : Entry} (found : s.progress.children.find? id = some e)
    (pending : e.phase = .pending) (verdict : Verdict) :
    ReflTransGen Move s.progress (record s.progress id verdict).1 := by
  have listed := Progress.mem_pendingChildren found pending
  cases verdict with
  | executed more => exact .single (.childExecuted listed more)
  | passed more => exact .single (.childPassed listed more)
  | waiting state => exact .single (.observe id state)
  | canceled | lost => exact .refl

theorem work_moves {env : Environment} {workers : Nat} {flights : List Flight}
    {r : RunState × List Flight × Step} (expected : s.Expects flights)
    (works : Works env workers flights s r) :
    ReflTransGen Move s.progress r.1.progress := by
  cases works with
  | goesOn => exact .refl
  | ends before f behind world verdict among =>
    obtain ⟨e, found, pending⟩ :=
      expected.pending f (among ▸ List.mem_append_cons_self)
    exact record_moves found pending verdict

theorem close_moves (env : Environment) {g : GeneratorEntry}
    (found : s.progress.generators.find? id = some g) (settled : s.progress.isSettled g = true)
    (hasErrors : Bool) : ReflTransGen Move s.progress (s.close env id hasErrors).1.progress := by
  unfold close
  split
  · exact .refl
  · exact .single (.finalizeGenerator (Progress.mem_settledGenerators found settled) _)

theorem conclude_moves (pollInterval : Nat) (progressed : Bool) (s : RunState) :
    ReflTransGen Move s.progress (s.conclude pollInterval progressed).1.progress := by
  obtain ⟨w, counted, -⟩ := s.conclude_fst pollInterval progressed
  rw [counted]
  exact .single (.endRound progressed)

end RunState

namespace Moment

/-- The state after a step of a run. -/
theorem next_state (env : Environment) (options : RunOptions) (m : Moment) :
    (m.next env options).state =
      match m.stage with
      | .opening => m.state.yield
      | .asking (id :: _) _ => (m.state.advance env id).1
      | .working (f :: fs) _ _ => (m.state.work env options.workers (f :: fs)).1
      | .closing [] progressed => (m.state.conclude options.pollInterval progressed).1
      | .closing ((id, hasErrors) :: _) _ => (m.state.close env id hasErrors).1
      | .asking [] _ | .working [] _ _ | .over _ => m.state := by
  obtain ⟨stage, s⟩ := m
  match stage with
  | .opening =>
    rw [next]
    split <;> rfl
  | .asking [] _ | .working (_ :: _) _ _ | .over _ => rfl
  | .asking (id :: _) _ =>
    rw [next]
    dsimp only
    obtain ⟨s', _ | _ | _⟩ := s.advance env id <;> rfl
  | .working [] _ _ =>
    rw [next]
    split <;> rfl
  | .closing [] progressed =>
    rw [next]
    dsimp only
    obtain ⟨s', _ | _⟩ := s.conclude options.pollInterval progressed <;> rfl
  | .closing ((id, hasErrors) :: _) _ =>
    rw [next]
    dsimp only
    obtain ⟨s', _ | _ | _⟩ := s.close env id hasErrors <;> rfl

/-- A step of a run changes the bookkeeping by a move, if at all. -/
theorem next_moves {m : Moment} (env : Environment) (options : RunOptions)
    (todo : m.stage.Sound m.state) :
    ReflTransGen Progress.Move m.state.progress (m.next env options).state.progress := by
  rw [next_state]
  obtain ⟨stage, s⟩ := m
  match stage, todo with
  | .opening, _ | .asking [] _, _ | .working [] _ _, _ | .over _, _ => exact .refl
  | .asking (id :: _) _, ⟨_, todo⟩ =>
    obtain ⟨g, found, pending⟩ := todo id List.mem_cons_self
    exact RunState.advance_moves env found pending
  | .working (f :: fs) _ _, expected =>
    exact RunState.work_moves expected
      (RunState.work_cases env options.workers (List.cons_ne_nil f fs) s)
  | .closing [] progressed, _ => exact s.conclude_moves options.pollInterval progressed
  | .closing ((id, hasErrors) :: _) _, ⟨_, todo⟩ =>
    obtain ⟨g, found, settled, -⟩ := todo (id, hasErrors) List.mem_cons_self
    exact RunState.close_moves env found settled hasErrors

end Moment

namespace World

variable {env : Environment} {options : RunOptions} {generators : List Generator}

/-- From one moment of a run to a later one the bookkeeping changes by moves. -/
theorem moment_moves (w : World) {n k : Nat} (later : n ≤ k) :
    ReflTransGen Progress.Move (w.moment env options generators n).state.progress
      (w.moment env options generators k).state.progress := by
  induction later with
  | refl => exact .refl
  | @step k _ ih => exact ih.trans (Moment.next_moves env options (w.moment_stage options k))

/-- What is finished at a moment keeps its phase for the rest of the run. -/
theorem moment_forward (w : World) {n k : Nat} (later : n ≤ k) :
    Progress.Forward (w.moment env options generators n).state.progress
      (w.moment env options generators k).state.progress :=
  Progress.forward_of_moves (w.moment_moves later)

end World

end GatedMigration
