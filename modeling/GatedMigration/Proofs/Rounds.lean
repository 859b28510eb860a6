import GatedMigration.Proofs.Budget
import Mathlib.Data.List.TakeWhile
import Mathlib.Data.Nat.Count

/-!
# How many rounds a run makes

A run stops after the first round that leaves everything finished, or once as many rounds in a row
as it bears have brought nothing (`Round.Stops`), and never earlier unless it is cancelled. As there
is progress only so often (`Progress.Spends`), and at most so many rounds without progress come
between two rounds with progress (`Round.length_le`), there is a bound on the rounds.

* `Moment.Tally.next`: what the rounds so far say of a moment, from one moment to the next.
* `World.ends_when_it_should`: how a run ends, and after how many rounds.
-/

namespace GatedMigration

/-- A round that has come to its end. -/
structure Round where
  /-- There was progress in it. -/
  progressed : Bool
  /-- Everything is finished after it. -/
  finished : Bool

namespace Round

/-- The latest rounds, so many of them, have brought nothing; the latest one comes first. -/
def Fruitless (times : Nat) (rs : List Round) : Prop :=
  times ≤ rs.length ∧ ∀ r ∈ rs.take times, r.progressed = false

/-- Everything is finished after the latest round, or too many rounds in a row have brought
nothing. -/
def Stops (borne : Nat) (rs : List Round) : Prop :=
  (∃ r, rs.head? = some r ∧ r.finished = true) ∨ Fruitless borne rs

/-- How many of the latest rounds have brought nothing. -/
def idle (rs : List Round) : Nat := (rs.takeWhile fun r => !r.progressed).length

variable {rs : List Round} {r : Round} {times : Nat}

theorem idle_cons (r : Round) (rs : List Round) :
    idle (r :: rs) = if r.progressed then 0 else idle rs + 1 := by
  unfold idle
  rw [List.takeWhile_cons]
  cases r.progressed <;> rfl

theorem fruitless_iff : Fruitless times rs ↔ times ≤ idle rs := by
  induction rs generalizing times with
  | nil => exact ⟨fun h => h.1, fun h => ⟨h, fun r mem => by simp at mem⟩⟩
  | cons r rs ih =>
    cases times with
    | zero => exact ⟨fun _ => Nat.zero_le _, fun _ => ⟨Nat.zero_le _, fun r mem => by cases mem⟩⟩
    | succ times =>
      have rest : Fruitless times rs ↔ times ≤ idle rs := ih
      unfold Fruitless at rest ⊢
      rw [idle_cons, List.take_succ_cons, List.forall_mem_cons, List.length_cons,
        Nat.add_le_add_iff_right]
      cases r.progressed with
      | true => simp
      | false => simpa using rest

theorem stops_cons {borne : Nat} :
    Stops borne (r :: rs) ↔ r.finished = true ∨ borne ≤ idle (r :: rs) := by
  unfold Stops
  rw [fruitless_iff]
  simp

/-- Between two rounds with progress come fewer rounds without progress than end a run. -/
theorem length_le {borne : Nat} (going : ∀ rs', rs' <:+ rs → ¬Stops borne rs') :
    rs.length + 1 ≤ (rs.countP Round.progressed + 1) * borne := by
  have few {rs' : List Round} (later : rs' <:+ rs) : idle rs' < borne :=
    Nat.lt_of_not_le fun long => going rs' later (Or.inr (fruitless_iff.2 long))
  have spread (rs' : List Round) (later : rs' <:+ rs) :
      rs'.length ≤ rs'.countP Round.progressed * borne + idle rs' := by
    induction rs' with
    | nil => exact Nat.zero_le _
    | cons r rs' ih =>
      have before := (List.suffix_cons r rs').trans later
      have bound := ih before
      have pause := few before
      rw [List.length_cons, List.countP_cons, idle_cons]
      cases r.progressed with
      | true => simp only [if_true, Nat.add_mul]; omega
      | false => simp; omega
  have bound := spread rs List.suffix_rfl
  have pause := few List.suffix_rfl
  rw [Nat.add_mul]
  omega

end Round

/-- A round after which everything is finished, or none may follow, ends the run without its being
cancelled; no other round does. -/
theorem RunState.conclude_over (pollInterval : Nat) (progressed : Bool) (s : RunState) :
    (s.conclude pollInterval progressed).2 = some false ↔
      s.progress.isFinished = true ∨ (s.progress.endRound progressed).mayGoOn = false := by
  unfold conclude
  dsimp only
  split
  · rename_i finished
    simp [finished]
  rename_i unfinished
  split
  · rename_i worn
    exact ⟨fun _ => Or.inr worn, fun _ => rfl⟩
  rename_i patient
  have going : ¬(s.progress.isFinished = true ∨ (s.progress.endRound progressed).mayGoOn = false) :=
    not_or.2 ⟨unfinished, patient⟩
  split
  · simp [going]
  · split <;> simp [going]

/-! ## The rounds at a moment -/

/-- Whether there was progress so far in a round. -/
def Stage.progressed : Stage → Bool
  | .opening | .over _ => false
  | .asking _ progressed | .working _ progressed _ | .closing _ progressed => progressed

/-- How many rounds begin with the next step. -/
def Stage.opens : Stage → Nat
  | .opening => 1
  | _ => 0

/-- How many rounds have begun at most without having ended: a round may have been cancelled, but if
the run is over without that none is left. -/
def Stage.begun : Stage → Nat
  | .opening | .over false => 0
  | .asking _ _ | .working _ _ _ | .closing _ _ | .over true => 1

namespace Moment

/-- The round that ends with the next step, if one does. -/
def round? : Moment → Option Round
  | ⟨.closing [] progressed, s⟩ => some ⟨progressed, s.progress.isFinished⟩
  | _ => none

open Progress (Spends)

variable {m : Moment}

/-- A question leaves the round with the progress so far and its own. -/
theorem toNat_or_le (progressed moved : Bool) :
    (progressed || moved).toNat ≤ progressed.toNat + moved.toNat := by
  cases progressed <;> cases moved <;> decide

/-- A step within a round, or into one, uses up as much room as it makes progress. -/
theorem next_spends (env : Environment) (options : RunOptions)
    (todo : m.stage.Sound m.state) (within : m.round? = none) :
    ∃ times, Spends m.state.progress (m.next env options).state.progress times ∧
      (m.next env options).stage.progressed.toNat ≤ m.stage.progressed.toNat + times := by
  obtain ⟨stage, s⟩ := m
  match stage, todo with
  | .opening, _ =>
    rw [next]
    split <;> exact ⟨0, .rfl, Nat.le_refl _⟩
  | .over canceled, _ | .asking [] progressed, _ => exact ⟨0, .rfl, Nat.le_refl _⟩
  | .asking (id :: ids) progressed, ⟨_, todo⟩ =>
    obtain ⟨g, found, pending⟩ := todo id List.mem_cons_self
    have spends := RunState.advance_spends env found pending
    rw [next]
    generalize s.advance env id = r at *
    obtain ⟨s', _ | _ | _⟩ := r
    · exact ⟨_, spends, toNat_or_le _ _⟩
    · exact ⟨_, spends, toNat_or_le _ _⟩
    · exact ⟨_, spends, Nat.zero_le _⟩
  | .working [] progressed canceled, _ =>
    rw [next]
    split
    · exact ⟨0, .rfl, Nat.zero_le _⟩
    · exact ⟨0, .rfl, Nat.le_refl _⟩
  | .working (f :: fs) progressed canceled, expected =>
    exact ⟨_, RunState.work_spends expected
      (RunState.work_cases env options.workers (List.cons_ne_nil f fs) s), toNat_or_le _ _⟩
  | .closing [] progressed, _ => cases within
  | .closing ((id, hasErrors) :: settled) progressed, ⟨_, todo⟩ =>
    obtain ⟨g, found, is_settled, -⟩ := todo (id, hasErrors) List.mem_cons_self
    have running : g.entry.phase = .running := by
      simp only [Progress.isSettled, Bool.and_eq_true, beq_iff_eq] at is_settled
      exact is_settled.1
    have spends := RunState.close_spends env hasErrors found running
    rw [next]
    generalize s.close env id hasErrors = r at *
    obtain ⟨s', _ | _ | _⟩ := r
    · exact ⟨_, spends, toNat_or_le _ _⟩
    · exact ⟨_, spends, toNat_or_le _ _⟩
    · exact ⟨_, spends, Nat.zero_le _⟩

/-- A step that does not end a round begins one, or it leaves as many as have begun; it does not end
the run unless the run is cancelled. -/
theorem next_begun (env : Environment) (options : RunOptions) (within : m.round? = none) :
    m.stage.opens + m.stage.begun ≤ (m.next env options).stage.begun ∧
      ((m.next env options).stage = .over false ↔ m.stage = .over false) := by
  obtain ⟨stage, s⟩ := m
  match stage with
  | .opening =>
    rw [next]
    split <;> simp [Stage.opens, Stage.begun]
  | .over canceled | .asking [] progressed | .working (f :: fs) progressed canceled =>
    simp [next, Stage.opens, Stage.begun]
  | .asking (id :: ids) progressed | .closing ((id, hasErrors) :: settled) progressed =>
    rw [next]
    split <;> simp [Stage.opens, Stage.begun]
  | .working [] progressed canceled =>
    rw [next]
    split <;> simp [Stage.opens, Stage.begun]
  | .closing [] progressed => cases within

theorem round?_eq_some {r : Round} (h : m.round? = some r) :
    m.stage = .closing [] r.progressed ∧ r.finished = m.state.progress.isFinished := by
  unfold round? at h
  split at h
  · cases h
    exact ⟨rfl, rfl⟩
  · cases h

/-- The step that ends a round counts it, and it ends the run if everything is finished or no other
round may follow. -/
theorem next_of_round {r : Round} (env : Environment) (options : RunOptions)
    (h : m.round? = some r) :
    (m.next env options).state.progress = m.state.progress.endRound r.progressed ∧
    (m.next env options).stage.progressed = false ∧
    ((m.next env options).stage = .over false ↔
      r.finished = true ∨ (m.state.progress.endRound r.progressed).mayGoOn = false) := by
  obtain ⟨stage, finished⟩ := round?_eq_some h
  obtain ⟨_, s⟩ := m
  obtain rfl := stage
  obtain ⟨w, counted, -⟩ := s.conclude_fst options.pollInterval r.progressed
  have halts := s.conclude_over options.pollInterval r.progressed
  rw [finished, next]
  generalize s.conclude options.pollInterval r.progressed = c at *
  obtain ⟨s', _ | canceled⟩ := c
  · cases counted
    exact ⟨rfl, rfl, by simpa using halts⟩
  · cases counted
    exact ⟨rfl, rfl, by simpa using halts⟩

/-- What the rounds so far, of which so many have begun, say of a moment. -/
structure Tally (generators borne : Nat) (rs : List Round) (begun : Nat) (m : Moment) : Prop where
  todo : m.stage.Sound m.state
  /-- There was progress in no more rounds than there was room for. -/
  paid : rs.countP Round.progressed + m.stage.progressed.toNat + m.state.progress.room ≤
    2 * generators + m.state.progress.children.size
  rounds : m.state.progress.rounds = rs.length
  idle : m.state.progress.idleRounds = Round.idle rs
  bears : m.state.progress.maxIdleRounds = borne
  begun : begun ≤ rs.length + m.stage.begun
  /-- The run had no reason to stop before. -/
  going : m.stage ≠ .over false → ∀ rs', rs' <:+ rs → ¬Round.Stops borne rs'
  stopped : m.stage = .over false → ∃ r rest, rs = r :: rest ∧ Round.Stops borne rs ∧
    r.finished = m.state.progress.isFinished ∧ ∀ rs', rs' <:+ rest → ¬Round.Stops borne rs'

namespace Tally

variable {generators borne begun : Nat} {rs : List Round}

/-- The tally is kept by a step that does not end a round. -/
theorem next_within (env : Environment) (options : RunOptions)
    (h : m.Tally generators borne rs begun) (within : m.round? = none) :
    (m.next env options).Tally generators borne rs (begun + m.stage.opens) := by
  obtain ⟨times, spends, moved⟩ := next_spends env options h.todo within
  obtain ⟨opens, halts⟩ := next_begun env options within
  refine ⟨m.next_stage env options h.todo, ?_, spends.rounds.trans h.rounds,
    spends.idleRounds.trans h.idle, spends.maxIdleRounds.trans h.bears, ?_,
    fun going => h.going (mt halts.2 going), fun stopped => ?_⟩
  · have paid := h.paid
    have used := spends.room
    omega
  · have begun := h.begun
    omega
  · -- Nothing follows the end of a run.
    have ended := halts.1 stopped
    have same : m.next env options = m := by
      obtain ⟨_, s⟩ := m
      obtain rfl := ended
      rfl
    rw [same]
    exact h.stopped ended

/-- The tally is kept by the step that ends a round. -/
theorem next_ends {r : Round} (env : Environment) (options : RunOptions)
    (h : m.Tally generators borne rs begun) (ends : m.round? = some r) :
    (m.next env options).Tally generators borne (r :: rs) begun := by
  obtain ⟨counted, fresh, halts⟩ := next_of_round env options ends
  obtain ⟨stage, finished⟩ := round?_eq_some ends
  have before := h.going (stage ▸ Stage.noConfusion)
  have idle : (m.state.progress.endRound r.progressed).idleRounds = Round.idle (r :: rs) := by
    rw [Round.idle_cons, ← h.idle]
    rfl
  have stops : Round.Stops borne (r :: rs) ↔
      r.finished = true ∨ (m.state.progress.endRound r.progressed).mayGoOn = false := by
    rw [Round.stops_cons, Progress.mayGoOn, decide_eq_false_iff_not, Nat.not_lt, idle, ← h.bears]
    rfl
  refine ⟨m.next_stage env options h.todo, ?_, ?_, ?_, ?_, ?_, fun going rs' later => ?_,
    fun stopped => ?_⟩
  · have paid := h.paid
    rw [stage] at paid
    rw [fresh, counted, List.countP_cons]
    have same : (m.state.progress.endRound r.progressed).room = m.state.progress.room := rfl
    have size : (m.state.progress.endRound r.progressed).children = m.state.progress.children := rfl
    rw [same, size]
    have flag : (Stage.closing [] r.progressed).progressed.toNat =
        if r.progressed = true then 1 else 0 := by
      cases r.progressed <;> rfl
    rw [flag] at paid
    simp only [Bool.toNat_false]
    omega
  · rw [counted, List.length_cons, ← h.rounds]
    rfl
  · rw [counted, idle]
  · rw [counted, ← h.bears]
    rfl
  · have begun := h.begun
    rw [stage] at begun
    rw [List.length_cons]
    exact Nat.le_trans begun (Nat.le_add_right _ _)
  · rcases List.suffix_cons_iff.1 later with rfl | later
    · exact mt stops.1 (mt halts.2 going)
    · exact before rs' later
  · refine ⟨r, rs, rfl, stops.2 (halts.1 stopped), finished.trans ?_, before⟩
    rw [counted]
    rfl

theorem next (env : Environment) (options : RunOptions) (h : m.Tally generators borne rs begun) :
    (m.next env options).Tally generators borne (m.round?.toList ++ rs)
      (begun + m.stage.opens) := by
  cases ends : m.round? with
  | none => exact h.next_within env options ends
  | some r =>
    have none : m.stage.opens = 0 := by
      rw [(round?_eq_some ends).1]
      rfl
    rw [none]
    exact h.next_ends env options ends

end Tally

end Moment

/-! ## The outcome -/

namespace Progress

variable {p : Progress}

theorem isFinished_eq_all (p : Progress) :
    p.isFinished = p.entries.all fun e => e.2.phase.isTerminal := by
  rw [isFinished, entries, IdMap.values, IdMap.values, List.all_append, List.all_map, List.all_map,
    List.all_map]
  rfl

/-- What is not finished is what a report lists as waiting. -/
theorem blocked_size_pos (p : Progress) (canceled : Bool) :
    0 < (p.report canceled).blocked.size ↔ p.isFinished = false := by
  have listed : (p.report canceled).blocked =
      IdMap.ofList ((p.entries.filter fun e => !e.2.phase.isTerminal).map
        fun e => (e.1, e.2.lastState)) := rfl
  rw [listed, isFinished_eq_all]
  constructor
  · intro some
    by_contra all
    rw [Bool.not_eq_false, List.all_eq_true] at all
    have none : (p.entries.filter fun e => !e.2.phase.isTerminal) = [] :=
      List.filter_eq_nil_iff.2 fun e mem waits => by simp [all e mem] at waits
    rw [none] at some
    exact Nat.lt_irrefl _ some
  · intro unfinished
    obtain ⟨e, mem, waits⟩ := List.all_eq_false.1 unfinished
    have waiting : e ∈ p.entries.filter fun e => !e.2.phase.isTerminal :=
      List.mem_filter.2 ⟨mem, by simpa using waits⟩
    have known := (IdMap.contains_ofList _ Prod.fst (fun e => e.2.lastState) e.1).2
      (List.mem_map_of_mem waiting)
    obtain ⟨state, found⟩ := IdMap.find?_of_contains known
    exact List.length_pos_of_mem (Keyed.mem_of_find?_eq_some found)

/-- The outcome of a report tells whether it lists something as waiting or failed. -/
theorem report_outcome (p : Progress) (canceled : Bool) : (p.report canceled).outcome =
    outcome canceled (decide (0 < (p.report canceled).blocked.size))
      (decide (0 < (p.report canceled).failed.size)) := Eq.refl _

theorem outcome_of_finished (h : p.isFinished = true) :
    (p.report false).outcome = .succeeded ∨ (p.report false).outcome = .completedWithErrors := by
  have none : ¬0 < (p.report false).blocked.size := by
    rw [blocked_size_pos, h]
    exact Bool.noConfusion
  rw [report_outcome, decide_eq_false none]
  cases decide (0 < (p.report false).failed.size) with
  | true => exact Or.inr (Eq.refl _)
  | false => exact Or.inl (Eq.refl _)

theorem outcome_of_unfinished (h : p.isFinished = false) :
    (p.report false).outcome = .completedButBlocked := by
  rw [report_outcome, decide_eq_true ((p.blocked_size_pos false).2 h)]
  exact Eq.refl _

end Progress

/-! ## The rounds of a run -/

namespace World

variable {w w₀ : World} {env : Environment} {options : RunOptions} {generators : List Generator}

/-- The rounds of a run that have ended before a moment, the latest first. -/
def ended (w : World) (env : Environment) (options : RunOptions) (generators : List Generator) :
    Nat → List Round
  | 0 => []
  | n + 1 => (w.moment env options generators n).round?.toList ++ ended w env options generators n

/-- How many rounds of a run have begun before a moment. -/
def begun (w : World) (env : Environment) (options : RunOptions) (generators : List Generator)
    (n : Nat) : Nat :=
  Nat.count (fun k => (w.moment env options generators k).stage = .opening) n

theorem moment_tally (w : World) (env : Environment) (options : RunOptions)
    (generators : List Generator) (n : Nat) :
    (w.moment env options generators n).Tally generators.length (max options.maxIdleRounds 1)
      (w.ended env options generators n) (w.begun env options generators n) := by
  induction n with
  | zero =>
    refine ⟨trivial, ?_, rfl, rfl, rfl, Nat.le_refl _, fun _ rs' later => ?_, Stage.noConfusion⟩
    · have room := Progress.room_start_le (generators.map Generator.id) options.maxIdleRounds
      rw [List.length_map] at room
      exact Nat.le_trans (Nat.le_of_eq (Nat.zero_add _)) (Nat.le_trans room (Nat.le_add_right _ _))
    · obtain rfl := List.suffix_nil.1 later
      rintro (⟨r, none, -⟩ | worn)
      · cases none
      · exact absurd worn.1 (by simp)
  | succ n ih =>
    have opens : w.begun env options generators (n + 1) =
        w.begun env options generators n + (w.moment env options generators n).stage.opens := by
      rw [begun, Nat.count_succ]
      refine congrArg _ ?_
      cases (w.moment env options generators n).stage <;> rfl
    rw [opens]
    exact ih.next env options

/-- Every run ends, with a report, and after at most so many rounds: if `borne` rounds in a row may
bring nothing, `borne` for each round with progress, of which there are two for each migration and
one for each task at most, and `borne` more. A run that is not cancelled stops after the first round
that leaves everything finished, or as soon as the latest `borne` rounds have brought nothing; until
then there was no reason to stop, and neither was there one if the run is cancelled. -/
theorem ends_when_it_should (prepared : w.prepare env options generators = (w₀, .ok ())) :
    ∃ n canceled s, w₀.moment env options generators n = ⟨.over canceled, s⟩ ∧
      w.run env options generators = (s.world, .ok (s.progress.report canceled)) ∧
      w₀.begun env options generators n ≤
        (2 * generators.length + s.progress.children.size + 1) * max options.maxIdleRounds 1 ∧
      (canceled = true → ∀ rs, rs <:+ w₀.ended env options generators n →
        ¬Round.Stops (max options.maxIdleRounds 1) rs) ∧
      (canceled = false → ∃ r rest, w₀.ended env options generators n = r :: rest ∧
        (∀ rs, rs <:+ rest → ¬Round.Stops (max options.maxIdleRounds 1) rs) ∧
        (r.finished = true ∧ s.progress.isFinished = true ∧
            ((s.progress.report false).outcome = .succeeded ∨
              (s.progress.report false).outcome = .completedWithErrors) ∨
          r.finished = false ∧ s.progress.isFinished = false ∧
            Round.Fruitless (max options.maxIdleRounds 1) (r :: rest) ∧
            (s.progress.report false).outcome = .completedButBlocked)) := by
  obtain ⟨n, canceled, s, halts, run⟩ := run_eq_moment prepared
  have tally := w₀.moment_tally env options generators n
  rw [halts] at tally
  have paid : (w₀.ended env options generators n).countP Round.progressed ≤
      2 * generators.length + s.progress.children.size :=
    Nat.le_trans (Nat.le_trans (Nat.le_add_right _ _) (Nat.le_add_right _ _)) tally.paid
  refine ⟨n, canceled, s, halts, run, ?_, fun is_canceled => ?_, fun uncanceled => ?_⟩
  · have begun := tally.begun
    refine Nat.le_trans ?_ (Nat.mul_le_mul_right _ (Nat.succ_le_succ paid))
    cases canceled with
    | true => exact Nat.le_trans begun (Round.length_le (tally.going (by simp)))
    | false =>
      obtain ⟨r, rest, rounds, -, -, before⟩ := tally.stopped rfl
      rw [rounds] at begun ⊢
      refine Nat.le_trans begun (Nat.le_trans (Round.length_le before) ?_)
      refine Nat.mul_le_mul_right _ (Nat.succ_le_succ ?_)
      rw [List.countP_cons]
      exact Nat.le_add_right _ _
  · subst is_canceled
    exact tally.going (by simp)
  · subst uncanceled
    obtain ⟨r, rest, rounds, stops, finished, before⟩ := tally.stopped rfl
    refine ⟨r, rest, rounds, before, ?_⟩
    dsimp only at finished
    rw [rounds] at stops
    cases all : s.progress.isFinished with
    | true =>
      rw [all] at finished
      exact Or.inl ⟨finished, rfl, Progress.outcome_of_finished all⟩
    | false =>
      rw [all] at finished
      refine Or.inr ⟨finished, rfl, stops.resolve_left ?_, Progress.outcome_of_unfinished all⟩
      rintro ⟨r', first, done⟩
      cases first
      exact Bool.noConfusion (finished.symm.trans done)

end World

/-! ## A run that gives up -/

namespace Sample

/-- Two rounds in a row may bring nothing, and unknown migrations are only warned of. -/
def impatient : RunOptions := { maxIdleRounds := 2, validation := .warn }

/-- The world once the run over the invoices alone is prepared. -/
def withoutOrders : World := (world.prepare env impatient [invoices]).1

theorem withoutOrders_prepared :
    world.prepare env impatient [invoices] = (withoutOrders, .ok ()) :=
  Prod.ext rfl (by decide +kernel)

theorem withoutOrders_stage :
    (withoutOrders.moment env impatient [invoices] 10).stage = .over false := by decide +kernel

end Sample

/-- The invoices wait for orders that are not part of the run: it gives up after two rounds. -/
theorem World.invoices_alone_give_up :
    ∃ n s, Sample.withoutOrders.moment Sample.env Sample.impatient [Sample.invoices] n =
        ⟨.over false, s⟩ ∧
      Sample.world.run Sample.env Sample.impatient [Sample.invoices] =
        (s.world, .ok (s.progress.report false)) ∧
      Sample.withoutOrders.begun Sample.env Sample.impatient [Sample.invoices] n ≤
        (2 * 1 + s.progress.children.size + 1) * 2 ∧
      (s.progress.report false).outcome = .completedButBlocked := by
  obtain ⟨n, canceled, s, halts, run, most, -, outcome⟩ :=
    ends_when_it_should Sample.withoutOrders_prepared
  have ends : Sample.withoutOrders.moment Sample.env Sample.impatient [Sample.invoices] 10 =
      ⟨.over false, _⟩ := congrArg (Moment.mk · _) Sample.withoutOrders_stage
  have same := (moment_over halts (Nat.le_max_left n 10)).symm.trans
    (moment_over ends (Nat.le_max_right n 10))
  obtain ⟨stage, state⟩ := Moment.mk.inj same
  obtain rfl := Stage.over.inj stage
  have unfinished : s.progress.isFinished = false := by
    rw [state]
    decide +kernel
  obtain ⟨r, rest, -, -, ⟨-, finished, -⟩ | ⟨-, -, -, blocked⟩⟩ := outcome rfl
  · exact Bool.noConfusion (unfinished.symm.trans finished)
  · exact ⟨n, s, halts, run, most, blocked⟩

end GatedMigration
