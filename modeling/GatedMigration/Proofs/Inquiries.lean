import GatedMigration.Proofs.Prerequisites
import GatedMigration.Proofs.Scripts

/-!
# Questions step by step

While other tasks are at work, a question to an oracle is asked step by step. If nothing comes in
between, the steps lead to the answer of the oracle (`Inquiry.leads_state`): a guarded call that is
started and at once brought to its end is a guarded call (`World.guard_eq`). Whatever comes in
between, a task is found ready only after each prerequisite had a satisfied record at some time, the
time of the query at the latest (`Inquiry.Promises`).
-/

namespace GatedMigration

/-! ## Without interruption -/

namespace World

variable {α : Type}

theorem refusal?_eq_none {w : World} (h : w.refusal? = none) :
    due w.context.cancelAt w.clock = false ∧ due w.context.deadline w.clock = false := by
  unfold refusal? isCanceled at h
  cases canceled : due w.context.cancelAt w.clock <;>
    cases late : due w.context.deadline w.clock <;>
    simp [canceled, late] at h ⊢

/-- A wait that nobody interrupts. -/
theorem wake_waitEnd {w : World} (h : w.refusal? = none) (ms : Nat) :
    w.wake (w.waitEnd ms) = w.wait ms := by
  obtain ⟨notCanceled, inTime⟩ := refusal?_eq_none h
  have later : w.clock ≤ w.waitEnd ms := Nat.le_add_right _ _
  unfold wake wait
  generalize w.waitEnd ms = stop at *
  obtain ⟨store, graph, clock, ⟨cancelAt, deadline⟩, journal, outside, turns⟩ := w
  cases cancelAt <;> cases deadline <;>
    simp only [due, earlier, refusal?, isCanceled, Option.any_none, Option.any_some,
      decide_eq_false_iff_not, Bool.false_eq_true, if_false, decide_eq_true_eq] at *
  · rw [Nat.max_eq_right later]
  · rename_i d
    by_cases late : d ≤ stop
    · have now : max clock (min stop d) = d := by omega
      simp only [now]
      simp [late]
    · have now : max clock (min stop d) = stop := by omega
      simp only [now]
      simp [late]
  · rename_i c
    by_cases early : c ≤ stop
    · have now : max clock (min stop c) = c := by omega
      simp only [now]
      simp [early]
    · have now : max clock (min stop c) = stop := by omega
      simp only [now]
      simp [early]
  · rename_i c d
    by_cases early : c ≤ stop ∧ c ≤ d
    · have now : max clock (min (min stop c) d) = c := by omega
      simp only [now]
      simp [early]
    · by_cases late : d ≤ stop
      · have now : max clock (min (min stop c) d) = d := by omega
        simp only [now]
        simp [late, show ¬c ≤ d by omega]
      · have now : max clock (min (min stop c) d) = stop := by omega
        simp only [now]
        simp [late, show ¬c ≤ stop by omega]

/-- A wait that takes no time. -/
theorem wait_zero {w : World} (h : w.refusal? = none) : w.wait 0 = (w, .ok ()) := by
  obtain ⟨notCanceled, inTime⟩ := refusal?_eq_none h
  have stop : w.waitEnd 0 = w.clock := by
    unfold waitEnd
    omega
  rw [← wake_waitEnd h, stop]
  have now : max w.clock (earlier (earlier w.clock w.context.cancelAt) w.context.deadline) =
      w.clock := by
    unfold earlier
    split <;> split <;> omega
  simp only [wake, now, h]

/-- A guarded call is one that is started and at once brought to its end. -/
theorem guard_eq (w : World) (call : Store → Call α) :
    w.guard (call w.store) =
      match w.begin call with
      | (w, .error e) => (w, .error e)
      | (w, .ok q) => w.complete call q := by
  unfold guard begin
  cases refused : w.refusal? with
  | some e => rfl
  | none =>
    dsimp only
    unfold complete
    dsimp only
    generalize started : ({ w with store := (call w.store).start w.store } : World) = v
    have going : v.refusal? = none := by
      rw [← started]
      exact refused
    have due : w.waitEnd (call w.store).latency = v.waitEnd (call w.store).latency := by
      rw [← started]
      rfl
    have waited : (if (call w.store).latency = 0 then (v, .ok ()) else
        v.wake (w.waitEnd (call w.store).latency)) = v.wait (call w.store).latency := by
      rw [due, wake_waitEnd going]
      split
      · rename_i no_time
        rw [no_time, wait_zero going]
      · rfl
    rw [waited]

end World

namespace Inquiry

/-- Step by step, and without anything in between, a question gets an answer. -/
inductive Leads (o : Oracle) (metadata : Namespace) :
    Inquiry → World → World × Option Readiness → Prop where
  | over {i : Inquiry} {w w' : World} {answer : Option Readiness}
      (step : i.step o metadata w = (w', .inr answer)) : Leads o metadata i w (w', answer)
  | more {i i' : Inquiry} {w w' : World} {r : World × Option Readiness}
      (step : i.step o metadata w = (w', .inl i')) (rest : Leads o metadata i' w' r) :
      Leads o metadata i w r

variable {o : Oracle} {metadata : Namespace}

/-- What the rest of a question leads to. -/
def Settles (o : Oracle) (metadata : Namespace) : World × Next → World × Option Readiness → Prop
  | (w, .inl i), r => Leads o metadata i w r
  | (w, .inr answer), r => r = (w, answer)

theorem Leads.of_step {i : Inquiry} {w : World} {r : World × Option Readiness}
    (h : Settles o metadata (i.step o metadata w) r) : Leads o metadata i w r := by
  cases step : i.step o metadata w with
  | mk w' next =>
    rw [step] at h
    cases next with
    | inl i' => exact .more step h
    | inr answer =>
      obtain rfl : r = (w', answer) := h
      exact .over step

/-- A call that is started and brought to its end is a guarded call. -/
theorem Leads.of_guard {α : Type} {i : Inquiry} {w : World} {c : Store → Call α}
    {underway : World.Underway → Inquiry} {answered : World × Except StoreFailure α → World × Next}
    {r : World × Option Readiness}
    (asks : i.step o metadata w = call w.yield c underway answered)
    (ends : ∀ w q, (underway q).step o metadata w = answered (w.complete c q))
    (h : Settles o metadata (answered (w.yield.guard (c w.yield.store))) r) :
    Leads o metadata i w r := by
  refine .of_step ?_
  rw [asks]
  rw [World.guard_eq] at h
  unfold call
  generalize w.yield.begin c = p at *
  obtain ⟨w', e | q⟩ := p
  · exact h
  · refine .of_step ?_
    rw [ends]
    exact h

theorem leads_reading (c : Cursor CompletionRecord) (items : List CompletionRecord)
    (satisfied : Nat) (w : World) :
    Leads o metadata (.reading c items satisfied) w
      ((o.readRecords metadata c items satisfied w).1.closeCursor,
        (o.readRecords metadata c items satisfied w).2) := by
  have waited (w : World) : w.yield.guard (c.wait w.yield.store) = w.guardWait c.latency := by
    unfold World.guard World.guardWait
    dsimp only
    cases w.yield.refusal? with
    | some e => rfl
    | none =>
      dsimp only [Cursor.wait]
      obtain ⟨v, e | _⟩ := w.yield.wait c.latency <;> rfl
  induction items generalizing satisfied w with
  | nil =>
    refine .of_guard rfl (fun _ _ => rfl) ?_
    rw [waited, Oracle.readRecords]
    obtain ⟨w', e | _⟩ := w.guardWait c.latency
    · cases e <;> rfl
    · unfold afterWait
      dsimp only
      split <;> rfl
  | cons r items ih =>
    refine .of_guard rfl (fun _ _ => rfl) ?_
    rw [waited, Oracle.readRecords]
    obtain ⟨w', e | _⟩ := w.guardWait c.latency
    · cases e <;> rfl
    · unfold afterWait
      dsimp only
      split
      · rfl
      · split
        · exact ih _ _
        · rfl

theorem leads_counted (w : World) :
    Leads o metadata .counted w (o.prerequisites metadata w) := by
  refine .of_guard rfl (fun _ _ => rfl) ?_
  unfold Oracle.prerequisites Oracle.findRecords
  dsimp only
  obtain ⟨w', e | c⟩ := w.yield.guard (w.yield.store.findRecords metadata o.edges.toList)
  · cases e <;> rfl
  · exact leads_reading c c.items c.yielded w'

/-- Without interruption the steps of a question lead to the answer of the oracle. -/
theorem leads_state (w : World) : Leads o metadata .fresh w (o.state metadata w) := by
  refine .of_guard rfl (fun _ _ => rfl) ?_
  unfold Oracle.state Oracle.count
  dsimp only
  obtain ⟨w', e | n⟩ := w.yield.guard (w.yield.store.count o.namesp o.selector)
  · cases e <;> rfl
  · unfold afterCount
    dsimp only
    split
    · rfl
    · split
      · rfl
      · exact leads_counted w'

/-! ## What an answer tells, whatever comes in between -/

/-- A question that has come so far makes ready only if `K` holds of every prerequisite. -/
def Promises (o : Oracle) (K : Identifier → Prop) : Inquiry → Prop
  | reading _ items satisfied | waiting _ items satisfied _ =>
    (∀ r ∈ items, r.satisfied = true) → o.edges.toList.length ≤ satisfied + items.length →
      ∀ id ∈ o.edges, K id
  | _ => True

variable {K K' : Identifier → Prop}

theorem Promises.mono {i : Inquiry} (h : i.Promises o K) (more : ∀ id, K id → K' id) :
    i.Promises o K' := by
  cases i with
  | reading c items satisfied | waiting c items satisfied q =>
    exact fun good enough id edge => more id (h good enough id edge)
  | _ => trivial

/-- What a step of a question keeps, if `K` holds of whatever has a satisfied record now. -/
def Next.Promises (o : Oracle) (K : Identifier → Prop) : Next → Prop
  | .inl i => i.Promises o K
  | .inr answer => answer = some .ready → ∀ id ∈ o.edges, K id

theorem call_promises {α : Type} {w : World} {c : Store → Call α}
    {underway : World.Underway → Inquiry} {answered : World × Except StoreFailure α → World × Next}
    (started : ∀ q, (underway q).Promises o K)
    (failed : ∀ w e, (answered (w, .error e)).2.Promises o K) :
    (call w c underway answered).2.Promises o K := by
  unfold call
  obtain ⟨w', e | q⟩ := w.begin c
  · exact failed w' e
  · exact started q

theorem afterCount_promises (r : World × Except StoreFailure Nat) :
    (afterCount o r).2.Promises o K := by
  obtain ⟨w, e | n⟩ := r
  · cases e <;> exact fun h => by cases h
  · unfold afterCount
    dsimp only
    split
    · exact fun h => by cases h
    split
    · rename_i none
      exact fun _ id edge =>
        absurd (List.isEmpty_iff.1 none ▸ edge : id ∈ []) List.not_mem_nil
    · trivial

theorem afterWait_promises {c : Cursor CompletionRecord} {items : List CompletionRecord}
    {satisfied : Nat} (h : (∀ r ∈ items, r.satisfied = true) →
      o.edges.toList.length ≤ satisfied + items.length → ∀ id ∈ o.edges, K id)
    (r : World × Except StoreFailure Unit) :
    (afterWait o metadata c items satisfied r).2.Promises o K := by
  obtain ⟨w, e | _⟩ := r
  · cases e <;> exact fun h => by cases h
  unfold afterWait
  dsimp only
  split
  · exact fun h => by cases h
  split
  · intro ready
    refine h (fun r mem => absurd mem List.not_mem_nil) (Nat.le_of_not_lt fun fewer => ?_)
    rw [List.length_nil, Nat.add_zero] at fewer
    rw [if_pos fewer] at ready
    cases ready
  split
  · rename_i r rest good
    refine fun all enough => h (List.forall_mem_cons.2 ⟨good, all⟩) ?_
    rw [List.length_cons]
    omega
  · exact fun h => by cases h

/-- The records found are those stored at the end of the query. -/
theorem complete_findRecords {w w' : World} {q : World.Underway} {c : Cursor CompletionRecord}
    (h : w.complete (o.findRecords metadata) q = (w', .ok c)) :
    c.items = (w.store.recordsOf.get metadata).among o.edges.toList ∧ c.yielded = 0 := by
  rcases w.complete_cases (o.findRecords metadata) q with ⟨t, e, failed⟩ | ⟨t, done⟩
  · cases failed.symm.trans h
  have answer := congrArg Prod.snd (done.symm.trans h)
  obtain ⟨items, yielded, -⟩ := Store.handOut_ok (Prod.ext rfl answer)
  have found := Store.underFaults_ok items
  rw [Store.matchingRecords_idIn] at found
  exact ⟨(Except.ok.inj found).symm, yielded⟩

theorem step_promises {i : Inquiry} {w : World} (h : i.Promises o K)
    (known : ∀ id, w.Satisfied metadata id → K id) : (i.step o metadata w).2.Promises o K := by
  have unfound (w : World) (e : StoreFailure) :
      (afterQuery metadata (w, .error e)).2.Promises o K := by
    cases e <;> exact fun h => by cases h
  cases i with
  | fresh => exact call_promises (fun _ => trivial) fun w e => afterCount_promises (w, .error e)
  | counting q => exact afterCount_promises _
  | counted => exact call_promises (fun _ => trivial) unfound
  | querying q =>
    rw [step]
    cases found : w.complete (o.findRecords metadata) q with
    | mk w' r =>
      cases r with
      | error e => exact unfound w' e
      | ok c =>
        obtain ⟨items, yielded⟩ := complete_findRecords found
        intro good enough id edge
        rw [items, yielded, Nat.zero_add] at enough
        obtain ⟨r, stored, satisfied⟩ := RecordBook.find?_of_among (items ▸ good) enough edge
        exact known id ⟨r, stored, satisfied⟩
  | reading c items satisfied =>
    exact call_promises (fun _ => h) fun w e => afterWait_promises h (w, .error e)
  | waiting c items satisfied q => exact afterWait_promises h _

end Inquiry

/-- A task that has come so far has its operation called only if `K` holds of every
prerequisite. -/
def Evaluation.Promises (o : Oracle) (K : Identifier → Prop) : Evaluation → Prop
  | asking i => i.Promises o K
  | ready => ∀ id ∈ o.edges, K id
  | _ => True

namespace Evaluation

variable {K K' : Identifier → Prop} {t : Task} {e e' : Evaluation} {w w' : World}

theorem Promises.mono {o : Oracle} (h : e.Promises o K) (more : ∀ id, K id → K' id) :
    e.Promises o K' := by
  cases e with
  | asking i => exact Inquiry.Promises.mono h more
  | ready => exact fun id edge => more id (h id edge)
  | _ => trivial

/-- A step keeps the promise, if `K` holds of whatever has a satisfied record now. -/
theorem Promises.step {env : Environment} (h : e.Promises t.oracle K)
    (known : ∀ id, w.Satisfied env.metadata id → K id)
    (went : e.step env t w = (w', .inl e')) : e'.Promises t.oracle K := by
  cases onward_of_step went with
  | asks step =>
    have promises := Inquiry.step_promises h known
    rw [step] at promises
    exact promises
  | readies step =>
    have promises := Inquiry.step_promises h known
    rw [step] at promises
    exact promises rfl
  | _ => trivial

end Evaluation

end GatedMigration
