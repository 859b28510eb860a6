import GatedMigration.Proofs.Delivery
import GatedMigration.Proofs.Queries
import Mathlib.Data.List.Infix

/-!
# What a scan comes to

A scan makes tasks for the first documents that match, in the order of their insertion, whether it
comes to its end or breaks off (`Generator.run_scanned`). The query finds no other documents
(`Store.findMatching_ok`), the cursor delivers the first of what was found
(`Cursor.delivers_prefix`), and a scan that does not fail has made tasks for all of it that is
within the limit (`Generator.collect_ends`).

A cursor is asked for one more item than there are tasks to make. So a scan with as many tasks as
its limit allows fails if its cursor fails just then, although nothing is missing
(`Generator.limit_reached_iff`).
-/

namespace GatedMigration

/-! ## The query for documents -/

/-- The first items of a list, as many as there may be. -/
def upTo {α : Type} (bound : Option Nat) (l : List α) : List α :=
  match bound with
  | none => l
  | some n => l.take n

section

variable {α β : Type}

theorem upTo_cons {bound : Option Nat} (room : bound ≠ some 0) (a : α) (l : List α) :
    upTo bound (a :: l) = a :: upTo (bound.map (· - 1)) l := by
  match bound with
  | none => rfl
  | some 0 => exact absurd rfl room
  | some (n + 1) => rfl

theorem map_upTo (f : α → β) (bound : Option Nat) (l : List α) :
    (upTo bound l).map f = upTo bound (l.map f) := by
  cases bound with
  | none => rfl
  | some n => exact List.map_take

theorem upTo_prefix (bound : Option Nat) (l : List α) : upTo bound l <+: l := by
  cases bound with
  | none => exact List.prefix_rfl
  | some n => exact List.take_prefix n l

theorem upTo_upTo (bound : Option Nat) (l : List α) : upTo bound (upTo bound l) = upTo bound l := by
  cases bound with
  | none => rfl
  | some n => rw [upTo, upTo, List.take_take, Nat.min_self]

end

namespace Store

/-- The documents of a namespace that match a selector, in the order of their insertion. -/
def matching (s : Store) (ns : Namespace) (sel : Selector) : List Document :=
  (s.documents ns).filter fun d => (sel.accepts d).toOption == some true

/-- A query that succeeds finds the first documents that match, as many as there may be. -/
theorem findMatching_ok {sel : Selector} {bound : Option Nat} {docs : List Document}
    {ids : List Value} (h : findMatching sel bound docs = .ok ids) :
    ids = (upTo bound (docs.filter fun d => (sel.accepts d).toOption == some true)).map
      Document.id := by
  induction docs generalizing bound ids with
  | nil =>
    have found : findMatching sel bound [] = .ok [] := by unfold findMatching; split <;> trivial
    cases found.symm.trans h
    cases bound with
    | none => rfl
    | some n => rw [List.filter_nil, upTo, List.take_nil, List.map_nil]
  | cons d docs ih =>
    by_cases full : bound = some 0
    · rw [full, findMatching] at h
      cases h
      rw [full, upTo, List.take_zero, List.map_nil]
    rw [findMatching] at h
    · cases answer : sel.accepts d with
      | error e =>
        rw [answer] at h
        cases h
      | ok hit =>
        rw [answer] at h
        cases hit with
        | false =>
          rw [ih h, List.filter_cons_of_neg (by rw [answer]; decide)]
        | true =>
          rw [List.filter_cons_of_pos (by rw [answer]; decide), upTo_cons full, List.map_cons]
          dsimp only at h
          cases found : findMatching sel (bound.map (· - 1)) docs with
          | error e =>
            rw [found] at h
            cases h
          | ok rest =>
            rw [found] at h
            cases h
            rw [← ih found]
    · exact full

end Store

namespace Environment

variable {env : Environment} {w w' : World} {ns : Namespace} {sel : Selector} {limit : Option Nat}
  {c : Cursor Value}

/-- A query for documents leads to a cursor over the first documents that match. Its limit may be
left to whoever asks. -/
theorem findIds_ok (asked : w.guard (env.findIds w.store ns sel limit) = (w', .ok c)) :
    c.items = (upTo (if env.limitsQueries then limit else none)
        (w.store.matching ns sel)).map Document.id ∧
      c.yielded = 0 ∧ c.failsAfter = w.store.faults.findCursorFailsAfter := by
  obtain ⟨_, _, -, answer⟩ := World.guard_ok asked
  obtain ⟨items, first, fails, -⟩ := Store.handOut_ok answer
  have found := Store.eq_ok_of_reported (Store.underFaults_ok items)
  exact ⟨Store.findMatching_ok found, first, fails⟩

end Environment

/-! ## Cursors -/

/-- A cursor delivers the first of its items. -/
theorem Cursor.delivers_prefix {α : Type} (c : Cursor α) (w : World) :
    c.delivers w <+: c.items := by
  induction items : c.items generalizing c w with
  | nil =>
    rw [delivers_eq]
    split
    · exact List.nil_prefix
    · split
      · rename_i next
        rw [items_of_next next] at items
        cases items
      · exact List.nil_prefix
  | cons a rest ih =>
    rw [delivers_eq]
    split
    · exact List.nil_prefix
    · split
      · rename_i next
        rw [items_of_next next] at items
        obtain ⟨rfl, rest⟩ := List.cons.inj items
        exact (List.prefix_cons_inj _).2 (ih _ _ rest)
      · exact List.nil_prefix

namespace Generator

variable (g : Generator)

theorem within_eq_upTo (ds : List Value) : g.within 0 ds = upTo g.migration.limit ds := by
  unfold within
  cases g.migration.limit <;> rfl

theorem within_prefix {ds ds' : List Value} (h : ds <+: ds') (produced : Nat) :
    g.within produced ds <+: g.within produced ds' := by
  unfold within
  split
  · exact h
  · exact h.take _

/-- Items that are collected to the end are all that there are within the limit. If there is a
failure it comes behind all that was delivered. -/
theorem collect_ends (c : Cursor Value) (items : List Value) (produced : Nat) (w : World) :
    let delivered := Cursor.delivers { c with items, yielded := produced } w
    match (g.collect c items produced w).2.2 with
    | .ok () => g.within produced delivered = g.within produced items
    | .error _ => g.within produced delivered = delivered := by
  induction items generalizing produced w with
  | nil =>
    have failure := Cursor.failure?_items { c with yielded := produced } []
    rw [collect, Cursor.delivers_eq, Cursor.next, failure]
    generalize Cursor.failure? { c with yielded := produced } = failed
    dsimp only
    generalize w.guardWait c.latency = turn
    obtain ⟨w', _ | _⟩ := turn
    · exact g.within_nil produced
    · cases failed with
      | some e => exact g.within_nil produced
      | none => rfl
  | cons d items ih =>
    have failure := Cursor.failure?_items { c with yielded := produced } (d :: items)
    rw [collect, Cursor.delivers_eq, Cursor.next, failure]
    generalize Cursor.failure? { c with yielded := produced } = failed
    dsimp only
    generalize w.guardWait c.latency = turn
    obtain ⟨w', _ | _⟩ := turn
    · exact g.within_nil produced
    cases failed with
    | some e => exact g.within_nil produced
    | none =>
      dsimp only
      by_cases full : g.isFull produced = true
      · rw [if_pos full]
        exact (g.within_of_full full _).trans (g.within_of_full full _).symm
      · rw [if_neg full, g.within_of_not_full full, g.within_of_not_full full]
        have rest := ih (produced + 1) w'
        generalize g.collect c items (produced + 1) w' = r at rest ⊢
        obtain ⟨_, _, _ | _⟩ := r
        · exact congrArg (d :: ·) rest
        · exact congrArg (d :: ·) rest

/-! ## Scans -/

variable {g} {env : Environment} {w : World}

/-- What a scan has got from its cursor: the first of the documents that match within the limit, all
of them if the scan has not failed, and otherwise as many as the cursor has delivered. -/
theorem scan_ends (env : Environment) (w : World) :
    g.delivered env w <+: upTo g.migration.limit
      ((w.store.matching g.migration.namesp g.migration.selector).map Document.id) ∧
    match w.yield.guard (env.findIds w.yield.store g.migration.namesp g.migration.selector
        g.migration.limit) with
    | (_, .error e) => (g.scan env w).2.2 = .error e ∧ g.delivered env w = []
    | (w', .ok c) =>
      match (g.scan env w).2.2 with
      | .ok () => g.delivered env w = upTo g.migration.limit
          ((w.store.matching g.migration.namesp g.migration.selector).map Document.id)
      | .error _ => g.delivered env w = c.delivers w' := by
  have unread : w.yield.store.matching = w.store.matching := by
    funext ns sel
    rw [Store.matching, Store.matching, Store.documents, Store.documents,
      w.asked_yield.documents]
  unfold delivered scan
  dsimp only
  generalize asked : w.yield.guard (env.findIds w.yield.store g.migration.namesp
    g.migration.selector g.migration.limit) = r
  obtain ⟨w', e | c⟩ := r
  · exact ⟨List.nil_prefix, rfl, rfl⟩
  obtain ⟨items, first, -⟩ := Environment.findIds_ok asked
  rw [unread] at items
  have bounded : g.within 0 c.items = upTo g.migration.limit
      ((w.store.matching g.migration.namesp g.migration.selector).map Document.id) := by
    rw [items, within_eq_upTo, map_upTo]
    -- whether or not the query has heeded the limit, the scan does
    cases env.limitsQueries with
    | true => exact upTo_upTo _ _
    | false => rfl
  have ends := g.collect_ends c c.items c.yielded w'
  rw [first] at ends
  dsimp only
  rw [← bounded, first]
  refine ⟨g.within_prefix (c.delivers_prefix w') 0, ?_⟩
  have start : ({ c with yielded := 0 } : Cursor Value) = c := first ▸ rfl
  rw [start] at ends
  generalize g.collect c c.items 0 w' = r at ends ⊢
  obtain ⟨_, _, _ | _⟩ := r
  · exact ends
  · exact ends

/-- A scan that comes to its end has got all the documents that match within the limit. -/
theorem delivered_of_ok (ended : (g.scan env w).2.2 = .ok ()) :
    g.delivered env w = upTo g.migration.limit
      ((w.store.matching g.migration.namesp g.migration.selector).map Document.id) := by
  obtain ⟨-, ends⟩ := g.scan_ends env w
  rw [ended] at ends
  generalize w.yield.guard _ = r at ends
  obtain ⟨w', _ | c⟩ := r
  · cases ends.1
  · exact ends

/-- A scan that fails has got nothing from a query that has failed, and otherwise all that the
cursor has delivered. -/
theorem delivered_of_error {e : StoreFailure} (failed : (g.scan env w).2.2 = .error e) :
    match w.yield.guard (env.findIds w.yield.store g.migration.namesp g.migration.selector
        g.migration.limit) with
    | (_, .error e') => e = e' ∧ g.delivered env w = []
    | (w', .ok c) => g.delivered env w = c.delivers w' := by
  obtain ⟨-, ends⟩ := g.scan_ends env w
  rw [failed] at ends
  generalize w.yield.guard _ = r at ends ⊢
  obtain ⟨w', _ | c⟩ := r
  · exact ⟨Except.error.inj ends.1, ends.2⟩
  · exact ends

/-- How a scan answers, and what it keeps of its failure. -/
theorem run_answer (g : Generator) (env : Environment) (w : World) :
    match (g.scan env w).2.2 with
    | .ok () => (g.run env w).2.2 = .ok (g.scan env w).2.1.length ∧
        (g.run env w).2.1.errors = g.errors
    | .error e => (g.run env w).2.2 = .error e ∧
        (g.run env w).2.1.errors = g.errors ++ [e.message] := by
  unfold run
  generalize g.scan env w = r
  obtain ⟨_, _, _ | _⟩ := r <;> exact ⟨rfl, rfl⟩

theorem scan_of_run_ok {n : Nat} (answer : (g.run env w).2.2 = .ok n) :
    (g.scan env w).2.2 = .ok () ∧ n = (g.scan env w).2.1.length ∧
      (g.run env w).2.1.errors = g.errors := by
  have answers := g.run_answer env w
  cases result : (g.scan env w).2.2 with
  | error e =>
    rw [result] at answers
    cases answers.1.symm.trans answer
  | ok _ =>
    rw [result] at answers
    exact ⟨rfl, Except.ok.inj (answer.symm.trans answers.1), answers.2⟩

theorem scan_of_run_error {e : StoreFailure} (answer : (g.run env w).2.2 = .error e) :
    (g.scan env w).2.2 = .error e ∧ (g.run env w).2.1.errors = g.errors ++ [e.message] := by
  have answers := g.run_answer env w
  cases result : (g.scan env w).2.2 with
  | ok _ =>
    rw [result] at answers
    cases answers.1.symm.trans answer
  | error e' =>
    rw [result] at answers
    cases answers.1.symm.trans answer
    exact ⟨rfl, answers.2⟩

end Generator

/-! ## The tasks of a scan -/

namespace Migration

variable (m : Migration)

/-- The documents that a migration is about, in the order of their insertion. -/
def matching (s : Store) : List Document := s.matching m.namesp m.selector

/-- How many tasks a migration may have in one scan, if so many documents match. A limit of zero is
none. -/
def most (found : Nat) : Nat :=
  match m.limit with
  | none | some 0 => found
  | some limit => min limit found

/-- The tasks of a migration for some documents, one for each, numbered in their order. -/
def tasks (docs : List Document) : List Task :=
  docs.zipIdx.map fun p =>
    { id := childId m.id (Document.id p.1) p.2
      migration := m.id
      namesp := m.namesp
      documentId := Document.id p.1
      operation := m.operation
      update := m.update
      oracle := ⟨m.selector, m.namesp, IdSet.ofList m.after⟩ }

theorem length_tasks (docs : List Document) : (m.tasks docs).length = docs.length := by
  rw [tasks, List.length_map, List.length_zipIdx]

/-- The limit of a migration at work leaves room for as many tasks as there may be. -/
theorem length_upTo_limit {α : Type} (l : List α) :
    (upTo (Generator.new m).migration.limit l).length = m.most l.length := by
  unfold most
  change (upTo (m.limit.filter (0 < ·)) l).length = _
  match m.limit with
  | none | some 0 => rfl
  | some (limit + 1) => exact List.length_take

/-- What a scan of a migration at work does: it makes tasks for the first `k` documents that match
and puts them behind those that are buffered. -/
structure Scanned (env : Environment) (w : World) (g : Generator) (k : Nat) (w' : World)
    (g' : Generator) (answer : Except StoreFailure Nat) : Prop where
  bound : k ≤ m.most (m.matching w.store).length
  migration : g'.migration = g.migration
  buffered : g'.buffered = g.buffered ++ m.tasks ((m.matching w.store).take k)
  distinct : ((m.tasks ((m.matching w.store).take k)).map Task.id).Nodup
  /-- The tasks join the group of the migration. -/
  group : ∀ id, id ∈ w'.graph.getGroup m.id ↔ id ∈ w.graph.getGroup m.id ∨
    id ∈ (m.tasks ((m.matching w.store).take k)).map Task.id
  groups : ∀ id, id ≠ m.id → w'.graph.groups.find? id = w.graph.groups.find? id
  edges : w'.graph.edges = w.graph.edges
  /-- The answer is the number of the tasks, and nothing that is within the limit is left out. -/
  finished : ∀ n, answer = .ok n →
    n = k ∧ k = m.most (m.matching w.store).length ∧ g'.errors = g.errors
  /-- A failure is kept. There is a task for whatever the cursor has delivered before it. -/
  failed : ∀ e, answer = .error e → g'.errors = g.errors ++ [e.message] ∧
    match w.yield.guard (env.findIds w.yield.store m.namesp m.selector
        (Generator.new m).migration.limit) with
    | (_, .error e') => k = 0 ∧ e = e'
    | (w', .ok c) => k = (c.delivers w').length

end Migration

/-- A group that is joined by some members leaves the other groups as they are. -/
theorem Graph.groups_addGroup_of_ne {g : Graph} {id a : Identifier} (h : a ≠ id)
    (members : List Identifier) :
    (g.addGroup id members).groups.find? a = g.groups.find? a := by
  unfold addGroup IdMap.joinAt
  split
  · rfl
  · exact IdMap.find?_insert_of_ne _ h _

namespace Generator

variable {m : Migration} {g : Generator}

/-- The tasks of a scan are those for the first documents that match, one for each identifying value
that it has got. -/
theorem scan_tasks_eq (at_work : g.migration = (new m).migration) (env : Environment) (w : World) :
    (g.scan env w).2.1 =
      m.tasks ((m.matching w.store).take (g.delivered env w).length) := by
  have first : g.delivered env w =
      ((m.matching w.store).take (g.delivered env w).length).map Document.id := by
    obtain ⟨within, -⟩ := g.scan_ends env w
    rw [at_work] at within
    have all := within.trans <| upTo_prefix _ _
    rw [List.map_take]
    exact List.prefix_iff_eq_take.1 all
  have same : g.task = (new m).task := task_congr at_work
  rw [g.scan_delivered, same]
  conv_lhs => rw [first, List.zipIdx_map, List.map_map]
  rfl

/-- A scan makes tasks for the first documents that match, whether it comes to its end or not. -/
theorem run_scanned (at_work : g.migration = (new m).migration) (env : Environment) (w : World) :
    ∃ k, m.Scanned env w g k (g.run env w).1 (g.run env w).2.1 (g.run env w).2.2 := by
  obtain ⟨migration, buffered⟩ := g.run_buffered env w
  have own : g.id = m.id := by
    rw [id, at_work]
    rfl
  have tasks := scan_tasks_eq at_work env w
  have count : (g.scan env w).2.1.length = (g.delivered env w).length := by
    rw [g.scan_delivered, List.length_map, List.length_zipIdx]
  have graph := g.run_graph env w
  have within := (g.scan_ends env w).1
  rw [at_work] at within
  have most : (upTo (new m).migration.limit
      ((m.matching w.store).map Document.id)).length = m.most (m.matching w.store).length := by
    rw [m.length_upTo_limit, List.length_map]
  refine ⟨(g.delivered env w).length, ?_, migration, ?_, ?_, fun id => ?_, fun id other => ?_, ?_,
    fun n answer => ?_, fun e answer => ?_⟩
  · exact within.length_le.trans_eq most
  · rw [buffered, tasks]
  · rw [← tasks]
    exact g.scan_nodup env w
  · rw [graph, own, Graph.mem_getGroup_addGroup_self, tasks]
  · rw [graph, own, Graph.groups_addGroup_of_ne other]
  · rw [graph]
    rfl
  · obtain ⟨ended, rfl, kept⟩ := scan_of_run_ok answer
    have all := delivered_of_ok ended
    rw [at_work] at all
    exact ⟨count, (congrArg List.length all).trans most, kept⟩
  · obtain ⟨failed, kept⟩ := scan_of_run_error answer
    have got := delivered_of_error failed
    rw [at_work] at got
    refine ⟨kept, ?_⟩
    dsimp only [new] at got ⊢
    generalize w.yield.guard _ = r at got ⊢
    obtain ⟨w', _ | c⟩ := r
    · exact ⟨congrArg List.length got.2, got.1⟩
    · exact congrArg List.length got

/-- The cursor over the two orders breaks off behind the first one. The scan has made a task for
that order, and its failure is kept. -/
theorem broken_off_scanned :
    Sample.orders.migration = (new Sample.orders.migration).migration ∧
    Sample.orders.migration.Scanned Sample.env Sample.brokenOff Sample.orders 1
      (Sample.orders.run Sample.env Sample.brokenOff).1
      (Sample.orders.run Sample.env Sample.brokenOff).2.1
      (.error (.cursor "cursor failed after 1 items")) := by
  have at_work : Sample.orders.migration = (new Sample.orders.migration).migration := rfl
  have answer : (Sample.orders.run Sample.env Sample.brokenOff).2.2 =
      .error (.cursor "cursor failed after 1 items") := by decide +kernel
  obtain ⟨k, scanned⟩ := run_scanned at_work Sample.env Sample.brokenOff
  have two : (Sample.orders.migration.matching Sample.brokenOff.store).length = 2 := by
    decide +kernel
  have one : (Sample.orders.run Sample.env Sample.brokenOff).2.1.buffered.length = 1 := by
    decide +kernel
  have fresh : Sample.orders.buffered = [] := rfl
  rw [scanned.buffered, fresh, List.nil_append, Migration.length_tasks, List.length_take,
    two] at one
  obtain rfl : k = 1 := by omega
  rw [← answer]
  exact ⟨at_work, scanned⟩

end Generator

/-! ## Scans that reach their limit -/

namespace Cursor

variable {α : Type} {c c' : Cursor α} {n : Nat}

theorem failure?_of_failsAfter (fails : c.failsAfter = some n) :
    c.failure? = if n ≤ c.yielded then
      some (.cursor ("cursor failed after " ++ toString c.yielded ++ " items")) else none := by
  rw [failure?, fails]

theorem next_some {a : α} (h : c.next = .ok (some a, c')) :
    c.failure? = none ∧ c'.failsAfter = c.failsAfter ∧ c'.yielded = c.yielded + 1 := by
  unfold next at h
  split at h
  · cases h
  rename_i going
  split at h
  · cases h
  · cases h
    exact ⟨going, rfl, rfl⟩

/-- A cursor delivers no more items than it may before it fails. -/
theorem length_delivers_le (fails : c.failsAfter = some n) (early : c.yielded ≤ n) (w : World) :
    c.yielded + (c.delivers w).length ≤ n := by
  induction items : c.items generalizing c w with
  | nil =>
    have none_left : c.delivers w = [] :=
      List.eq_nil_of_prefix_nil (items ▸ c.delivers_prefix w)
    rw [none_left]
    exact early
  | cons a rest ih =>
    rw [delivers_eq]
    split
    · exact early
    split
    · rename_i w' _ _ _ c' next
      obtain ⟨going, same, counted⟩ := next_some next
      have room : ¬n ≤ c.yielded := by
        intro full
        rw [failure?_of_failsAfter fails, if_pos full] at going
        cases going
      have later := ih (same.trans fails) (by omega) w' (by
        rw [items_of_next next] at items
        exact (List.cons.inj items).2)
      rw [List.length_cons]
      omega
    · exact early

/-- A cursor that delivers so many items fails behind them only if it may deliver just so many. -/
theorem failure?_behind {w : World} (first : c.yielded = 0) (enough : n ≤ (c.delivers w).length) :
    ({ c with yielded := n } : Cursor α).failure? = if c.failsAfter = some n then
      some (.cursor ("cursor failed after " ++ toString n ++ " items")) else none := by
  cases fails : c.failsAfter with
  | none =>
    rw [if_neg (Option.some_ne_none n).symm]
    rfl
  | some f =>
    have bound := length_delivers_le fails (first ▸ Nat.zero_le f) w
    have just : some f = some n ↔ f ≤ n := by
      rw [Option.some.injEq]
      omega
    exact (failure?_of_failsAfter rfl).trans (if_congr just.symm rfl rfl)

end Cursor

namespace World

variable {w : World}

/-- A guarded wait without a deadline comes to its end, unless the run is cancelled by then. -/
theorem guardWait_of_free (free : w.context.deadline = none) (ms : Nat) :
    ((w.guardWait ms).2 = .error .canceled ∧ (w.guardWait ms).1.isCanceled = true) ∨
    ((w.guardWait ms).2 = .ok () ∧ (w.guardWait ms).1.context.deadline = none) := by
  have free : w.yield.context.deadline = none := w.yield_deadline.trans free
  unfold guardWait
  dsimp only
  by_cases canceled : w.yield.isCanceled = true
  · rw [refusal?_of_canceled canceled]
    exact Or.inl ⟨rfl, canceled⟩
  · have admitted : w.yield.refusal? = none := by
      rw [refusal?, if_neg canceled, free]
      rfl
    rw [admitted]
    dsimp only
    rcases w.yield.wait_ends ms with interrupted | ⟨-, late⟩ | done
    · exact Or.inl interrupted
    · rw [free] at late
      cases late
    · rw [done]
      exact Or.inr ⟨rfl, free⟩

end World

namespace Generator

variable {m : Migration} {g : Generator} {env : Environment} {w : World}

section

variable {c : Cursor Value} {items : List Value} {produced : Nat}
  (free : w.context.deadline = none)
  (uncanceled : (g.collect c items produced w).1.isCanceled = false)

include free uncanceled

theorem collect_turn : ∃ w', w.guardWait c.latency = (w', .ok ()) ∧
    w'.context.deadline = none := by
  rcases World.guardWait_of_free free c.latency with ⟨interrupted, canceled⟩ | ⟨done, free⟩
  · unfold collect at uncanceled
    generalize w.guardWait c.latency = turn at *
    obtain ⟨w', _⟩ := turn
    cases interrupted
    cases canceled.symm.trans uncanceled
  · exact ⟨_, Prod.ext rfl done, free⟩

/-- Unless the run is cancelled or has a deadline, items are collected until the cursor fails or
there are no more within the limit. All that can fail is the cursor, behind the last task. -/
theorem collect_result : (g.collect c items produced w).2.2 =
    match Cursor.failure?
      { c with yielded := produced + (g.collect c items produced w).2.1.length } with
    | some e => .error e
    | none => .ok () := by
  induction items generalizing produced w with
  | nil =>
    obtain ⟨w', turn, -⟩ := collect_turn free uncanceled
    rw [collect, turn]
    dsimp only
    cases failed : Cursor.failure? { c with yielded := produced } with
    | some e | none =>
      dsimp only [List.length_nil, Nat.add_zero]
      rw [failed]
  | cons d items ih =>
    obtain ⟨w', turn, free⟩ := collect_turn free uncanceled
    rw [collect, turn] at uncanceled ⊢
    dsimp only at uncanceled ⊢
    cases failed : Cursor.failure? { c with yielded := produced } with
    | some e =>
      dsimp only [List.length_nil, Nat.add_zero]
      rw [failed]
    | none =>
      rw [failed] at uncanceled
      dsimp only at uncanceled ⊢
      by_cases full : g.isFull produced = true
      · rw [if_pos full]
        dsimp only [List.length_nil, Nat.add_zero]
        rw [failed]
      · rw [if_neg full] at uncanceled ⊢
        have rest := ih free uncanceled
        dsimp only [List.length_cons]
        rw [rest, Nat.add_right_comm, Nat.add_assoc]

end

/-- Unless the run is cancelled or has a deadline, a scan whose query has succeeded fails if its
cursor fails behind the last task, and otherwise it does not. -/
theorem scan_result (free : w.context.deadline = none)
    (uncanceled : (g.scan env w).1.isCanceled = false) {w' : World} {c : Cursor Value}
    (asked : w.yield.guard (env.findIds w.yield.store g.migration.namesp g.migration.selector
      g.migration.limit) = (w', .ok c)) :
    (g.scan env w).2.2 =
      match Cursor.failure? { c with yielded := (g.scan env w).2.1.length } with
      | some e => .error e
      | none => .ok () := by
  obtain ⟨-, first, -⟩ := Environment.findIds_ok asked
  have free : w'.context.deadline = none := by
    obtain ⟨t, s, rfl, -⟩ := World.guard_ok asked
    exact w.yield_deadline.trans free
  unfold scan at uncanceled ⊢
  dsimp only at uncanceled ⊢
  rw [asked] at uncanceled ⊢
  have result := collect_result free (w := w') (g := g) (c := c) uncanceled
  rw [first, Nat.zero_add, ← first] at result
  exact result

theorem run_isCanceled (g : Generator) (env : Environment) (w : World) :
    (g.run env w).1.isCanceled = (g.scan env w).1.isCanceled := by
  unfold run
  dsimp only
  split <;> rfl

/-- A scan that reaches its limit has a task for as many documents as the limit says, but it does
not always end well: its cursor is asked once more. In a run without a deadline that is not
cancelled, the scan succeeds unless the store lets cursors fail after just so many items. -/
theorem limit_reached_iff {n : Nat} (at_work : g.migration = (new m).migration)
    (limit : m.limit = some n) (positive : 0 < n) (free : w.context.deadline = none)
    (uncanceled : (g.run env w).1.isCanceled = false) {w' : World} {c : Cursor Value}
    (asked : w.yield.guard (env.findIds w.yield.store m.namesp m.selector (some n)) =
      (w', .ok c))
    (enough : n ≤ (c.delivers w').length) :
    n ≤ (m.matching w.store).length ∧
    (g.run env w).2.1.buffered = g.buffered ++ m.tasks ((m.matching w.store).take n) ∧
    ((g.run env w).2.2 = .ok n ∧ (g.run env w).2.1.errors = g.errors ↔
      w.yield.store.faults.findCursorFailsAfter ≠ some n) ∧
    (w.yield.store.faults.findCursorFailsAfter = some n →
      (g.run env w).2.2 = .error (.cursor ("cursor failed after " ++ toString n ++ " items")) ∧
      (g.run env w).2.1.errors = g.errors ++
        ["cursor failed: cursor failed after " ++ toString n ++ " items"]) := by
  have working : (new m).migration.limit = some n := by
    change m.limit.filter (0 < ·) = some n
    rw [limit, Option.filter_some, if_pos (decide_eq_true positive)]
  have own : w.yield.guard (env.findIds w.yield.store g.migration.namesp g.migration.selector
      g.migration.limit) = (w', .ok c) := by
    rw [at_work, working]
    exact asked
  have reached : (g.delivered env w).length = n := by
    unfold delivered
    dsimp only
    rw [own]
    dsimp only
    rw [within_eq_upTo, at_work, working, upTo, List.length_take, Nat.min_eq_left enough]
  have count : (g.scan env w).2.1.length = n := by
    rw [g.scan_delivered, List.length_map, List.length_zipIdx, reached]
  obtain ⟨-, first, fails⟩ := Environment.findIds_ok own
  rw [run_isCanceled] at uncanceled
  have result := scan_result free uncanceled own
  have answers := g.run_answer env w
  rw [count, Cursor.failure?_behind first enough, fails] at result
  rw [count] at answers
  refine ⟨?_, ?_, ?_, fun just => ?_⟩
  · have within := (g.scan_ends env w).1.length_le
    rw [reached, at_work, working, upTo, List.length_take, List.length_map] at within
    exact Nat.le_trans within (Nat.min_le_right _ _)
  · rw [(g.run_buffered env w).2, scan_tasks_eq at_work, reached]
  · by_cases just : w.yield.store.faults.findCursorFailsAfter = some n
    · rw [if_pos just] at result
      rw [result] at answers
      refine iff_of_false (fun well => ?_) (not_not_intro just)
      cases answers.1.symm.trans well.1
    · rw [if_neg just] at result
      rw [result] at answers
      exact iff_of_true answers just
  · rw [if_pos just] at result
    rw [result] at answers
    exact answers

end Generator

namespace Sample

/-- A migration of one order. -/
def oneOrder : Migration := { orders.migration with limit := some 1 }

/-- The world when the cursor over the first order is there. -/
def firstOrderFound : World :=
  (brokenOff.yield.guard (env.findIds brokenOff.yield.store oneOrder.namesp oneOrder.selector
    (some 1))).1

theorem firstOrder_asked :
    brokenOff.yield.guard (env.findIds brokenOff.yield.store oneOrder.namesp oneOrder.selector
      (some 1)) = (firstOrderFound, .ok (.ofItems [.int 1] (some 1) 0)) := rfl

theorem firstOrder_delivered :
    1 ≤ ((Cursor.ofItems [Value.int 1] (some 1) 0).delivers firstOrderFound).length := by
  have turn : firstOrderFound.guardWait (Cursor.ofItems [Value.int 1] (some 1) 0).latency =
      (firstOrderFound, .ok ()) := rfl
  rw [Cursor.delivers_eq, turn]
  exact Nat.succ_le_succ (Nat.zero_le _)

theorem oneOrder_uncanceled :
    ((Generator.new oneOrder).run env brokenOff).1.isCanceled = false := by
  decide +kernel

end Sample

namespace Generator

/-- The cursor delivers the one order that the limit asks for, and the scan has made its task. The
cursor fails when it is asked once more, and so does the scan. -/
theorem limit_reached_at_one_order :
    Sample.brokenOff.yield.guard (Sample.env.findIds Sample.brokenOff.yield.store
        Sample.oneOrder.namesp Sample.oneOrder.selector (some 1)) =
      (Sample.firstOrderFound, .ok (.ofItems [.int 1] (some 1) 0)) ∧
    1 ≤ ((Cursor.ofItems [Value.int 1] (some 1) 0).delivers Sample.firstOrderFound).length ∧
    ((new Sample.oneOrder).run Sample.env Sample.brokenOff).2.1.buffered =
      Sample.oneOrder.tasks [[("_id", .int 1)]] ∧
    ((new Sample.oneOrder).run Sample.env Sample.brokenOff).2.2 =
      .error (.cursor "cursor failed after 1 items") := by
  obtain ⟨-, buffered, -, just⟩ := limit_reached_iff (m := Sample.oneOrder) rfl rfl Nat.one_pos rfl
    Sample.oneOrder_uncanceled Sample.firstOrder_asked Sample.firstOrder_delivered
  exact ⟨Sample.firstOrder_asked, Sample.firstOrder_delivered, buffered, (just rfl).1⟩

/-- It is not so that a scan succeeds whenever its cursor has delivered as many items as the limit
asks for. -/
theorem limit_reached_in_vain :
    ¬∀ (m : Migration) (n : Nat) (env : Environment) (w w' : World) (c : Cursor Value),
      m.limit = some n → 0 < n → w.context.deadline = none →
      ((new m).run env w).1.isCanceled = false →
      w.yield.guard (env.findIds w.yield.store m.namesp m.selector (some n)) = (w', .ok c) →
      n ≤ (c.delivers w').length →
      ((new m).run env w).2.2 = .ok n ∧ ((new m).run env w).2.1.buffered.length = n ∧
        ((new m).run env w).2.1.errors = [] := by
  intro succeeds
  obtain ⟨-, -, unfailed⟩ := succeeds Sample.oneOrder 1 Sample.env Sample.brokenOff
    Sample.firstOrderFound _ rfl Nat.one_pos rfl Sample.oneOrder_uncanceled
    Sample.firstOrder_asked Sample.firstOrder_delivered
  have failed : ((new Sample.oneOrder).run Sample.env Sample.brokenOff).2.1.errors ≠ [] := by
    decide +kernel
  exact failed unfailed

end Generator

end GatedMigration
