import GatedMigration.Proofs.Scans

/-!
# Counting and finding

A store counts the documents that match a selector, and it finds their identifying values. Both go
over the documents one by one, up to the first on which the selector fails; whoever finds may have
enough before that. So what is counted is found (`Store.findMatching_of_counted`), and where nothing
can be counted, there is the same failure or enough was found before
(`Store.findMatching_of_uncounted`).

* `World.found_as_counted`: what the cursors of a store without faults yield, by what it counts.
-/

namespace GatedMigration

/-! ## Cursors that are read to their end -/

namespace Cursor

variable {α : Type} {c : Cursor α}

/-- The items of a cursor that is asked for one after the other up to its end, or its failure. -/
def drain (c : Cursor α) : Except StoreFailure (List α) :=
  match _next : c.next with
  | .error e => .error e
  | .ok (none, _) => .ok []
  | .ok (some a, rest) => rest.drain.map (a :: ·)
termination_by c.items.length
decreasing_by
  rw [items_of_next _next]
  exact Nat.lt_succ_self _

theorem drain_eq (c : Cursor α) :
    c.drain = match c.next with
      | .error e => .error e
      | .ok (none, _) => .ok []
      | .ok (some a, rest) => rest.drain.map (a :: ·) := by
  rw [drain]
  split <;> simp only [*]

/-- A cursor that does not fail yields all of its items. -/
theorem drain_of_sound (sound : c.failsAfter = none) : c.drain = .ok c.items := by
  induction items : c.items generalizing c with
  | nil =>
    have next : c.next = .ok (none, c) := by
      simp only [next, failure?, sound, items]
    rw [drain_eq, next]
  | cons a rest ih =>
    have next : c.next = .ok (some a, c.advance rest) := by
      simp only [next, failure?, sound, items]
    have later : (c.advance rest).drain = .ok rest := ih sound rfl
    rw [drain_eq, next]
    simp only [later]
    rfl

/-- A query has succeeded, and its cursor yields some items up to its end. -/
def Yields (answer : Except StoreFailure (Cursor α)) (items : List α) : Prop :=
  ∃ c, answer = .ok c ∧ c.drain = .ok items

end Cursor

/-! ## The two ways over the documents -/

namespace Store

variable {sel : Selector} {docs : List Document}

theorem findMatching_cons {bound : Option Nat} (room : bound ≠ some 0) (d : Document) :
    findMatching sel bound (d :: docs) = match sel.accepts d with
      | .error e => .error e
      | .ok true => (findMatching sel (bound.map (· - 1)) docs).map (Document.id d :: ·)
      | .ok false => findMatching sel bound docs := by
  cases bound with
  | none => rfl
  | some k =>
    cases k with
    | zero => exact absurd rfl room
    | succ k => rfl

/-- What can be counted are the documents that match. -/
theorem length_of_counted {n : Nat} (counted : countMatching sel docs = .ok n) :
    (docs.filter fun d => (sel.accepts d).toOption == some true).length = n := by
  induction docs generalizing n with
  | nil =>
    rw [countMatching] at counted
    exact Except.ok.inj counted
  | cons d docs ih =>
    rw [countMatching] at counted
    cases answer : sel.accepts d with
    | error e => simp [answer] at counted
    | ok hit =>
      cases rest : countMatching sel docs with
      | error e => simp [answer, rest, Except.map] at counted
      | ok m =>
        have counted : (if hit then m + 1 else m) = n := by
          simpa [answer, rest, Except.map] using counted
        have later := ih rest
        rw [List.filter_cons, answer, ← counted]
        cases hit with
        | false => exact later
        | true => exact congrArg Nat.succ later

/-- What can be counted is found, as much of it as there may be. -/
theorem findMatching_of_counted {n : Nat} (counted : countMatching sel docs = .ok n)
    (bound : Option Nat) : ∃ ids, findMatching sel bound docs = .ok ids := by
  induction docs generalizing n bound with
  | nil => exact ⟨[], by unfold findMatching; split <;> trivial⟩
  | cons d docs ih =>
    by_cases full : bound = some 0
    · exact ⟨[], by rw [full, findMatching]⟩
    rw [countMatching] at counted
    rw [findMatching_cons full]
    cases answer : sel.accepts d with
    | error e => simp [answer] at counted
    | ok hit =>
      cases rest : countMatching sel docs with
      | error e => simp [answer, rest, Except.map] at counted
      | ok m =>
        cases hit with
        | false => exact ih rest bound
        | true =>
          obtain ⟨ids, found⟩ := ih rest (bound.map (· - 1))
          exact ⟨Document.id d :: ids, by simp only [found]; rfl⟩

/-- Where nothing can be counted, nothing is found for the same reason, unless there are enough
documents that match before the one on which the selector fails. -/
theorem findMatching_of_uncounted {e : SelectorError}
    (failed : countMatching sel docs = .error e) (bound : Option Nat) :
    findMatching sel bound docs = .error e ∨
      ∃ k ids, bound = some k ∧ findMatching sel bound docs = .ok ids ∧ ids.length = k := by
  induction docs generalizing bound with
  | nil => cases failed
  | cons d docs ih =>
    by_cases full : bound = some 0
    · exact Or.inr ⟨0, [], full, by rw [full, findMatching], rfl⟩
    rw [countMatching] at failed
    rw [findMatching_cons full]
    cases answer : sel.accepts d with
    | error e' =>
      simp only [answer] at failed
      cases failed
      exact Or.inl rfl
    | ok hit =>
      cases rest : countMatching sel docs with
      | ok m => simp [answer, rest, Except.map] at failed
      | error e' =>
        simp only [answer, rest] at failed
        cases failed
        cases hit with
        | false => exact ih rest bound
        | true =>
          rcases ih rest (bound.map (· - 1)) with same | ⟨k, ids, room, found, enough⟩
          · refine Or.inl ?_
            simp only [same]
            rfl
          · obtain ⟨b, rfl, less⟩ := Option.map_eq_some_iff.1 room
            have some : b ≠ 0 := fun none => full (congrArg Option.some none)
            refine Or.inr ⟨b, Document.id d :: ids, rfl, ?_, ?_⟩
            · simp only [found]
              rfl
            · rw [List.length_cons]
              omega

end Store

/-! ## What a store without faults answers -/

/-- The calls that are about documents do not fail for faults. They may take time, and other calls
may fail. -/
structure Faults.SpareDocuments (f : Faults) : Prop where
  reachable : f.unreachable = none
  count : f.countError = none
  find : f.findError = none
  cursor : f.findCursorFailsAfter = none

namespace World

variable {w : World} (spared : w.store.faults.SpareDocuments) (ns : Namespace) (sel : Selector)

include spared

theorem await_count : (w.await (w.store.count ns sel)).2 =
    Store.reported (Store.countMatching sel (w.store.documents ns)) := by
  show Store.underFaults _ _ _ = _
  simp only [Store.underFaults, spared.reachable, spared.count, Option.map_none]
  rfl

theorem await_findIds (limit : Option Nat) : (w.await (w.store.findIds ns sel limit)).2 =
    (Store.reported (Store.findMatching sel limit (w.store.documents ns))).map
      fun ids => Cursor.ofItems ids none w.store.faults.latency := by
  show (Store.handOut _ (Store.underFaults _ _ _) _ _).2 = _
  simp only [Store.underFaults, spared.reachable, spared.find, spared.cursor, Option.map_none]
  show (Store.handOut _ (Store.reported (Store.findMatching sel limit (w.store.documents ns))) _
    _).2 = _
  cases Store.findMatching sel limit (w.store.documents ns) <;> rfl

theorem yields_of_found {limit : Option Nat} {ids : List Value}
    (found : Store.findMatching sel limit (w.store.documents ns) = .ok ids) :
    Cursor.Yields (w.await (w.store.findIds ns sel limit)).2 ids := by
  rw [await_findIds spared, found]
  exact ⟨_, rfl, Cursor.drain_of_sound rfl⟩

/-- If the documents that match can be counted, they are found: a query without a limit yields the
identifying value of each, in the order of their insertion, and a query with a limit the first of
these. If they cannot be counted, a query without a limit fails for the same reason, and so does one
with a limit unless it finds as many documents as it may. -/
theorem found_as_counted :
    let ids := (w.store.matching ns sel).map Document.id
    match (w.await (w.store.count ns sel)).2 with
    | .ok n =>
      ids.length = n ∧ Cursor.Yields (w.await (w.store.findIds ns sel none)).2 ids ∧
      ∀ k, Cursor.Yields (w.await (w.store.findIds ns sel (some k))).2 (ids.take (min k n))
    | .error e =>
      (w.await (w.store.findIds ns sel none)).2 = .error e ∧
      ∀ k, (w.await (w.store.findIds ns sel (some k))).2 = .error e ∨
        (ids.take k).length = k ∧
          Cursor.Yields (w.await (w.store.findIds ns sel (some k))).2 (ids.take k) := by
  intro ids
  have first {limit : Option Nat} {found : List Value}
      (h : Store.findMatching sel limit (w.store.documents ns) = .ok found) :
      found = upTo limit ids := by
    rw [← map_upTo]
    exact Store.findMatching_ok h
  rw [await_count spared]
  cases counted : Store.countMatching sel (w.store.documents ns) with
  | ok n =>
    have all : ids.length = n := (List.length_map _).trans (Store.length_of_counted counted)
    have yields (limit : Option Nat) :
        Cursor.Yields (w.await (w.store.findIds ns sel limit)).2 (upTo limit ids) := by
      obtain ⟨found, h⟩ := Store.findMatching_of_counted counted limit
      rw [← first h]
      exact yields_of_found spared ns sel h
    refine ⟨all, yields none, fun k => ?_⟩
    have bounded : ids.take (min k n) = upTo (some k) ids := by
      rw [← all, ← List.take_eq_take_min]
      rfl
    rw [bounded]
    exact yields (some k)
  | error e =>
    have fails {limit : Option Nat}
        (h : Store.findMatching sel limit (w.store.documents ns) = .error e) :
        (w.await (w.store.findIds ns sel limit)).2 = .error (.query e.message) := by
      rw [await_findIds spared, h]
      rfl
    refine ⟨?_, fun k => ?_⟩
    · rcases Store.findMatching_of_uncounted counted none with same | ⟨k, -, bound, -⟩
      · exact fails same
      · cases bound
    · rcases Store.findMatching_of_uncounted counted (some k) with
        same | ⟨k', found, bound, h, enough⟩
      · exact Or.inl (fails same)
      · obtain rfl : k = k' := Option.some.inj bound
        obtain rfl : found = ids.take k := first h
        exact Or.inr ⟨enough, yields_of_found spared ns sel h⟩

end World

namespace Sample

/-- The places that are done or near something, which is not supported. -/
def doneOrNear : Selector :=
  ⟨[("$or", .array [.map [("done", .bool true)], .map [("where", .map [("$near", .int 1)])]])]⟩

/-- A place that is done, and one that is not. -/
def twoPlaces : World :=
  { World.initial with
    store := Store.empty.insertMany ⟨"db", "places"⟩
      [[("_id", .int 1), ("done", .bool true)], [("_id", .int 2)]] }

end Sample

namespace World

/-- The selector fails on the second place, so that nothing can be counted; whoever wants one place
gets the first. -/
theorem first_place_found :
    Sample.twoPlaces.store.faults.SpareDocuments ∧
    (Sample.twoPlaces.await (Sample.twoPlaces.store.count ⟨"db", "places"⟩ Sample.doneOrNear)).2 =
      .error (.query "unsupported selector operator $near") ∧
    (Sample.twoPlaces.await
      (Sample.twoPlaces.store.findIds ⟨"db", "places"⟩ Sample.doneOrNear none)).2 =
      .error (.query "unsupported selector operator $near") ∧
    Cursor.Yields (Sample.twoPlaces.await
      (Sample.twoPlaces.store.findIds ⟨"db", "places"⟩ Sample.doneOrNear (some 1))).2 [.int 1] := by
  have spared : Sample.twoPlaces.store.faults.SpareDocuments := ⟨rfl, rfl, rfl, rfl⟩
  have counted : (Sample.twoPlaces.await
      (Sample.twoPlaces.store.count ⟨"db", "places"⟩ Sample.doneOrNear)).2 =
      .error (.query "unsupported selector operator $near") := rfl
  have agree := found_as_counted spared ⟨"db", "places"⟩ Sample.doneOrNear
  rw [counted] at agree
  refine ⟨spared, counted, agree.1, ?_⟩
  exact (agree.2 1).elim (fun failed => by cases failed) And.right

end World

end GatedMigration
