import GatedMigration.Proofs.Counting
import GatedMigration.Proofs.Decision
import Mathlib.Data.List.TakeWhile

/-!
# Updates of documents

An update goes over the documents of a namespace one by one and changes those that match. It ends at
the first document on which its selector fails: what is before stays changed, and the answer is only
the failure (`Store.updateMatching_fst`, `Store.updateMatching_snd`). So an update that has an
answer has changed just the documents that match, but one that fails need not have changed nothing.

* `Store.allOrNothing_iff`: when an update is all or nothing.
-/

namespace GatedMigration

/-- A document as an update leaves it: changed, if it matches. -/
def Selector.revise (sel : Selector) (change : Document → Document) (d : Document) : Document :=
  if (sel.accepts d).toOption == some true then change d else d

theorem Selector.revise_eq_iff {sel : Selector} {change : Document → Document} {d : Document} :
    sel.revise change d = d ↔ (sel.accepts d = .ok true → change d = d) := by
  unfold revise
  cases answer : sel.accepts d with
  | error e => simp [Except.toOption]
  | ok hit => cases hit <;> simp [Except.toOption]

/-- What was written for a namespace may be written again. -/
theorem PerNamespace.set_get {α : Type} [Inhabited α] {m : PerNamespace α} {ns : Namespace}
    (written : m.get ns ≠ default) : m.set ns (m.get ns) = m := by
  obtain ⟨entries⟩ := m
  refine congrArg PerNamespace.mk ?_
  replace written : lookup ns entries ≠ default := written
  show replace ns (lookup ns entries) entries = entries
  induction entries with
  | nil => exact absurd rfl written
  | cons p entries ih =>
    obtain ⟨ns', a⟩ := p
    by_cases same : ns = ns'
    · simp [replace, lookup, same]
    · simp only [lookup, same, if_false] at written
      simp [replace, lookup, same, ih written]

namespace Store

variable {sel : Selector} {change : Document → Document}

/-- The selector has an answer for a document. -/
def answers (sel : Selector) (d : Document) : Bool := (sel.accepts d).isOk

theorem answers_iff {d : Document} : answers sel d = true ↔ ∃ hit, sel.accepts d = .ok hit :=
  Selector.isOk_accepts_iff

/-- The documents are changed up to the first on which the selector fails. -/
theorem updateMatching_fst (touched : Nat) (docs : List Document) :
    (updateMatching sel change touched docs).1 =
      (docs.takeWhile (answers sel)).map (sel.revise change) ++ docs.dropWhile (answers sel) := by
  induction docs generalizing touched with
  | nil => rfl
  | cons d docs ih =>
    rw [updateMatching]
    cases answer : sel.accepts d with
    | error e =>
      have fails : answers sel d = false := by rw [answers, answer]; rfl
      simp [fails]
    | ok hit =>
      have answered : answers sel d = true := by rw [answers, answer]; rfl
      have revised : sel.revise change d = if hit then change d else d := by
        rw [Selector.revise, answer]
        cases hit <;> rfl
      simp [answered, revised, ih]

/-- The answer is the number of the documents that match, or the first failure of the selector. -/
theorem updateMatching_snd (touched : Nat) (docs : List Document) :
    match (updateMatching sel change touched docs).2 with
    | .ok n => (∀ d ∈ docs, answers sel d = true) ∧
        n = touched + (docs.filter fun d => (sel.accepts d).toOption == some true).length
    | .error e => ∃ d ∈ docs, sel.accepts d = .error e := by
  induction docs generalizing touched with
  | nil => exact ⟨List.forall_mem_nil _, rfl⟩
  | cons d docs ih =>
    rw [updateMatching]
    cases answer : sel.accepts d with
    | error e => exact ⟨d, List.mem_cons_self, answer⟩
    | ok hit =>
      have answered : answers sel d = true := by rw [answers, answer]; rfl
      have rest := ih (if hit then touched + 1 else touched)
      dsimp only
      generalize updateMatching sel change (if hit then touched + 1 else touched) docs = r at rest ⊢
      obtain ⟨_, e | n⟩ := r
      · obtain ⟨d', mem, fails⟩ := rest
        exact ⟨d', List.mem_cons_of_mem _ mem, fails⟩
      · obtain ⟨all, count⟩ := rest
        refine ⟨List.forall_mem_cons.2 ⟨answered, all⟩, ?_⟩
        rw [count, List.filter_cons, answer]
        cases hit with
        | false => rfl
        | true =>
          show touched + 1 + _ = touched + (_ + 1)
          omega

variable (s : Store) (ns : Namespace) (sel : Selector) (change : Document → Document)

/-- The documents before the first on which the selector fails. -/
def beforeFailure : List Document := (s.documents ns).takeWhile (answers sel)

/-- An update is all or nothing: either the answer is the number of the documents that match, and
just these are changed, each in its place, and nothing else; or there is a failure, and the store is
what it was before. -/
def AllOrNothing : Prop :=
  match s.updateWhere ns sel change with
  | (s', .ok n) =>
    n = (s.matching ns sel).length ∧
    s'.documents ns = (s.documents ns).map (sel.revise change) ∧
    (∀ ns', ns' ≠ ns → s'.documents ns' = s.documents ns') ∧
    { s' with collections := s.collections } = s
  | (s', .error _) => s' = s

theorem documents_setDocuments_self (docs : List Document) :
    (s.setDocuments ns docs).documents ns = docs := PerNamespace.get_set_self _ _ _

theorem updateWhere_fst : (s.updateWhere ns sel change).1 = s.setDocuments ns
    ((s.beforeFailure ns sel).map (sel.revise change) ++
      (s.documents ns).dropWhile (answers sel)) := by
  rw [beforeFailure, ← updateMatching_fst 0]
  rfl

theorem updateWhere_documents : (s.updateWhere ns sel change).1.documents ns =
    (s.beforeFailure ns sel).map (sel.revise change) ++
      (s.documents ns).dropWhile (answers sel) := by
  rw [updateWhere_fst, documents_setDocuments_self]

/-- Whatever becomes of an update, it touches nothing but the documents of its namespace. -/
theorem updateWhere_frame :
    (∀ ns', ns' ≠ ns → (s.updateWhere ns sel change).1.documents ns' = s.documents ns') ∧
      { (s.updateWhere ns sel change).1 with collections := s.collections } = s := by
  rw [updateWhere_fst]
  exact ⟨fun ns' other => PerNamespace.get_set_of_ne _ other _, rfl⟩

/-- Documents that are all changed into themselves are put back, and the store is what it was. -/
theorem updateWhere_fst_eq_iff (some : s.documents ns ≠ []) :
    (s.updateWhere ns sel change).1 = s ↔
      ∀ d ∈ s.beforeFailure ns sel, sel.revise change d = d := by
  have parts : s.beforeFailure ns sel ++ (s.documents ns).dropWhile (answers sel) =
      s.documents ns := List.takeWhile_append_dropWhile
  constructor
  · intro same d mem
    have documents := s.updateWhere_documents ns sel change
    rw [same] at documents
    have unchanged := List.append_cancel_right (documents.symm.trans parts.symm)
    exact List.map_inj_left.1 (unchanged.trans (List.map_id' _).symm) d mem
  · intro same
    rw [updateWhere_fst, List.map_congr_left same, List.map_id', parts]
    exact congrArg (fun c => { s with collections := c }) (PerNamespace.set_get some)

theorem updateWhere_snd :
    match (s.updateWhere ns sel change).2 with
    | .ok n => (∀ d ∈ s.documents ns, answers sel d = true) ∧ n = (s.matching ns sel).length
    | .error _ => ∃ d ∈ s.documents ns, ∃ e, sel.accepts d = .error e := by
  have ends := @updateMatching_snd sel change 0 (s.documents ns)
  unfold updateWhere
  generalize updateMatching sel change 0 (s.documents ns) = r at ends ⊢
  obtain ⟨_, e | n⟩ := r
  · obtain ⟨d, mem, fails⟩ := ends
    exact ⟨d, mem, e, fails⟩
  · obtain ⟨all, count⟩ := ends
    exact ⟨all, count.trans (Nat.zero_add _)⟩

/-- An update has an answer just if its selector has one for each of the documents. It changes the
documents that match before the first on which the selector fails, and no others. So it is all or
nothing if the selector does not fail, or if whatever matches before its failure is changed into
itself; otherwise it is not. -/
theorem allOrNothing_iff :
    (s.AllOrNothing ns sel change ↔
      (∀ d ∈ s.documents ns, ∃ hit, sel.accepts d = .ok hit) ∨
        ∀ d ∈ s.beforeFailure ns sel, sel.accepts d = .ok true → change d = d) ∧
    ((∃ n, (s.updateWhere ns sel change).2 = .ok n) ↔
      ∀ d ∈ s.documents ns, ∃ hit, sel.accepts d = .ok hit) ∧
    (s.updateWhere ns sel change).1.documents ns =
      (s.beforeFailure ns sel).map (sel.revise change) ++
        (s.documents ns).dropWhile (answers sel) := by
  have documents := s.updateWhere_documents ns sel change
  have unchanged := s.updateWhere_fst_eq_iff ns sel change
  have frame := s.updateWhere_frame ns sel change
  have ends := s.updateWhere_snd ns sel change
  simp only [Selector.revise_eq_iff] at unchanged
  simp only [answers_iff] at ends
  unfold AllOrNothing
  generalize s.updateWhere ns sel change = r at *
  obtain ⟨s', e | n⟩ := r
  · obtain ⟨d, mem, e', fails⟩ := ends
    have not_all : ¬∀ d ∈ s.documents ns, ∃ hit, sel.accepts d = .ok hit := by
      intro all
      obtain ⟨hit, answer⟩ := all d mem
      cases fails.symm.trans answer
    refine ⟨?_, iff_of_false (fun ⟨_, h⟩ => by cases h) not_all, documents⟩
    rw [or_iff_right not_all]
    -- The namespace is not empty, or else there were no document to fail on.
    exact unchanged (List.ne_nil_of_mem mem)
  · obtain ⟨all, count⟩ := ends
    have answered (d : Document) (mem : d ∈ s.documents ns) : answers sel d = true :=
      answers_iff.2 (all d mem)
    have every : s'.documents ns = (s.documents ns).map (sel.revise change) := by
      have before : s.beforeFailure ns sel = s.documents ns := List.takeWhile_eq_self_iff.2 answered
      have rest : (s.documents ns).dropWhile (answers sel) = [] :=
        List.dropWhile_eq_nil_iff.2 answered
      rw [documents, before, rest, List.append_nil]
    exact ⟨iff_of_true ⟨count, every, frame⟩ (Or.inl all), iff_of_true ⟨n, rfl⟩ all, documents⟩

/-- The first place matches and is changed. Then the selector fails on the second, and the answer
does not tell that anything was changed. -/
theorem first_place_stays_changed :
    let places : Namespace := ⟨"db", "places"⟩
    let change := Keyed.insert "seen" (Value.bool true)
    let after := Sample.twoPlaces.store.updateWhere places Sample.doneOrNear change
    ¬Sample.twoPlaces.store.AllOrNothing places Sample.doneOrNear change ∧
    after.2 = .error (.query "unsupported selector operator $near") ∧
    Sample.twoPlaces.store.documents places =
      [[("_id", .int 1), ("done", .bool true)], [("_id", .int 2)]] ∧
    after.1.documents places =
      [[("_id", .int 1), ("done", .bool true), ("seen", .bool true)], [("_id", .int 2)]] := by
  intro places change after
  have answer : after.2 = .error (.query "unsupported selector operator $near") := rfl
  have before : Sample.twoPlaces.store.documents places =
      [[("_id", .int 1), ("done", .bool true)], [("_id", .int 2)]] := rfl
  have changed : after.1.documents places =
      [[("_id", .int 1), ("done", .bool true), ("seen", .bool true)], [("_id", .int 2)]] := rfl
  refine ⟨fun restored => ?_, answer, before, changed⟩
  have same : after.1 = Sample.twoPlaces.store := restored
  rw [same, before] at changed
  cases changed

end Store

end GatedMigration
