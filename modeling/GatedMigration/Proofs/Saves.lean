import GatedMigration.Proofs.Frames

/-!
# What is saved from one world to another

`w.Saves ns rs w'` says that the world went from `w` to `w'` and that exactly the records `rs` were
saved in the namespace `ns` on the way, the latest first: the book of the namespace has them
written over what it held, and the journal says so. Everything that a run does to the world saves
nothing (`World.saves_frame`) or a single record (`World.saveRecord_cases`,
`Evaluation.saved_cases`).

* `Saves.find?_of_mem`, `Saves.find?_of_notMem`: what a book holds after records with different
  identifiers were saved.
-/

namespace GatedMigration

/-- The record that an event says was saved. -/
def Event.saved? : Event → Option CompletionRecord
  | recorded r => some r
  | _ => none

/-- Records written into a book, the last of the list first. -/
def RecordBook.putAll (b : RecordBook) (rs : List CompletionRecord) : RecordBook :=
  rs.foldr (fun r b => b.put r) b

/-- From `w` to `w'` the records `rs` were saved in a namespace, the latest first. -/
structure World.Saves (ns : Namespace) (rs : List CompletionRecord) (w w' : World) : Prop where
  book : w'.store.recordsOf.get ns = (w.store.recordsOf.get ns).putAll rs
  journal : ∃ es, w'.journal = es ++ w.journal ∧ es.filterMap Event.saved? = rs

namespace RecordBook

theorem putAll_append (b : RecordBook) (rs rs' : List CompletionRecord) :
    b.putAll (rs ++ rs') = (b.putAll rs').putAll rs := by
  simp only [putAll, List.foldr_append]

theorem find?_putAll_of_notMem (b : RecordBook) {rs : List CompletionRecord} {id : Identifier}
    (h : id ∉ rs.map CompletionRecord.id) : (b.putAll rs).find? id = b.find? id := by
  induction rs with
  | nil => rfl
  | cons r rs ih =>
    simp only [List.map_cons, List.mem_cons, not_or] at h
    show ((b.putAll rs).put r).find? id = _
    rw [find?_put_of_ne _ h.1, ih h.2]

theorem find?_putAll_of_mem (b : RecordBook) {rs : List CompletionRecord}
    (distinct : (rs.map CompletionRecord.id).Nodup) {r : CompletionRecord} (h : r ∈ rs) :
    (b.putAll rs).find? r.id = some r := by
  induction rs with
  | nil => cases h
  | cons r' rs ih =>
    obtain ⟨new, distinct⟩ := List.nodup_cons.1 distinct
    show ((b.putAll rs).put r').find? r.id = _
    rcases List.mem_cons.1 h with rfl | h
    · exact find?_put_self _ _
    · have hne : r.id ≠ r'.id := fun e => new (e ▸ List.mem_map_of_mem h)
      rw [find?_put_of_ne _ hne, ih distinct h]

theorem mem_toList {b : RecordBook} {r : CompletionRecord} :
    r ∈ b.toList ↔ b.find? r.id = some r := by
  constructor
  · intro h
    obtain ⟨⟨id, r'⟩, hmem, rfl⟩ := List.mem_map.1 h
    have found := Keyed.find?_of_mem b.entries.ascending hmem
    obtain rfl : r'.id = id := b.filed found
    exact found
  · intro h
    exact List.mem_map.2 ⟨(r.id, r), Keyed.mem_of_find?_eq_some h, rfl⟩

end RecordBook

namespace World

namespace Saves

variable {ns : Namespace} {rs rs' : List CompletionRecord} {w w' w'' : World}

theorem refl (ns : Namespace) (w : World) : Saves ns [] w w := ⟨rfl, [], rfl, rfl⟩

theorem trans (h : Saves ns rs w w') (k : Saves ns rs' w' w'') : Saves ns (rs' ++ rs) w w'' := by
  obtain ⟨book, es, journal, saved⟩ := h
  obtain ⟨book', es', journal', saved'⟩ := k
  refine ⟨?_, es' ++ es, ?_, ?_⟩
  · rw [book', book, RecordBook.putAll_append]
  · rw [journal', journal, List.append_assoc]
  · rw [List.filterMap_append, saved, saved']

/-- Nothing was saved before. -/
theorem after (h : Saves ns rs w' w'') (k : Saves ns [] w w') : Saves ns rs w w'' := by
  simpa using k.trans h

/-- Nothing is saved afterwards. -/
theorem before (h : Saves ns rs w w') (k : Saves ns [] w' w'') : Saves ns rs w w'' := h.trans k

/-- The book and the journal are all that counts. -/
theorem of_eq (book : w'.store.recordsOf = w.store.recordsOf) (journal : w'.journal = w.journal) :
    Saves ns [] w w' :=
  ⟨by rw [book]; rfl, [], journal, rfl⟩

theorem find?_of_mem (h : Saves ns rs w w') (distinct : (rs.map CompletionRecord.id).Nodup)
    {r : CompletionRecord} (hr : r ∈ rs) : w'.store.record? ns r.id = some r := by
  show (w'.store.recordsOf.get ns).find? r.id = _
  rw [h.book, RecordBook.find?_putAll_of_mem _ distinct hr]

theorem find?_of_notMem (h : Saves ns rs w w') {id : Identifier}
    (hid : id ∉ rs.map CompletionRecord.id) :
    w'.store.record? ns id = w.store.record? ns id := by
  show (w'.store.recordsOf.get ns).find? id = _
  rw [h.book, RecordBook.find?_putAll_of_notMem _ hid]
  rfl

end Saves

/-! ## What saves nothing -/

variable (ns : Namespace)

theorem saves_warn (w : World) (x : Warning) : Saves ns [] w (w.warn x) :=
  ⟨rfl, [.warned x], rfl, rfl⟩

theorem saves_warnAll (w : World) (xs : List Warning) : Saves ns [] w (w.warnAll xs) := by
  induction xs generalizing w with
  | nil => exact .refl ns w
  | cons x xs ih => exact (ih (w.warn x)).after (saves_warn ns w x)

/-- Waits, queries and warnings save nothing. -/
theorem saves_frame : Frame (Saves ns []) where
  trans h k := h.before k
  yield w := by
    unfold yield
    split
    · exact .refl ns w
    · dsimp only
      split <;> exact .of_eq rfl rfl
  turn w := by
    unfold takeTurn
    split <;> exact .of_eq rfl rfl
  clock _ _ := .of_eq rfl rfl
  warn := saves_warn ns
  counters _ _ := .of_eq rfl rfl
  cursors _ _ := .of_eq rfl rfl

theorem saves_yield (w : World) : Saves ns [] w w.yield := (saves_frame ns).yield w

theorem saves_takeTurn (w : World) : Saves ns [] w w.takeTurn.2 := (saves_frame ns).turn w

/-! ## What saves a record -/

/-- How a call that writes a record ends: the record is in the book, or the call has failed and
nothing is written. -/
def Writes (r : CompletionRecord) (w : World) (p : World × Except StoreFailure Unit) : Prop :=
  (p.2 = .ok () ∧ p.1.store.recordsOf.get ns = (w.store.recordsOf.get ns).put r ∧
      p.1.journal = w.journal) ∨
    ∃ e, p.2 = .error e ∧ Saves ns [] w p.1

theorem finish_writes {s now : Store} (r : CompletionRecord) (w : World) (t : Nat)
    (same : now.recordsOf = w.store.recordsOf) :
    Writes ns r w ({ w with clock := t, store := ((s.upsertRecord ns r).finish now).1 },
      ((s.upsertRecord ns r).finish now).2) := by
  unfold Store.upsertRecord
  dsimp only
  split
  · exact Or.inl ⟨rfl, (PerNamespace.get_set_self _ _ _).trans (by rw [same]), rfl⟩
  · exact Or.inr ⟨_, rfl, .of_eq same rfl⟩

theorem upsertRecord_writes (w : World) (r : CompletionRecord) :
    Writes ns r w (w.guard (w.store.upsertRecord ns r)) := by
  rcases w.guard_cases (w.store.upsertRecord ns r) with ⟨t, e, failed, h | h⟩ | ⟨t, h⟩
  · exact Or.inr ⟨e, failed, by rw [h]; exact .of_eq rfl rfl⟩
  · exact Or.inr ⟨e, failed, by rw [h]; exact .of_eq rfl rfl⟩
  · rw [h]
    exact finish_writes ns r w t rfl

theorem finishMigration_cases (w : World) (id group : Identifier) (hasErrors : Bool) :
    ((w.finishMigration ns id group hasErrors).2 = .ok () ∧
      Saves ns [.finished id group hasErrors] w (w.finishMigration ns id group hasErrors).1) ∨
    ∃ e, (w.finishMigration ns id group hasErrors).2 = .error e ∧
      Saves ns [] w (w.finishMigration ns id group hasErrors).1 := by
  have turn := saves_yield ns w
  unfold finishMigration
  dsimp only
  rcases upsertRecord_writes ns w.yield (.finished id group hasErrors) with
    ⟨ok, book, journal⟩ | ⟨e, failed, quiet⟩
  · generalize w.yield.guard _ = p at *
    obtain ⟨w', _⟩ := p
    cases ok
    refine Or.inl ⟨rfl, Saves.after ⟨?_, [.recorded (.finished id group hasErrors)], ?_, rfl⟩ turn⟩
    · exact book
    · show _ :: w'.journal = _
      rw [show w'.journal = w.yield.journal from journal]
      rfl
  · generalize w.yield.guard _ = p at *
    obtain ⟨w', _⟩ := p
    cases failed
    exact Or.inr ⟨e, rfl, quiet.after turn⟩

/-- The record is saved, or the write has failed and left an error, or the run is cancelled. -/
theorem saveRecord_cases (w : World) (id group : Identifier) (hasErrors : Bool) :
    ((w.saveRecord ns id group hasErrors).2 = some [] ∧
      Saves ns [.finished id group hasErrors] w (w.saveRecord ns id group hasErrors).1) ∨
    ((∃ text, (w.saveRecord ns id group hasErrors).2 = some [text]) ∧
      Saves ns [] w (w.saveRecord ns id group hasErrors).1) ∨
    ((w.saveRecord ns id group hasErrors).2 = none ∧
      Saves ns [] w (w.saveRecord ns id group hasErrors).1) := by
  unfold saveRecord
  rcases finishMigration_cases ns w id group hasErrors with ⟨ok, saves⟩ | ⟨e, failed, quiet⟩
  · generalize w.finishMigration ns id group hasErrors = p at *
    obtain ⟨w', _⟩ := p
    cases ok
    exact Or.inl ⟨rfl, saves⟩
  · generalize w.finishMigration ns id group hasErrors = p at *
    obtain ⟨w', _⟩ := p
    cases failed
    refine Or.inr ?_
    by_cases canceled : e = .canceled
    · subst canceled
      exact Or.inr ⟨rfl, quiet⟩
    · refine Or.inl ⟨⟨e.message, ?_⟩, ?_⟩ <;> cases e <;>
        first | exact absurd rfl canceled | exact rfl | exact quiet.before (saves_warn ns w' _)

end World

namespace Evaluation

variable {env : Environment} {t : Task} {ending : Ending} {w : World}

/-- The record of a task is saved with the step that ends its evaluation, or the write has failed
and left an error, or the run is cancelled. -/
theorem saved_cases {p : World × Except StoreFailure Unit}
    (ended : World.Writes env.metadata (record t ending) w p) :
    ((saved t ending p).2 = .inr (ending.verdict []) ∧
      World.Saves env.metadata [record t ending] w (saved t ending p).1) ∨
    ((∃ text, (saved t ending p).2 = .inr (ending.verdict [text])) ∧
      World.Saves env.metadata [] w (saved t ending p).1) ∨
    ((saved t ending p).2 = .inr .canceled ∧
      World.Saves env.metadata [] w (saved t ending p).1) := by
  obtain ⟨w', _⟩ := p
  rcases ended with ⟨rfl, book, journal⟩ | ⟨e, rfl, quiet⟩
  · refine Or.inl ⟨rfl, ?_, [.recorded (record t ending)], ?_, rfl⟩
    · exact book
    · exact congrArg (_ :: ·) journal
  · refine Or.inr ?_
    by_cases canceled : e = .canceled
    · subst canceled
      exact Or.inr ⟨rfl, quiet⟩
    · refine Or.inl ⟨⟨e.message, ?_⟩, ?_⟩ <;> cases e <;>
        first | exact absurd rfl canceled | exact rfl |
          exact quiet.before (World.saves_warn _ w' _)

theorem complete_writes (w : World) (q : World.Underway) :
    World.Writes env.metadata (record t ending) w (w.complete (save env t ending) q) := by
  rcases w.complete_cases (save env t ending) q with ⟨c, e, h⟩ | ⟨c, h⟩
  · rw [h]
    exact Or.inr ⟨e, rfl, .of_eq rfl rfl⟩
  · rw [h]
    exact World.finish_writes _ _ w c rfl

end Evaluation

end GatedMigration
