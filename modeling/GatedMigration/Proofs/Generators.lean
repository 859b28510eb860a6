import GatedMigration.Proofs.Saves

/-!
# What generators hand out

However a generator was used before (`Generator.Made`), the tasks that it keeps are tasks of its own
migration (`Made.sound`). The identifiers of tasks have a dot in them, so those of migrations
without one are never the same (`Plain.ne_childId`), and different migrations have different tasks
(`Plain.childId_inj`).
-/

namespace GatedMigration

/-- An identifier without a dot. -/
def Plain (id : Identifier) : Prop := '.' ∉ id.toList

instance (id : Identifier) : Decidable (Plain id) := inferInstanceAs (Decidable (_ ∉ _))

theorem Plain.ne_childId {id : Identifier} (h : Plain id) (migration : Identifier)
    (documentId : Value) (ordinal : Nat) : id ≠ childId migration documentId ordinal := by
  intro e
  apply h
  rw [e, childId]
  simp only [String.toList_append, List.mem_append]
  exact Or.inl (Or.inl (Or.inl (Or.inr (by decide))))

theorem childId_toList (a : Identifier) (d : Value) (n : Nat) : (childId a d n).toList =
    a.toList ++ '.' :: (d.display.toList ++ '.' :: Nat.toDigits 10 n) := by
  have dot : ".".toList = ['.'] := by decide
  have digits : (toString n).toList = Nat.toDigits 10 n := String.toList_ofList
  simp only [childId, String.toList_append, dot, digits, List.append_assoc, List.cons_append,
    List.nil_append]

/-- Between the dots of a task's identifier stand the pieces of its migration's, those of the text
of its document, and its number. -/
theorem pieces_childId (a : Identifier) (d : Value) (n : Nat) :
    pieces (· == '.') (childId a d n).toList = pieces (· == '.') a.toList ++
      (pieces (· == '.') d.display.toList ++ [Nat.toDigits 10 n]) := by
  have digits : '.' ∉ Nat.toDigits 10 n := fun mem =>
    absurd (Nat.isDigit_of_mem_toDigits (by decide) (by decide) mem) (by decide)
  rw [childId_toList, pieces_append (· == '.') rfl, pieces_append (· == '.') rfl,
    pieces_of_not_mem digits]

/-- The identifier of a task tells that of its migration: it is what stands before the first
dot. -/
theorem Plain.childId_inj {id id' : Identifier} (h : Plain id) (h' : Plain id') {d d' : Value}
    {n n' : Nat} (e : childId id d n = childId id' d' n') : id = id' := by
  have parts := congrArg (fun id : Identifier => pieces (· == '.') id.toList) e
  rw [pieces_childId, pieces_childId, pieces_of_not_mem h, pieces_of_not_mem h'] at parts
  exact String.toList_inj.1 (List.cons.inj parts).1

namespace Generator

/-- A generator as it can come about: it is made from a migration, scans, and hands out its
tasks. -/
inductive Made : Generator → Prop where
  | new (m : Migration) : Made (Generator.new m)
  | run {g : Generator} (h : Made g) (env : Environment) (w : World) : Made (g.run env w).2.1
  | jobs {g : Generator} (h : Made g) : Made g.jobs.2

/-- The tasks that are kept are those of the migration. -/
def Sound (g : Generator) : Prop := ∀ t ∈ g.buffered, ∃ d n, t = g.task d n

/-- The tasks of a generator depend on its migration alone. -/
theorem task_congr {g g' : Generator} (h : g'.migration = g.migration) : g'.task = g.task := by
  funext d n
  simp only [task, id, oracle, h]

/-! ## Scans -/

theorem collect_tasks (g : Generator) (c : Cursor Value) (items : List Value) (produced : Nat)
    (w : World) : ∀ t ∈ (g.collect c items produced w).2.1, ∃ d n, t = g.task d n := by
  induction items generalizing produced w with
  | nil =>
    intro t mem
    rw [collect] at mem
    split at mem
    · cases mem
    · split at mem <;> cases mem
  | cons d items ih =>
    intro t mem
    rw [collect] at mem
    split at mem
    · cases mem
    split at mem
    · cases mem
    dsimp only at mem
    split at mem
    · cases mem
    rcases List.mem_cons.1 mem with rfl | mem
    · exact ⟨d, produced, rfl⟩
    · exact ih _ _ t mem

theorem scan_tasks (g : Generator) (env : Environment) (w : World) :
    ∀ t ∈ (g.scan env w).2.1, ∃ d n, t = g.task d n := by
  intro t mem
  unfold scan at mem
  dsimp only at mem
  split at mem
  · cases mem
  · exact collect_tasks g _ _ _ _ t mem

/-! ## Use -/

/-- A scan keeps the migration and adds tasks of it. -/
theorem run_buffered (g : Generator) (env : Environment) (w : World) :
    (g.run env w).2.1.migration = g.migration ∧
      (g.run env w).2.1.buffered = g.buffered ++ (g.scan env w).2.1 := by
  unfold run
  dsimp only
  split <;> exact ⟨rfl, rfl⟩

theorem run_saves (ns : Namespace) (g : Generator) (env : Environment) (w : World) :
    World.Saves ns [] w (g.run env w).1 := by
  refine World.Saves.after ?_ (g.scan_frame (World.saves_frame ns) env w)
  unfold run
  dsimp only
  split
  · exact .of_eq rfl rfl
  · exact World.Saves.after (World.saves_warn ns _ _) (.of_eq rfl rfl)

theorem Sound.run {g : Generator} (h : g.Sound) (env : Environment) (w : World) :
    (g.run env w).2.1.Sound := by
  obtain ⟨migration, buffered⟩ := g.run_buffered env w
  intro t mem
  rw [task_congr migration]
  rw [buffered] at mem
  rcases List.mem_append.1 mem with mem | mem
  · exact h t mem
  · exact g.scan_tasks env w t mem

theorem Sound.jobs (g : Generator) : g.jobs.2.Sound := fun _ mem => absurd mem List.not_mem_nil

theorem Made.sound {g : Generator} (h : g.Made) : g.Sound := by
  induction h with
  | new m => exact fun _ mem => absurd mem List.not_mem_nil
  | run _ env w ih => exact ih.run env w
  | jobs _ _ => exact Sound.jobs _

end Generator

end GatedMigration
