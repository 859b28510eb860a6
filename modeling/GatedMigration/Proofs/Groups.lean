import GatedMigration.Proofs.Application

/-!
# The groups of a run

Apart from operations, which may do anything, nothing in a run touches the dependency graph but the
scans: whatever waits, asks the store or saves a record leaves the graph as it is
(`World.graph_frame`), and a scan puts its tasks into the group of its migration
(`Generator.run_graph`).

* `Moment.next_graph`: the graph after a step of a run that is not a part of an operation.
* `Moment.not_meddles`: operations that leave the graph as it is do not change the groups.
* `World.prepare_getGroup`: the preparation of a run leaves the groups as they are.
-/

namespace GatedMigration

/-- Nothing that is asked, noted or recorded changes the graph. -/
theorem World.graph_frame : World.RecordFrame fun w w' => w'.graph = w.graph where
  trans h k := k.trans h
  yield w := by
    unfold yield
    split
    · rfl
    · dsimp only
      split <;> rfl
  turn w := by
    unfold takeTurn
    split <;> rfl
  clock _ _ := rfl
  warn _ _ := rfl
  counters _ _ := rfl
  cursors _ _ := rfl
  note _ _ _ := rfl
  putRecord _ _ _ := rfl

/-- A scan puts its tasks into the group of its migration. -/
theorem Generator.run_graph (g : Generator) (env : Environment) (w : World) :
    (g.run env w).1.graph = w.graph.addGroup g.id ((g.scan env w).2.1.map Task.id) := by
  rw [← g.scan_frame World.graph_frame.toFrame env w]
  unfold run
  dsimp only
  split <;> rfl

/-- A question to a migration puts the tasks of its scan into its group. -/
theorem RunState.advance_graph (s : RunState) (env : Environment) {id : Identifier}
    (own : ∀ g, s.generators.find? id = some g → g.id = id) :
    (s.advance env id).1.world.graph =
      s.world.graph.addGroup id ((s.scanning env id).map Task.id) := by
  unfold advance scanning
  cases source : s.generators.find? id with
  | none => rfl
  | some g =>
    have asked := g.oracle.state_frame World.graph_frame.toFrame env.metadata s.world
    dsimp only
    generalize g.oracle.state env.metadata s.world = p at *
    obtain ⟨world, answer⟩ := p
    dsimp only at asked
    match answer with
    | none => exact asked
    | some .blocked => exact asked
    | some .unresolved => exact asked
    | some .passed =>
      have saved := World.graph_frame.saveRecord world env.metadata id id false
      dsimp only
      generalize world.saveRecord env.metadata id id false = q at *
      obtain ⟨world', _ | _⟩ := q
      · exact saved.trans asked
      · exact saved.trans asked
    | some .ready =>
      have ran := g.run_graph env world
      rw [own g source, asked] at ran
      dsimp only
      generalize g.run env world = r at *
      split <;> exact ran

namespace Moment

variable {env : Environment} {options : RunOptions} {m : Moment}

/-- In the next step an operation changes whether an identifier is in a group. -/
def Meddles (env : Environment) (options : RunOptions) (m : Moment) (group c : Identifier) : Prop :=
  (∃ part, m.Enacts env options part) ∧
    ¬(c ∈ (m.next env options).state.world.graph.getGroup group ↔
      c ∈ m.state.world.graph.getGroup group)

/-- Operations that leave the graph as it is do not meddle with groups. -/
theorem not_meddles (leaves : m.Obeys (fun _ a b => b.graph = a.graph) fun _ _ => True)
    (group c : Identifier) : ¬m.Meddles env options group c := by
  rintro ⟨⟨part, ⟨f, mem, rest, at_work⟩, did⟩, changed⟩
  have keeps := leaves f mem
  rw [at_work] at keeps
  refine changed ?_
  rw [did, show (World.enact _ part).graph = _ from (keeps _).1]
  show c ∈ Graph.getGroup (m.state.world.takeTurn.2.yield).graph group ↔ _
  rw [World.graph_frame.yield, World.graph_frame.turn]

/-- The graph after a step that is not a part of an operation: the tasks of the scan are in the
group of their migration, if there is a scan, and everything else is as before. -/
theorem next_graph (own : ∀ {id g}, m.state.generators.find? id = some g → g.id = id)
    (options : RunOptions) : (∃ part, m.Enacts env options part) ∨
      (m.next env options).state.world.graph =
        match m.stage with
        | .asking (id :: _) _ => m.state.world.graph.addGroup id ((m.scanning env).map Task.id)
        | _ => m.state.world.graph := by
  have frame := World.graph_frame
  cases m.next_transition env options with
  | asks id ids progressed stage state =>
    rw [state, stage, scanning, stage]
    exact Or.inr (m.state.advance_graph env fun _ => own)
  | starts progressed stage next =>
    rw [next, stage]
    exact Or.inr rfl
  | works flights progressed canceled left stage r works next =>
    obtain ⟨f, mem, goes⟩ := works_goes works
    rw [stage]
    rcases goes.frame frame fun _ _ _ => rfl with
      same | ⟨_, _, _, called⟩ | ⟨part, rest, at_work, did⟩
    · rw [next]
      exact Or.inr same
    · rw [next]
      exact Or.inr ((congrArg World.graph called).trans (frame.turn _))
    · refine Or.inl ⟨part, ⟨f, ?_, rest, at_work⟩, ?_⟩
      · rw [stage]
        exact mem
      · rw [next]
        exact did
  | closes id hasErrors settled progressed stage state =>
    rw [state, stage]
    exact Or.inr (RunState.close_frame frame m.state id hasErrors)
  | waits rounds idleRounds world idle state waited =>
    rw [state]
    refine Or.inr ((waited _ frame.toFrame).trans ?_)
    split
    · rename_i stage
      exact absurd stage (idle _ _ _)
    · rfl

end Moment

/-! ## Preparation -/

namespace World

theorem enterAll_groups (env : Environment) (generators : List Generator) (seen : List Identifier)
    (w : World) : (enterAll env generators seen w).1.graph.groups = w.graph.groups := by
  induction generators generalizing seen w with
  | nil => rfl
  | cons g generators ih =>
    have entered : (w.enter env g).graph.groups = w.graph.groups := by
      unfold enter
      dsimp only
      split <;> rfl
    rw [enterAll]
    split
    · rfl
    · exact (ih _ _).trans entered

/-- The preparation of a run leaves the groups as they are. -/
theorem prepare_getGroup {w w' : World} {env : Environment} {options : RunOptions}
    {generators : List Generator} {answer : Except Failure Unit}
    (h : w.prepare env options generators = (w', answer)) (id : Identifier) :
    w'.graph.getGroup id = w.graph.getGroup id := by
  have entered := enterAll_groups env generators [] w
  unfold Graph.getGroup
  rw [← entered]
  unfold prepare at h
  generalize enterAll env generators [] w = r at *
  obtain ⟨w₁, _ | _⟩ := r
  · cases h
    rfl
  · dsimp only at h
    unfold checkGraph at h
    split at h
    · cases h
      rfl
    · cases h
      rfl
    · cases h
      obtain ⟨journal, warned⟩ := w₁.warnAll_frame _
      rw [warned]

end World

end GatedMigration
