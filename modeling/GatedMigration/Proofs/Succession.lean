import GatedMigration.Proofs.Chains
import GatedMigration.Proofs.Order

/-!
# The order along chains

A migration that has fanned out has found all its prerequisites finished (`Progress.InOrder`), so
the order of dependent migrations carries over along a chain of them
(`World.applied_after_chain`). It does not carry over a migration that has nothing to do: that one
is recorded at once, whether or not its own prerequisites have finished
(`World.invoices_before_end_of_chain`).
-/

namespace GatedMigration

/-- A migration has fanned out, and it has not failed. -/
def GeneratorEntry.FannedOut (g : GeneratorEntry) : Prop :=
  g.entry.phase = .running ∨ g.entry.phase = .succeeded

/-- Whatever has fanned out comes after finished migrations only. -/
def Progress.InOrder (generators : List Generator) (p : Progress) : Prop :=
  ∀ ⦃id g⦄, p.generators.find? id = some g → g.FannedOut →
    ∀ a, DependsOn generators id a → a ∈ generators.map Generator.id → p.Clean a

theorem Progress.FinishedCleanly.clean {p : Progress} {id : Identifier}
    (h : p.FinishedCleanly id) : p.Clean id := by
  obtain ⟨ph, phase, clean⟩ := h.phase?
  rw [phase?_eq_standing?] at phase
  obtain ⟨st, at_id, rfl⟩ := Option.map_eq_some_iff.1 phase
  exact ⟨st, at_id, clean⟩

/-! ## What fans out -/

namespace RunState

variable {env : Environment} {s : RunState} {id : Identifier} {e g' : GeneratorEntry}

/-- A pending migration fans out only if every prerequisite has a satisfied record. -/
theorem advance_released (h : s.progress.generators.find? id = some e)
    (pending : e.entry.phase = .pending)
    (after : (s.advance env id).1.progress.generators.find? id = some g')
    (begun : g'.FannedOut) : ∃ g, s.generators.find? id = some g ∧
      ∀ a ∈ g.oracle.edges, s.world.Satisfied env.metadata a := by
  have standing := Progress.standing?_of_generator h
  -- What stands as before has not fanned out, and neither has what was passed.
  have idle {p : Progress} (found : p.generators.find? id = some g')
      (same : p.standing? = s.progress.standing?) : False := by
    have at_id := Progress.standing?_of_generator found
    rw [same, standing] at at_id
    have phase : g'.entry.phase = .pending :=
      (congrArg Standing.phase (Option.some.inj at_id)).symm.trans pending
    rcases begun with running | succeeded
    · cases phase.symm.trans running
    · cases phase.symm.trans succeeded
  unfold advance at after
  split at after
  · exact (idle after rfl).elim
  rename_i g source
  have ready (h : (g.oracle.state env.metadata s.world).2 = some .ready) :
      ∀ a ∈ g.oracle.edges, s.world.Satisfied env.metadata a := fun _ => Oracle.state_ready h
  generalize g.oracle.state env.metadata s.world = answer at *
  obtain ⟨world, _ | state⟩ := answer
  · exact (idle after rfl).elim
  cases state with
  | ready => exact ⟨g, source, ready rfl⟩
  | unresolved | blocked =>
    exact (idle after (s.progress.observe_stands _ _).standing).elim
  | passed =>
    dsimp only at after
    split at after
    · exact (idle after rfl).elim
    · rename_i errors _
      have at_id := Progress.standing?_of_generator after
      rw [(Progress.generatorPassed_settles h errors).self] at at_id
      have phase : (e.standing.finish .passed errors).phase = g'.entry.phase :=
        congrArg Standing.phase (Option.some.inj at_id)
      rcases e.standing.finish_phase .passed errors with ⟨passed, -⟩ | ⟨failed, -⟩ <;>
        rcases begun with begun | begun <;> simp_all

end RunState

namespace Moment

variable {env : Environment} {generators : List Generator} {w : World} {m : Moment}

/-- What has fanned out after a step has done so before, or its prerequisites have satisfied
records. -/
theorem released_of_next (sound : m.Sound env generators w)
    (distinct : ∀ g ∈ generators, ∀ g' ∈ generators, g.id = g'.id → g = g') (options : RunOptions)
    {id : Identifier} {g' : GeneratorEntry}
    (after : (m.next env options).state.progress.generators.find? id = some g')
    (begun : g'.FannedOut) :
    (∃ g, m.state.progress.generators.find? id = some g ∧ g.FannedOut) ∨
      ∀ a, DependsOn generators id a → m.state.world.Satisfied env.metadata a := by
  obtain ⟨ok, todo, -⟩ := sound
  cases m.next_transition env options with
  | asks id' ids progressed stage state =>
    rw [stage] at todo
    rw [state] at after
    obtain ⟨e, found, pending⟩ := todo.2 id' List.mem_cons_self
    by_cases same : id = id'
    · subst same
      refine Or.inr fun a edge => ?_
      obtain ⟨g, source, released⟩ := RunState.advance_released found pending after begun
      have known := IdMap.contains_of_find? found
      obtain ⟨g₁, source', -, g₀, given, named, migration⟩ :=
        ok.sources id ((ok.migrations id).1 known)
      cases source.symm.trans source'
      obtain ⟨g₂, given', named', edge⟩ := edge
      obtain rfl := distinct g₂ given' g₀ given (named'.trans named.symm)
      refine released a (IdSet.mem_ofList.2 ?_)
      rw [migration]
      exact edge
    · rw [RunState.advance_generators_of_ne found same] at after
      exact Or.inl ⟨g', after, begun⟩
  | starts progressed stage next =>
    rw [next] at after
    exact Or.inl ⟨g', after, begun⟩
  | works flights progressed canceled left stage r works next =>
    rw [stage] at todo
    rw [next] at after
    dsimp only at after
    rw [RunState.work_generators works ok.lawful todo] at after
    exact Or.inl ⟨g', after, begun⟩
  | closes id' hasErrors settled progressed stage state =>
    rw [stage] at todo
    rw [state] at after
    obtain ⟨g, found, is_settled, -⟩ := todo.2 (id', hasErrors) List.mem_cons_self
    by_cases same : id = id'
    · subst same
      simp only [Progress.isSettled, Bool.and_eq_true, beq_iff_eq] at is_settled
      exact Or.inl ⟨g, found, Or.inl is_settled.1⟩
    · rw [RunState.close_generators_of_ne same] at after
      exact Or.inl ⟨g', after, begun⟩
  | waits rounds idleRounds world _ state =>
    rw [state] at after
    exact Or.inl ⟨g', after, begun⟩

end Moment

/-! ## The order at every moment -/

/-- Each migration of a chain, but perhaps the last one, is one of the run. -/
theorem given_of_chain {generators : List Generator} {a b : Identifier} {between : List Identifier}
    (chain : (b :: (between ++ [a])).IsChain (DependsOn generators)) :
    b ∈ generators.map Generator.id := by
  obtain ⟨next, rest, e⟩ := List.exists_cons_of_ne_nil (List.append_ne_nil_of_right_ne_nil between
    (List.cons_ne_nil a []))
  rw [e] at chain
  obtain ⟨g, given, rfl, -⟩ := (List.isChain_cons_cons.1 chain).1
  exact List.mem_map_of_mem given

section

variable {generators : List Generator} {p : Progress}

/-- Where whatever has fanned out is in order, only a migration that had nothing to do is finished
before one that it depends on. -/
theorem Progress.InOrder.passed_of_not_clean (order : p.InOrder generators)
    (migrations : ∀ id, p.generators.contains id = true ↔ id ∈ generators.map Generator.id)
    {a b : Identifier} (edge : DependsOn generators b a) (given : a ∈ generators.map Generator.id)
    (clean : p.Clean b) (unclean : ¬p.Clean a) : p.phase? b = some .passed := by
  obtain ⟨st, at_b, clean⟩ := clean
  have known : p.generators.contains b = true := by
    obtain ⟨source, member, rfl, -⟩ := edge
    exact (migrations _).2 (List.mem_map_of_mem member)
  obtain ⟨g, found, rfl⟩ := generator_of_standing known at_b
  have unbegun (begun : g.FannedOut) : False := unclean (order found begun a edge given)
  rw [phase?, found]
  replace clean : g.entry.phase.isClean = true := clean
  cases phase : g.entry.phase with
  | passed => exact congrArg some phase
  | succeeded => exact (unbegun (Or.inr phase)).elim
  | pending | running | failed =>
    rw [phase] at clean
    cases clean

/-- Along a chain everything is finished after a finished migration, unless one of the chain had
nothing to do and the next one is not finished. -/
theorem Progress.InOrder.clean_of_chain (order : p.InOrder generators)
    (migrations : ∀ id, p.generators.contains id = true ↔ id ∈ generators.map Generator.id)
    {a : Identifier} (given : a ∈ generators.map Generator.id) {between : List Identifier}
    {b : Identifier} (chain : (b :: (between ++ [a])).IsChain (DependsOn generators))
    (clean : p.Clean b) :
    p.Clean a ∨ ∃ x y, [x, y] <:+: b :: (between ++ [a]) ∧ p.phase? x = some .passed ∧
      ¬p.Clean y := by
  induction between generalizing b with
  | nil =>
    refine or_iff_not_imp_left.2 fun unclean => ⟨b, a, List.infix_rfl, ?_, unclean⟩
    exact order.passed_of_not_clean migrations (List.isChain_cons_cons.1 chain).1 given clean
      unclean
  | cons b' between ih =>
    obtain ⟨edge, rest⟩ := List.isChain_cons_cons.1 chain
    by_cases clean' : p.Clean b'
    · refine (ih rest clean').imp_right ?_
      rintro ⟨x, y, within, passed, unclean⟩
      exact ⟨x, y, List.infix_cons within, passed, unclean⟩
    · exact Or.inr ⟨b, b', (List.prefix_append [b, b'] _).isInfix,
        order.passed_of_not_clean migrations edge (given_of_chain rest) clean clean', clean'⟩

end

namespace World

variable {w w₀ : World} {env : Environment} {options : RunOptions} {generators : List Generator}

section

variable (prepared : w.prepare env options generators = (w₀, .ok ()))
  (plain : ∀ g ∈ generators, Plain g.id) (made : ∀ g ∈ generators, g.Made)
  (ops : env.registry.KeepsRecords env.metadata)
  (unrecorded : ∀ g ∈ generators, w.store.record? env.metadata g.id = none)

include prepared plain made ops unrecorded

/-- A satisfied record of a migration tells that it has come to its end without errors, where no
record was left by an earlier run. -/
theorem finished_of_satisfied {n : Nat} {id : Identifier} (given : id ∈ generators.map Generator.id)
    (good : (w₀.moment env options generators n).state.world.Satisfied env.metadata id) :
    (w₀.moment env options generators n).state.progress.FinishedCleanly id := by
  obtain ⟨r, stored, good⟩ := good
  refine ((moment_sound plain made ops w₀ options n).finishedCleanly given stored
    good).resolve_right fun left => ?_
  obtain ⟨g, mem, rfl⟩ := List.mem_map.1 given
  rw [(prepare_saves _ prepared).find?_of_notMem List.not_mem_nil, unrecorded g mem] at left
  cases left

/-- At every moment whatever has fanned out comes after finished migrations only. -/
theorem moment_in_order (n : Nat) :
    (w₀.moment env options generators n).state.progress.InOrder generators := by
  induction n with
  | zero =>
    intro id g found begun
    have fresh := Progress.start_standing (Progress.standing?_of_generator found)
    have phase : g.entry.phase = .pending := congrArg Standing.phase fresh
    rcases begun with begun | begun <;> cases phase.symm.trans begun
  | succ n ih =>
    intro id g' after begun a edge given
    have sound := moment_sound plain made ops w₀ options n
    refine Progress.Keeps.clean (moment_keeps plain made ops w₀ options (Nat.le_succ n)) ?_
    rcases Moment.released_of_next sound (fun g mem g' mem' => prepare_inj prepared mem mem')
      options after begun with ⟨g, found, before⟩ | released
    · exact ih found before a edge given
    · exact (finished_of_satisfied prepared plain made ops unrecorded given (released a edge)).clean

end

/-- The order of dependent migrations carries over along a chain of them, each of which comes after
the next: no operation of the first one is called before the last one has come to its end without
errors, unless one in between had nothing to do and was passed before the next one has come to its
end. -/
theorem applied_after_chain (prepared : w.prepare env options generators = (w₀, .ok ()))
    (plain : ∀ g ∈ generators, Plain g.id) (made : ∀ g ∈ generators, g.Made)
    (ops : env.registry.KeepsRecords env.metadata)
    (unrecorded : ∀ g ∈ generators, w.store.record? env.metadata g.id = none)
    {a c : Identifier} {between : List Identifier} (given : a ∈ generators.map Generator.id)
    (chain : (c :: (between ++ [a])).IsChain (DependsOn generators)) :
    ∀ n t, (w₀.moment env options generators n).Calls env options t → t.migration = c →
      (w₀.moment env options generators n).state.progress.FinishedCleanly a ∨
      ∃ b b', [b, b'] <:+: between ++ [a] ∧
        (w₀.moment env options generators n).state.progress.phase? b = some .passed ∧
        ¬(w₀.moment env options generators n).state.progress.FinishedCleanly b' := by
  intro n t calls of_c
  have sound := moment_sound plain made ops w₀ options n
  have order := moment_in_order prepared plain made ops unrecorded n
  have released (b : Identifier) (edge : DependsOn generators c b)
      (member : b ∈ generators.map Generator.id) :
      (w₀.moment env options generators n).state.progress.FinishedCleanly b := by
    obtain ⟨g, mem, d, i, rfl⟩ := calls.task sound
    obtain ⟨g', mem', named, edge⟩ := edge
    obtain rfl : g = g' := prepare_inj prepared mem mem' (of_c.trans named.symm)
    obtain ⟨k, before, good⟩ := satisfied_of_calls calls (IdSet.mem_ofList.2 edge)
    exact finishedCleanly_later plain made ops before
      (finished_of_satisfied prepared plain made ops unrecorded member good)
  cases between with
  | nil => exact Or.inl (released a (List.isChain_cons_cons.1 chain).1 given)
  | cons b between =>
    obtain ⟨edge, rest⟩ := List.isChain_cons_cons.1 chain
    refine (order.clean_of_chain sound.state.migrations given rest
      (released b edge (given_of_chain rest)).clean).imp ?_ ?_
    · rintro ⟨st, at_a, clean⟩
      exact sound.state.lawful.finishedCleanly ((sound.state.migrations a).2 given) at_a clean
    · rintro ⟨x, y, within, passed, unclean⟩
      exact ⟨x, y, within, passed, mt Progress.FinishedCleanly.clean unclean⟩

end World

/-! ## A chain of three migrations -/

namespace Sample

/-- The migration `b` marks the returns, after the orders. -/
def returns : Generator := .new ⟨"b", ⟨"db", "returns"⟩, ⟨[]⟩, "mark", none, none, ["z"]⟩

/-- The migration `c` marks the invoices, after the returns. -/
def closing : Generator := .new ⟨"c", ⟨"db", "invoices"⟩, ⟨[]⟩, "mark", none, none, ["b"]⟩

def chained : List Generator := [orders, returns, closing]

theorem chained_plain : ∀ g ∈ chained, Plain g.id := by decide

theorem chained_made : ∀ g ∈ chained, g.Made := by
  intro g mem
  simp only [chained, List.mem_cons, List.not_mem_nil, or_false] at mem
  rcases mem with rfl | rfl | rfl
  · exact .new _
  · exact .new _
  · exact .new _

theorem chained_chain : ["c", "b", "z"].IsChain (DependsOn chained) := by
  refine List.isChain_cons_cons.2 ⟨⟨closing, ?_, rfl, List.mem_singleton_self _⟩,
    List.isChain_cons_cons.2 ⟨⟨returns, ?_, rfl, List.mem_singleton_self _⟩,
      List.isChain_singleton _⟩⟩
  · simp [chained]
  · simp [chained]

/-- The world once the run over the chain is prepared; there are no returns. -/
def noReturns : World := (world.prepare env {} chained).1

theorem noReturns_prepared : world.prepare env {} chained = (noReturns, .ok ()) :=
  Prod.ext rfl (by decide +kernel)

/-- One order, one return and one invoice. -/
def oneReturn : World :=
  { world with store := world.store.insertMany ⟨"db", "returns"⟩ [[("_id", .int 1)]] }

/-- The world once the run over the chain is prepared; there is one return. -/
def oneReturnReady : World := (oneReturn.prepare env {} chained).1

theorem oneReturn_prepared : oneReturn.prepare env {} chained = (oneReturnReady, .ok ()) :=
  Prod.ext rfl (by decide +kernel)

end Sample

namespace World

/-- With a return between them, the invoice is marked when the orders are finished. -/
theorem invoices_at_end_of_chain :
    ∃ n t, (Sample.oneReturnReady.moment Sample.env {} Sample.chained n).Calls Sample.env {} t ∧
      t.migration = "c" ∧
      (Sample.oneReturnReady.moment Sample.env {} Sample.chained n).state.progress.FinishedCleanly
        "z" := by
  obtain ⟨t, calls, of_c⟩ : ∃ t,
      (Sample.oneReturnReady.moment Sample.env {} Sample.chained 46).Calls Sample.env {} t ∧
        t.migration = "c" := exists_calls 46 (by decide +kernel)
  have unrecorded : ∀ g ∈ Sample.chained,
      Sample.oneReturn.store.record? Sample.env.metadata g.id = none := by decide +kernel
  have marked : (Sample.oneReturnReady.moment Sample.env {} Sample.chained
      46).state.progress.phase? "b" = some .succeeded := by decide +kernel
  have chain : ("c" :: (["b"] ++ ["z"])).IsChain (DependsOn Sample.chained) :=
    Sample.chained_chain
  refine ⟨46, t, calls, of_c, (applied_after_chain Sample.oneReturn_prepared Sample.chained_plain
    Sample.chained_made (Sample.keepsRecords _) unrecorded (by decide +kernel) chain 46 t calls
    of_c).resolve_right ?_⟩
  rintro ⟨b, b', within, passed, -⟩
  obtain ⟨rfl, -⟩ : b = "b" ∧ b' = "z" := by
    have same := within.eq_of_length rfl
    exact ⟨(List.cons.inj same).1, (List.cons.inj (List.cons.inj same).2).1⟩
  cases marked.symm.trans passed

/-- Without a return nothing keeps the invoice back: it is marked while there is an order that is
not. -/
theorem invoices_before_end_of_chain :
    Sample.world.prepare Sample.env {} Sample.chained = (Sample.noReturns, .ok ()) ∧
    (∀ g ∈ Sample.chained, Plain g.id) ∧ (∀ g ∈ Sample.chained, g.Made) ∧
    Sample.env.registry.KeepsRecords Sample.env.metadata ∧ Sample.world.store.faults = {} ∧
    Sample.world.context = {} ∧ Sample.world.outside = [] ∧
    (∀ g ∈ Sample.chained, Sample.world.store.record? Sample.env.metadata g.id = none) ∧
    "z" ∈ Sample.chained.map Generator.id ∧ ["c", "b", "z"].IsChain (DependsOn Sample.chained) ∧
    ¬∀ n t, (Sample.noReturns.moment Sample.env {} Sample.chained n).Calls Sample.env {} t →
      t.migration = "c" →
      (Sample.noReturns.moment Sample.env {} Sample.chained n).state.progress.phase? "z" =
          some .succeeded ∨
        (Sample.noReturns.moment Sample.env {} Sample.chained n).state.progress.phase? "z" =
          some .passed := by
  refine ⟨Sample.noReturns_prepared, Sample.chained_plain, Sample.chained_made,
    Sample.keepsRecords _, rfl, rfl, rfl, by decide +kernel, by decide +kernel,
    Sample.chained_chain, fun ordered => ?_⟩
  obtain ⟨t, calls, of_c⟩ : ∃ t,
      (Sample.noReturns.moment Sample.env {} Sample.chained 13).Calls Sample.env {} t ∧
        t.migration = "c" := exists_calls 13 (by decide +kernel)
  have running : (Sample.noReturns.moment Sample.env {} Sample.chained 13).state.progress.phase?
      "z" = some .running := by decide +kernel
  rcases ordered 13 t calls of_c with succeeded | passed
  · cases running.symm.trans succeeded
  · cases running.symm.trans passed

end World

end GatedMigration
