import GatedMigration.Proofs.Delivery

/-!
# Tasks are handed out once

A generator may scan and hand out its tasks in any order (`Usage`), while anything may happen
elsewhere in between, and whatever becomes of a scan. What has been handed out, followed by what is
still buffered, is what the scans have made (`Usage.Balanced.after`), and the group of the migration
is made of the same tasks, unless the graph is changed elsewhere (`Usage.Grouped.after`).

* `Usage.handed_out_once`: no task is lost, handed out twice or left out of the group.
-/

namespace GatedMigration

/-- What may be done with a generator, or without it. -/
inductive Use where
  | scan (env : Environment)
  | handOut
  /-- Something happens elsewhere. -/
  | elsewhere (change : World → World)

namespace Use

/-- Whether the generator scans. -/
def isScan : Use → Bool
  | scan _ => true
  | handOut | elsewhere _ => false

/-- What happens elsewhere leaves a group as it is. -/
def LeavesGroup (id : Identifier) : Use → Prop
  | scan _ | handOut => True
  | elsewhere change => ∀ w, (change w).graph.getGroup id = w.graph.getGroup id

end Use

/-- A generator in use, and what has come of it so far. -/
structure Usage where
  world : World
  generator : Generator
  /-- The tasks that each scan has made, the first scan first. -/
  made : List (List Task)
  /-- The tasks that were handed out each time. -/
  handedOut : List (List Task)

namespace Usage

/-- A generator that has not been used. -/
def start (m : Migration) (w : World) : Usage := ⟨w, .new m, [], []⟩

/-- The generator used once more. -/
def step (u : Usage) : Use → Usage
  | .scan env =>
    let (world, generator, _) := u.generator.run env u.world
    { u with world, generator, made := u.made ++ [(u.generator.scan env u.world).2.1] }
  | .handOut =>
    let (tasks, generator) := u.generator.jobs
    { u with generator, handedOut := u.handedOut ++ [tasks] }
  | .elsewhere change => { u with world := change u.world }

/-- The generator used several times. -/
def after (u : Usage) (uses : List Use) : Usage := uses.foldl step u

variable {u : Usage}

/-! ## The buffer -/

/-- What has been handed out and what is still buffered is what the scans have made. -/
def Balanced (u : Usage) : Prop :=
  u.handedOut.flatten ++ u.generator.buffered = u.made.flatten

theorem Balanced.step (h : u.Balanced) (x : Use) : (u.step x).Balanced := by
  unfold Balanced at h ⊢
  cases x with
  | scan env =>
    have buffered := (u.generator.run_buffered env u.world).2
    change u.handedOut.flatten ++ (u.generator.run env u.world).2.1.buffered =
      (u.made ++ [(u.generator.scan env u.world).2.1]).flatten
    rw [buffered, ← List.append_assoc, h, List.flatten_concat]
  | handOut =>
    change (u.handedOut ++ [u.generator.buffered]).flatten ++ [] = u.made.flatten
    rw [List.append_nil, List.flatten_concat, h]
  | elsewhere change => exact h

theorem Balanced.after (h : u.Balanced) (uses : List Use) : (u.after uses).Balanced := by
  induction uses generalizing u with
  | nil => exact h
  | cons x uses ih => exact ih (h.step x)

/-- Nothing is buffered before the next scan. -/
theorem buffered_after_idle (none : u.generator.buffered = []) {idle : List Use}
    (unscanned : ∀ x ∈ idle, x.isScan = false) : (u.after idle).generator.buffered = [] := by
  induction idle generalizing u with
  | nil => exact none
  | cons x idle ih =>
    obtain ⟨here, later⟩ := List.forall_mem_cons.1 unscanned
    refine ih ?_ later
    cases x with
    | scan env => cases here
    | handOut => rfl
    | elsewhere change => exact none

/-! ## The group -/

/-- The members of the group are the tasks that the scans have made. -/
structure Grouped (id : Identifier) (u : Usage) : Prop where
  own : u.generator.id = id
  group : ∀ c, c ∈ u.world.graph.getGroup id ↔ c ∈ u.made.flatten.map Task.id

namespace Grouped

variable {id : Identifier}

theorem start {m : Migration} {w : World} (none : w.graph.getGroup m.id = []) :
    (Usage.start m w).Grouped m.id where
  own := rfl
  group c := by
    change c ∈ w.graph.getGroup m.id ↔ _
    rw [none]
    rfl

theorem step (h : u.Grouped id) {x : Use} (leaves : x.LeavesGroup id) :
    (u.step x).Grouped id := by
  cases x with
  | scan env =>
    have migration := (u.generator.run_buffered env u.world).1
    refine ⟨(congrArg Migration.id migration).trans h.own, fun c => ?_⟩
    change c ∈ (u.generator.run env u.world).1.graph.getGroup id ↔
      c ∈ (u.made ++ [(u.generator.scan env u.world).2.1]).flatten.map Task.id
    rw [u.generator.run_graph, h.own, Graph.mem_getGroup_addGroup_self, h.group,
      List.flatten_concat, List.map_append, List.mem_append]
  | handOut => exact ⟨h.own, h.group⟩
  | elsewhere change =>
    refine ⟨h.own, fun c => ?_⟩
    change c ∈ (change u.world).graph.getGroup id ↔ _
    rw [leaves]
    exact h.group c

theorem after (h : u.Grouped id) {uses : List Use} (leave : ∀ x ∈ uses, x.LeavesGroup id) :
    (u.after uses).Grouped id := by
  induction uses generalizing u with
  | nil => exact h
  | cons x uses ih =>
    obtain ⟨here, later⟩ := List.forall_mem_cons.1 leave
    exact ih (h.step here) later

theorem getGroup_eq (h : u.Grouped id) :
    u.world.graph.getGroup id = (IdSet.ofList (u.made.flatten.map Task.id)).toList := by
  refine congrArg IdSet.toList (IdSet.ext_mem fun c => ?_)
  rw [IdSet.mem_ofList]
  exact h.group c

end Grouped

/-! ## Every order of use -/

/-- However a generator is used, and whatever becomes of its scans, the tasks that have been handed
out, followed by those that are still buffered, are the tasks that the scans have made, in their
order. Nothing is handed out a second time before there is another scan. If there was no group of
the migration and nothing else changes it, its members are all the tasks that the scans have made.
-/
theorem handed_out_once (m : Migration) (w : World) (uses : List Use) :
    ((start m w).after uses).handedOut.flatten ++
        ((start m w).after uses).generator.buffered =
      ((start m w).after uses).made.flatten ∧
    (∀ idle, (∀ x ∈ idle, x.isScan = false) →
      ((start m w).after (uses ++ .handOut :: idle ++ [.handOut])).handedOut =
        ((start m w).after (uses ++ .handOut :: idle)).handedOut ++ [[]]) ∧
    (w.graph.getGroup m.id = [] → (∀ x ∈ uses, x.LeavesGroup m.id) →
      ((start m w).after uses).world.graph.getGroup m.id =
        (IdSet.ofList (((start m w).after uses).made.flatten.map Task.id)).toList) := by
  have fresh : (start m w).Balanced := rfl
  refine ⟨fresh.after uses, fun idle unscanned => ?_, fun none leave => ?_⟩
  · have idled : ((start m w).after (uses ++ .handOut :: idle)).generator.buffered = [] := by
      rw [Usage.after, List.foldl_append, List.foldl_cons]
      exact buffered_after_idle rfl unscanned
    rw [Usage.after, List.foldl_concat]
    change _ ++ [((start m w).after (uses ++ .handOut :: idle)).generator.buffered] = _
    rw [idled]
    rfl
  · exact ((Grouped.start none).after leave).getGroup_eq

end Usage

namespace Sample

/-- The orders are scanned with a cursor that breaks off, and once more without faults. -/
def recovery : List Use :=
  [.scan env, .handOut,
    .elsewhere fun w => { w with store := { w.store with faults := {} } }, .scan env]

/-- The generator of the orders once both scans are done. -/
def recovered : Usage := (Usage.start orders.migration brokenOff).after recovery

theorem recovered_made :
    recovered.made = [[orders.task (.int 1) 0], [orders.task (.int 1) 0, orders.task (.int 2) 1]] :=
  rfl

end Sample

namespace Usage

/-- One task is handed out between the scans. The others follow, once only, and the group has the
tasks of both orders. -/
theorem recovered_handed_out_once :
    Sample.brokenOff.graph.getGroup "z" = [] ∧
    (∀ x ∈ Sample.recovery, x.LeavesGroup "z") ∧
    Sample.recovered.handedOut.flatten ++ Sample.recovered.generator.buffered =
      [Sample.orders.task (.int 1) 0, Sample.orders.task (.int 1) 0,
        Sample.orders.task (.int 2) 1] ∧
    ((start Sample.orders.migration Sample.brokenOff).after
        (Sample.recovery ++ [.handOut, .handOut])).handedOut =
      ((start Sample.orders.migration Sample.brokenOff).after
        (Sample.recovery ++ [.handOut])).handedOut ++ [[]] ∧
    Sample.recovered.world.graph.getGroup "z" = ["z.1.0", "z.2.1"] := by
  have none : Sample.brokenOff.graph.getGroup "z" = [] := rfl
  have leave : ∀ x ∈ Sample.recovery, x.LeavesGroup "z" := by
    simp [Sample.recovery, Use.LeavesGroup]
  obtain ⟨balanced, idle, group⟩ :=
    handed_out_once Sample.orders.migration Sample.brokenOff Sample.recovery
  have made : Sample.recovered.made.flatten = [Sample.orders.task (.int 1) 0,
      Sample.orders.task (.int 1) 0, Sample.orders.task (.int 2) 1] := by
    rw [Sample.recovered_made]
    rfl
  have named : (IdSet.ofList (Sample.recovered.made.flatten.map Task.id)).toList =
      ["z.1.0", "z.2.1"] := by
    rw [made]
    decide +kernel
  exact ⟨none, leave, balanced.trans made, idle [] (List.forall_mem_nil _),
    (group none leave).trans named⟩

end Usage

end GatedMigration
