import GatedMigration.Migration
import GatedMigration.Operation

/-!
# Generators

A generator is one migration at work: it scans its namespace for the documents that match its
selector and keeps one task for each (`Generator.run`), until the tasks are handed out
(`Generator.jobs`), which happens once for each task. A scan that fails keeps what it has produced
so far. The tasks of a scan form a group of the dependency graph.
-/

namespace GatedMigration

/-- A migration at work. -/
structure Generator where
  migration : Migration
  /-- Tasks that have not been handed out. -/
  buffered : List Task
  /-- The texts of the failures so far. -/
  errors : List String
  /-- Whether there was a scan. -/
  completed : Bool

namespace Generator

/-- A generator before its first scan. A limit of zero is none. -/
def new (m : Migration) : Generator :=
  ⟨{ m with limit := m.limit.filter (0 < ·) }, [], [], false⟩

/-- The identifier of the migration. -/
def id (g : Generator) : Identifier := g.migration.id

/-- The oracle that the generator shares with its tasks. -/
def oracle (g : Generator) : Oracle :=
  Oracle.ofList g.migration.selector g.migration.namesp g.migration.after

/-- The task with a number, for a document. -/
def task (g : Generator) (documentId : Value) (ordinal : Nat) : Task where
  id := childId g.id documentId ordinal
  migration := g.id
  namesp := g.migration.namesp
  documentId := documentId
  operation := g.migration.operation
  update := g.migration.update
  oracle := g.oracle

/-- Whether so many tasks are as many as the limit allows. -/
def isFull (g : Generator) (produced : Nat) : Bool :=
  g.migration.limit.any fun limit => decide (limit ≤ produced)

/-- The tasks for the items of a cursor, numbered on from `produced`, up to the limit or to the
failure of the cursor. -/
def collect (g : Generator) (c : Cursor Value) :
    List Value → Nat → World → World × List Task × Except StoreFailure Unit
  | items, produced, w =>
    match w.guardWait c.latency with
    | (w, .error e) => (w, [], .error e)
    | (w, .ok ()) =>
      match { c with yielded := produced }.failure? with
      | some e => (w, [], .error e)
      | none =>
        match items with
        | [] => (w, [], .ok ())
        | d :: rest =>
          if g.isFull produced then (w, [], .ok ())
          else
            let (w, tasks, result) := collect g c rest (produced + 1) w
            (w, g.task d produced :: tasks, result)

/-- The tasks of a scan, and how it ended. -/
def scan (g : Generator) (env : Environment) (w : World) :
    World × List Task × Except StoreFailure Unit :=
  let w := w.yield
  match w.guard (env.findIds w.store g.migration.namesp g.migration.selector g.migration.limit) with
  | (w, .error e) => (w, [], .error e)
  | (w, .ok c) =>
    let (w, tasks, result) := g.collect c c.items c.yielded w
    (w.closeCursor, tasks, result)

/-- A scan: its tasks are kept and put into the group of the generator, and its failure, if there is
one, is kept too. The answer is the number of tasks. -/
def run (g : Generator) (env : Environment) (w : World) :
    World × Generator × Except StoreFailure Nat :=
  let (w, tasks, result) := g.scan env w
  let w := { w with graph := w.graph.addGroup g.id (tasks.map Task.id) }
  let g := { g with buffered := g.buffered ++ tasks, completed := true }
  match result with
  | .ok () => (w, g, .ok tasks.length)
  | .error e =>
    (w.warn (.stoppedEarly g.id tasks.length e), { g with errors := g.errors ++ [e.message] },
      .error e)

/-- The tasks handed out, and the generator without them. -/
def jobs (g : Generator) : List Task × Generator := (g.buffered, { g with buffered := [] })

end Generator

end GatedMigration
