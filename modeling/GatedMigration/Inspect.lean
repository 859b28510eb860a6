import GatedMigration.Run.Options
import GatedMigration.Operation
import GatedMigration.Unicode.Latest

/-!
# Texts for developers

Some values are shown the way they are built: a name, and fields in braces. Strings stand between
quotes, with what has no shape of its own escaped.
-/

namespace GatedMigration.Inspect

/-- The hexadecimal digits of a natural in lower case. -/
def hex (n : Nat) : List Char := Nat.toDigits 16 n

/-- A character of a quoted string. -/
def escape (c : Char) : List Char :=
  if c = '"' then ['\\', '"']
  else if c = '\\' then ['\\', '\\']
  else if c = '\n' then ['\\', 'n']
  else if c = '\r' then ['\\', 'r']
  else if c = '\t' then ['\\', 't']
  else if c = '\x00' then ['\\', '0']
  else if Unicode.shapeless.contains c then '\\' :: 'u' :: '\x7b' :: (hex c.toNat ++ ['\x7d'])
  else [c]

/-- A string between quotes. -/
def quoted (s : String) : String := String.ofList ('"' :: (s.toList.flatMap escape ++ ['"']))

/-- A list of strings. -/
def strings (ss : List String) : String := "[" ++ ", ".intercalate (ss.map quoted) ++ "]"

/-- A name with fields. -/
def record (name : String) (fields : List (String × String)) : String :=
  name ++ " \x7b " ++ ", ".intercalate (fields.map fun f => f.1 ++ ": " ++ f.2) ++ " \x7d"

/-- A time in milliseconds: in seconds from one second on. -/
def duration (ms : Nat) : String :=
  if ms = 0 then "0ns"
  else if ms < 1000 then toString ms ++ "ms"
  else
    let digits := (Nat.toDigits 10 (ms % 1000 + 1000)).drop 1
    match (digits.reverse.dropWhile (· == '0')).reverse with
    | [] => toString (ms / 1000) ++ "s"
    | fraction => toString (ms / 1000) ++ "." ++ String.ofList fraction ++ "s"

end GatedMigration.Inspect

namespace GatedMigration

/-- The name of a policy. -/
def ValidationPolicy.inspect : ValidationPolicy → String
  | .require => "Require"
  | .warn => "Warn"

/-- The fields of a namespace. -/
def Namespace.inspect (ns : Namespace) : String :=
  Inspect.record "Namespace"
    [("store", Inspect.quoted ns.store), ("collection", Inspect.quoted ns.collection)]

/-- What is shown of an environment: its metadata namespace and the names of its operations. -/
def Environment.inspect (env : Environment) : String :=
  "Environment \x7b metadata_ns: " ++ env.metadata.inspect ++ ", operations: "
    ++ Inspect.strings env.registry.names ++ ", .. \x7d"

/-- The fields of options. -/
def RunOptions.inspect (o : RunOptions) : String :=
  Inspect.record "RuntimeOptions" [
    ("workers", toString o.workers), ("poll_interval", Inspect.duration o.pollInterval),
    ("max_idle_rounds", toString o.maxIdleRounds), ("validation", o.validation.inspect)]

/-- An environment together with the options of its runs. -/
def RunOptions.inspectWith (o : RunOptions) (env : Environment) : String :=
  Inspect.record "Runtime" [("env", env.inspect), ("options", o.inspect)]

end GatedMigration
