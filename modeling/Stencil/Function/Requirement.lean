import Stencil.Machine
import Stencil.Problem
import Stencil.Snapshot

/-! Functions that ask for what a template needs: variables, files and what commands write. -/
namespace Stencil.Function

/-- What a command writes, if it succeeds. A command with a zero in it cannot be handed over. -/
def sh (answer : String → CommandEnd) (command : String) : Except Problem String :=
  let flawed := fun flaw => .error (.command flaw)
  if command.toList.contains '\x00' then flawed (.notStarted "nul byte found in provided data")
  else
    match answer command with
    | .notStarted reason => flawed (.notStarted reason)
    | .exited 0 output => .ok (Text.Utf8.lossyText output)
    | .exited status _ => flawed (.exited status)
    | .killed signal name => flawed (.killed signal name)

/-- The value of a variable, or else a text that stands in for it. -/
def getenv (s : Snapshot) (name : String) (fallback : Option String) : String :=
  match s.lookupEnv name with
  | some value => value
  | none => fallback.getD ""

/-- Fails at the first name of a variable that is not set. -/
def requiredEnvs (s : Snapshot) (names : List String) : Except Problem String :=
  match names.find? fun name => (s.lookupEnv name).isNone with
  | some name => .error (.missingEnvironment name)
  | none => .ok ""

/-- Fails at the first path that leads nowhere or to a directory. -/
def requiredFiles (kind? : String → Option FileKind) : (paths : List String) → Except Problem String
  | [] => .ok ""
  | path :: rest =>
    match kind? path with
    | none => .error (.missingFile path)
    | some .directory => .error (.fileIsDirectory path)
    | some _ => requiredFiles kind? rest

end Stencil.Function
