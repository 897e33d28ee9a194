import Stencil.Program
import Stencil.Shell.Command

/-! The program as a process: gathers what a run depends on, and carries out what it decided.

Commands of templates run on a simulated machine. -/
namespace Stencil.Execution
open Text.Utf8 (Bytes)

/-- The bytes of a file, none if it cannot be read. -/
def bytesOf (path : String) : IO Bytes := do
  try
    return (← IO.FS.readBinFile path).toList
  catch _ => return []

/-- The path that a link leads to. -/
def target? (link : String) : IO (Option Bytes) := do
  try
    return some (Text.Utf8.encodeText (← IO.FS.realPath link).toString)
  catch _ => return none

/-- What the system tells this process. -/
def surroundings : IO Surroundings := do
  let status ← bytesOf "/proc/self/status"
  let uid := Surroundings.numberBehind "Uid:" status
  let orReason := fun (path : Option Bytes) (reason : String) => match path with
    | some path => Except.ok path
    | none => .error reason
  return {
    environment := Surroundings.environmentOf (← bytesOf "/proc/self/environ")
    directory := orReason (← target? "/proc/self/cwd") Machine.notFound
    hostname := .ok ((← bytesOf "/proc/sys/kernel/hostname").takeWhile (· != 0x0A))
    executable :=
      orReason (← target? "/proc/self/exe") "no /proc/self/exe available. Is /proc mounted?"
    accountHome := Surroundings.homeOf? uid (← bytesOf "/etc/passwd")
    pid := Surroundings.numberBehind "Pid:" status
    ppid := Surroundings.numberBehind "PPid:" status
    uid
    gid := Surroundings.numberBehind "Gid:" status }

/-- All bytes of the standard input. -/
def input : IO Bytes := do
  return (← (← IO.getStdin).readBinToEnd).toList

/-- The status that shows how a run ended; an end by the runtime counts as its signal. -/
def statusOf : Ending → UInt32
  | .status code => UInt32.ofNat code
  | .aborted => 134

end Stencil.Execution

def main (arguments : List String) : IO UInt32 := do
  let data ← match Stencil.CommandLine.read arguments with
    | .ok _ => Stencil.Execution.input
    | .error _ => pure []
  let surroundings ← Stencil.Execution.surroundings
  let machine := (Stencil.Shell.Host.ofSurroundings surroundings).machine
  let o := Stencil.Program.runOn machine arguments surroundings { data }
  let out ← IO.getStdout
  out.write (ByteArray.mk o.output.toArray)
  out.flush
  (← IO.getStderr).putStr o.diagnosis
  return Stencil.Execution.statusOf o.ending
