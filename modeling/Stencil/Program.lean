import Stencil.CommandLine
import Stencil.Processor
import Stencil.Surroundings
import Stencil.Template.Run

/-! The program: from its arguments, its surroundings and its input to what it leaves behind.

The first failure of options, snapshot, decoding and rendering decides; only a pass that succeeds
writes to the output. What renders the templates is a parameter, an `Engine`, which may keep a state
of its own; the one of the program sees a machine, which is a parameter again (`engineOn`). If an
engine asks for more room than there can be, the runtime ends the run without a word of the
program. -/
namespace Stencil
open Text.Utf8 (Bytes)

/-- How a run ends: with a status of its own, or by the runtime. -/
inductive Ending where
  | status (code : Nat)
  | aborted
  deriving DecidableEq, Repr

/-- What a run leaves behind. The diagnosis holds the words of the program; those of the runtime about
an end that it brings are not among them. -/
structure Outcome where
  ending : Ending := .status 0
  output : Bytes := []
  diagnosis : String := ""
  deriving DecidableEq, Repr

/-- What renders the templates of a run, once its snapshot is taken. -/
abbrev Engine (σ : Type) := Snapshot → Renderer σ

/-- Renders templates that see a world. -/
def Template.World.renderer {σ : Type} (w : Template.World) : Renderer σ := fun template debug =>
  pure ((w.render template debug).mapError Error.template)

namespace Program
variable {σ : Type}

/-- The engine whose templates see a machine. -/
def engineOn (machine : Machine) : Engine σ := fun snapshot =>
  ({ snapshot, machine } : Template.World).renderer

/-- What goes to the diagnosis for a failure. -/
def diagnosis (e : Error) : String := CommandLine.programName ++ ": " ++ e.message ++ "\n"

/-- What a run leaves behind that fails when something has been written. -/
def failed (written : Bytes) (e : Error) : Outcome :=
  if e.aborts then { ending := .aborted, output := written }
  else { ending := .status 1, output := written, diagnosis := diagnosis e }

/-- A pass of the program. -/
def processor (engine : Engine σ) (o : CommandLine.Options) (s : Surroundings) :
    Except Error (Processor σ) := do
  let mode ← o.mode
  let snapshot ← s.capture
  return Processor.ofSnapshot snapshot (engine snapshot) mode o.debug

/-- Runs a pass and tells how it ended. -/
def runPass (engine : Engine σ) (start : σ) (o : CommandLine.Options) (s : Surroundings)
    (input : Source) : Outcome :=
  match processor engine o s with
  | .error e => failed [] e
  | .ok p =>
    match ((p.processAll input {}).run start).1 with
    | (sink, .ok ()) => { output := sink.written }
    | (sink, .error e) => failed sink.written e

/-- Runs the program with an engine in some state. -/
def run (engine : Engine σ) (start : σ) (arguments : List String) (s : Surroundings)
    (input : Source) : Outcome :=
  match CommandLine.read arguments with
  | .error .help => { output := Text.Utf8.encodeText CommandLine.helpText }
  | .error (.version isLong) =>
    { output := Text.Utf8.encodeText (CommandLine.versionText isLong) }
  | .error (.misuse m) => { ending := .status 2, diagnosis := m.message ++ "\n" }
  | .ok o => runPass engine start o s input

/-- Runs the program on a machine. -/
def runOn (machine : Machine) : (arguments : List String) → Surroundings → Source → Outcome :=
  run (engineOn machine) ()

end Program
end Stencil
