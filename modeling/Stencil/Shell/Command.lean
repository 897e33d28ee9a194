import Stencil.Shell.Run
import Stencil.Surroundings

/-! A simulated machine, to run templates without a real one.

Its shell is the one of this directory, with a dozen utilities, and its files are a few paths that
every system has. Each command finds the files as they stood at first: what another one wrote is
not kept. Nothing that is said of runs in general looks at it. -/
namespace Stencil.Shell
open Text.Utf8 (Bytes)

/-- What a simulated machine starts from. -/
structure Host where
  /-- The environment of commands, in bytes. -/
  environment : List (Chars × Chars) := [("PATH".toList, "/usr/bin:/bin".toList)]
  directory : Chars := ['/']
  files : Files := Files.usual

namespace Host

/-- A host with the environment and the working directory of a process. -/
def ofSurroundings (s : Surroundings) : Host :=
  let chars := fun bs : Bytes => bs.map fun b => Char.ofNat b.toNat
  let environment := s.environment.map fun v => (chars v.1, chars v.2)
  match s.directory with
  | .ok path => { environment, directory := chars path }
  | .error _ => { environment }

/-- Whether a shell can be found. -/
def hasShell (h : Host) : Bool := findsUtilities { values := h.environment }

/-- The state in which a command starts. -/
def session (h : Host) : Session :=
  let start : Session := {
    values := h.environment, exported := h.environment.map (·.1), directory := h.directory
    files := h.files }
  (start.assign "PWD".toList h.directory).mark "PWD".toList

/-- Runs a command. -/
def run (h : Host) (command : String) : CommandEnd :=
  if !h.hasShell then .notStarted Machine.notFound
  else
    match runText h.session (Utility.bytes command) with
    | (out, .ok status) => .exited (status % 256) (out.map fun c => UInt8.ofNat c.toNat)
    | (_, .error signal) => .killed signal (signalName signal)

/-- The machine that a host simulates. -/
def machine (h : Host) : Machine where
  command _ text := h.run text
  kind? _ path := h.files.kindFrom? (Utility.text h.directory) path

end Host
end Stencil.Shell
