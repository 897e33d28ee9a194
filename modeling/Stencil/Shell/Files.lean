import Stencil.Machine
import Stencil.Text.Pieces

/-! The files that a simulated shell sees.

A view of a file system is a list of absolute paths and what stands at each. A path is looked up
piece by piece, so that a file in the place of a directory ends the search. -/
namespace Stencil.Shell

/-- Paths, as lists of their pieces, and what stands there. -/
abbrev Files := List (List String × FileKind)

namespace Files

/-- The longest path that can be looked up, in bytes, and the longest piece of one. -/
def longest : Nat × Nat := (4095, 255)

/-- What stands at a path of pieces. -/
def at? (files : Files) (pieces : List String) : Option FileKind :=
  (files.find? fun f => f.1 == pieces).map (·.2)

/-- Goes from a directory along pieces; `here` holds its own pieces, the last one first. -/
def follow (files : Files) : (here : List String) → List String → Option FileKind
  | here, [] => files.at? here.reverse
  | here, p :: pieces =>
    match files.at? here.reverse with
    | some .directory =>
      if p.isEmpty || p == "." then follow files here pieces
      else if p == ".." then follow files here.tail pieces
      else follow files (p :: here) pieces
    | _ => none

/-- The pieces of a path. -/
def pieces (path : String) : List String := (Text.split ['/'] none path.toList).map String.ofList

/-- What stands at a path, which starts at a directory if it has no leading slash. -/
def kindFrom? (files : Files) (directory path : String) : Option FileKind :=
  let start := if path.toList.head? == some '/' then [] else pieces directory
  if path.isEmpty || path.toList.contains '\x00' || path.utf8ByteSize > longest.1 ||
    (pieces path).any (fun p => p.utf8ByteSize > longest.2) then none
  else files.follow [] (start ++ pieces path)

/-- A few paths that every system has. -/
def usual : Files :=
  [([], .directory), (["etc"], .directory), (["tmp"], .directory), (["dev"], .directory),
    (["etc", "passwd"], .plain), (["dev", "null"], .device)]

end Files
end Stencil.Shell
