import Stencil.Text.Utf8

/-! The machine that templates run on, as far as they can see it.

A template gives commands to a shell and asks what stands at a path. Both are answered by the
machine, which is a parameter: what is shown of a run holds on every machine. A command may change
what is answered later, so every answer may depend on the commands that ran before it.

A machine answers. A command that never ends, one that ends the program around it, and one that
writes into the program's own streams are not covered. -/
namespace Stencil
open Text.Utf8 (Bytes)

/-- What stands at a path. Only a plain file has contents of a length that is known. -/
inductive FileKind where
  | directory
  | plain
  | device
  deriving DecidableEq, Repr

/-- How a command came to its end, if it could be started. -/
inductive CommandEnd where
  | notStarted (reason : String)
  | exited (status : Nat) (output : Bytes)
  | killed (signal : Nat) (name : String)
  deriving DecidableEq, Repr

/-- A machine. `earlier` are the commands that ran before, the first of them first. -/
structure Machine where
  /-- What a shell makes of a command that it is given with empty input. -/
  command : (earlier : List String) → (text : String) → CommandEnd
  /-- What stands at a path, if it leads anywhere. -/
  kind? : (earlier : List String) → (path : String) → Option FileKind

namespace Machine

/-- What the system says of a program that it cannot find. -/
def notFound : String := "No such file or directory (os error 2)"

/-- A machine without a shell and without files. -/
def bare : Machine where
  command _ _ := .notStarted notFound
  kind? _ _ := none

end Machine
end Stencil
