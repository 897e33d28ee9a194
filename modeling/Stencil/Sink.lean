import Stencil.Text.Utf8

/-! Output that may be refused.

A sink takes bytes until it has no room left; what fits before that is taken. -/
namespace Stencil
open Text.Utf8 (Bytes)

/-- Bytes taken so far, the room that is left, and how often the sink was flushed. A sink without
a limit has room for everything. -/
structure Sink where
  written : Bytes := []
  room : Option Nat := none
  flushes : Nat := 0
  deriving DecidableEq, Repr

namespace Sink

/-- Why a sink without room refuses bytes. -/
def refusal : String := "write failed"

/-- Takes the bytes that fit, and says whether these are all. -/
def write (k : Sink) (bs : Bytes) : Sink × Bool :=
  match k.room with
  | none => ({ k with written := k.written ++ bs }, true)
  | some n =>
    ({ k with written := k.written ++ bs.take n, room := some (n - bs.length) },
      decide (bs.length ≤ n))

/-- Notes a flush. -/
def flush (k : Sink) : Sink := { k with flushes := k.flushes + 1 }

end Sink
end Stencil
