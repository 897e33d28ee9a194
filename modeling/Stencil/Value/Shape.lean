import Stencil.Value.Basic

/-! The shape of a value, as far as emptiness is concerned.

A missing value is empty, so is a false, a zero, and whatever has a length of zero. What has no
shape of its own is never empty.

All texts, sequences and maps that are values know their length. An object could be made that
is walked through like one of these without a length, but nothing in the program makes such an
object, and it is no `Value`; so no length is ever replaced by zero. -/
namespace Stencil

/-- Shapes of values. -/
inductive Shape where
  | absent
  | boolean (b : Bool)
  | number (zero : Bool)
  | text (length : Nat)
  | sequence (length : Nat)
  | record (length : Nat)
  | opaqueObject
  deriving DecidableEq, Repr

/-- The shape of a value. -/
def Shape.of (v : Value) : Shape :=
  match v.kind with
  | .undefined | .none => .absent
  | .bool => .boolean v.isTrue
  | .number => .number (!v.isTrue)
  | .string | .bytes => .text (v.length?.getD 0)
  | .sequence => .sequence (v.length?.getD 0)
  | .map => .record (v.length?.getD 0)
  | .iterator | .plain | .invalid => .opaqueObject

/-- A shape without content. -/
def Shape.isEmpty : Shape → Bool
  | .absent => true
  | .boolean b => !b
  | .number zero => zero
  | .text n | .sequence n | .record n => n == 0
  | .opaqueObject => false

/-- A value without content. -/
def Value.isEmpty (v : Value) : Bool := (Shape.of v).isEmpty

end Stencil
