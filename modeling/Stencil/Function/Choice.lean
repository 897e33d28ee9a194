import Stencil.Value.Item
import Stencil.Value.Shape

/-! Functions that build values and choose among them.

Emptiness is that of a value's shape; `ternary` goes by truth. -/
namespace Stencil.Function

/-- The first value that is not empty, undefined if there is none. -/
def coalesce (vs : List Value) : Value := (vs.find? fun v => !v.isEmpty).getD .undefined

/-- One of two values, as a third one is true or not. -/
def ternary (yes no condition : Value) : Value := if condition.isTrue then yes else no

/-- Fails at the first value that is empty. -/
def requiredVals (vs : List Value) : Except Problem String :=
  match vs.find? Value.isEmpty with
  | some v => .error (.emptyValue v.display)
  | none => .ok ""

/-- Adds pairs of a key and a value to entries; a key that is there keeps its place. -/
def dictFrom (entries : List (Value × Value)) : List Value → Except Problem Value
  | key :: value :: rest =>
    match key.asText? with
    | some s => dictFrom (Value.insertEntry (.ofString s) value entries) rest
    | none => .error .keyNotText
  | _ => .ok (.map entries)

/-- The map of pairs of a key and a value. -/
def dict (args : List Value) : Except Problem Value :=
  if args.length % 2 != 0 then .error .oddPairs else dictFrom [] args

end Stencil.Function
