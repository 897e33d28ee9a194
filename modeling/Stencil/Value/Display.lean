import Stencil.Value.Basic
import Stencil.Decimal.Layout
import Stencil.Text.Quoted

/-! How values are shown.

A text is shown as it is, and in double quotes inside a container. A missing value is shown as
nothing, and by name inside a container. `laidOut` gives every item of a container a line. -/
namespace Stencil.Value
open Text.Utf8 (Bytes)

/-- A byte of a text that may not be one. -/
def shownByte (b : UInt8) : String :=
  if b == 0x22 then "\""
  else if b == 0x09 then "\\t"
  else if b == 0x0D then "\\r"
  else if b == 0x0A then "\\n"
  else if b == 0x27 then "\\'"
  else if b == 0x5C then "\\\\"
  else if 0x20 ≤ b && b < 0x7F then (Char.ofNat b.toNat).toString
  else
    let digits := Nat.toDigits 16 b.toNat
    "\\x" ++ String.ofList (if digits.length < 2 then '0' :: digits else digits)

/-- Where a loop is. -/
def shownPosition (p : LoopPosition) : String :=
  "<loop " ++ toString p.index ++ "/" ++ (p.length.map toString).getD "?" ++ ">"

mutual

/-- A value inside a container. -/
def nested : Value → String
  | .undefined => "undefined"
  | .none => "None"
  | .bool b => if b then "True" else "False"
  | .int n => toString n
  | .float x => Decimal.nested.render x
  | .text s _ => Text.quoted s
  | .bytes bs => "b'" ++ String.join (bs.map shownByte) ++ "'"
  | .list vs => "[" ++ ", ".intercalate (nestedItems vs) ++ "]"
  | .lazy vs _ => "[" ++ ", ".intercalate (nestedItems vs) ++ "]"
  | .group key vs =>
    "[" ++ nested key ++ ", [" ++ ", ".intercalate (nestedItems vs) ++ "]]"
  | .map es => "\x7b" ++ ", ".intercalate (nestedEntries es) ++ "\x7d"
  | .workspace _ es => "\x7b" ++ ", ".intercalate (nestedEntries es) ++ "\x7d"
  | .plain shown => shown
  | .invalid reason => "<invalid value: invalid operation: " ++ reason ++ ">"
  | .function name => name
  | .definition h => "<macro " ++ h.name ++ ">"
  | .iteration p _ _ => shownPosition p
  termination_by structural v => v

/-- Items inside a container. -/
def nestedItems : List Value → List String
  | [] => []
  | v :: rest => nested v :: nestedItems rest
  termination_by structural vs => vs

/-- Entries inside a container. -/
def nestedEntries : List (Value × Value) → List String
  | [] => []
  | (k, v) :: rest => (nested k ++ ": " ++ nested v) :: nestedEntries rest
  termination_by structural es => es

end

/-- A value on its own. -/
def display : Value → String
  | .undefined => ""
  | .text s _ => s
  | .bytes bs => Text.Utf8.lossyText bs
  | .float x => Decimal.onDisplay.render x
  | v => nested v

/-- Parts between brackets, each on a line of its own; `depth` says how far the brackets stand in. -/
def block (depth : Nat) (opening closing : String) (parts : List String) : String :=
  if parts.isEmpty then opening ++ closing
  else
    let margin := "".pushn ' ' (4 * depth)
    opening ++ "\n" ++ String.join (parts.map fun part => margin ++ "    " ++ part ++ ",\n") ++ margin ++
      closing

mutual

/-- A value in lines. -/
def inLines (depth : Nat) : Value → String
  | .list vs => block depth "[" "]" (itemsInLines (depth + 1) vs)
  | .lazy vs _ => block depth "[" "]" (itemsInLines (depth + 1) vs)
  | .group key vs =>
    block depth "[" "]"
      [inLines (depth + 1) key, block (depth + 1) "[" "]" (itemsInLines (depth + 2) vs)]
  | .map es => block depth "\x7b" "\x7d" (entriesInLines (depth + 1) es)
  | .workspace _ es => block depth "\x7b" "\x7d" (entriesInLines (depth + 1) es)
  | v => nested v
  termination_by structural v => v

/-- Items in lines. -/
def itemsInLines (depth : Nat) : List Value → List String
  | [] => []
  | v :: rest => inLines depth v :: itemsInLines depth rest
  termination_by structural vs => vs

/-- Entries in lines. -/
def entriesInLines (depth : Nat) : List (Value × Value) → List String
  | [] => []
  | (k, v) :: rest => (inLines depth k ++ ": " ++ inLines depth v) :: entriesInLines depth rest
  termination_by structural es => es

end

/-- A value with a line for every item in it. -/
def laidOut (v : Value) : String := inLines 0 v

end Stencil.Value
