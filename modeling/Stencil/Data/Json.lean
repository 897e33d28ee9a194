import Stencil.Data.Tree

/-! Documents as JSON.

`compact` writes no blanks, `pretty` one line for each item. `escaped` makes the text fit to stand in
a page: signs that mean something there are written by their number. -/
namespace Stencil.Data.Json

/-- Four digits of base sixteen. -/
def fourDigits (n : Nat) : List Char :=
  let digits := Nat.toDigits 16 n
  List.replicate (4 - digits.length) '0' ++ digits

/-- A character inside quotes. -/
def quotedChar (c : Char) : List Char :=
  if c == '"' then ['\\', '"']
  else if c == '\\' then ['\\', '\\']
  else if c == '\n' then ['\\', 'n']
  else if c == '\r' then ['\\', 'r']
  else if c == '\t' then ['\\', 't']
  else if c == '\x08' then ['\\', 'b']
  else if c == '\x0c' then ['\\', 'f']
  else if c.toNat < 0x20 then '\\' :: 'u' :: fourDigits c.toNat
  else [c]

/-- A text in quotes. -/
def quoted (s : String) : String := String.ofList ('"' :: s.toList.flatMap quotedChar ++ ['"'])

mutual

/-- A document without blanks. -/
def compact : Tree → String
  | .null => "null"
  | .bool b => if b then "true" else "false"
  | .int n => toString n
  | .float x => Decimal.inJson.render x
  | .text s => quoted s
  | .list ts => "[" ++ ",".intercalate (compactItems ts) ++ "]"
  | .map es => "\x7b" ++ ",".intercalate (compactEntries es) ++ "\x7d"
  termination_by structural t => t

/-- Items without blanks. -/
def compactItems : List Tree → List String
  | [] => []
  | t :: rest => compact t :: compactItems rest
  termination_by structural ts => ts

/-- Entries without blanks. -/
def compactEntries : List (String × Tree) → List String
  | [] => []
  | (k, t) :: rest => (quoted k ++ ":" ++ compact t) :: compactEntries rest
  termination_by structural es => es

end

/-- Parts between brackets, each on a line of its own. -/
def block (step depth : Nat) (opening closing : String) (parts : List String) : String :=
  if parts.isEmpty then opening ++ closing
  else
    let line := "\n" ++ "".pushn ' ' (step * (depth + 1))
    opening ++ line ++ ("," ++ line).intercalate parts ++ "\n" ++ "".pushn ' ' (step * depth) ++
      closing

mutual

/-- A document with one line for each item, indented by `step` for each level. -/
def pretty (step : Nat) (depth : Nat) : Tree → String
  | .null => "null"
  | .bool b => if b then "true" else "false"
  | .int n => toString n
  | .float x => Decimal.inJson.render x
  | .text s => quoted s
  | .list ts => block step depth "[" "]" (prettyItems step (depth + 1) ts)
  | .map es => block step depth "\x7b" "\x7d" (prettyEntries step (depth + 1) es)
  termination_by structural t => t

/-- Items with one line for each of theirs. -/
def prettyItems (step : Nat) (depth : Nat) : List Tree → List String
  | [] => []
  | t :: rest => pretty step depth t :: prettyItems step depth rest
  termination_by structural ts => ts

/-- Entries with one line for each of theirs. -/
def prettyEntries (step : Nat) (depth : Nat) : List (String × Tree) → List String
  | [] => []
  | (k, t) :: rest => (quoted k ++ ": " ++ pretty step depth t) :: prettyEntries step depth rest
  termination_by structural es => es

end

/-- A text with the signs that mean something in a page written by their number. -/
def escaped (s : String) : String :=
  String.ofList (s.toList.flatMap fun c =>
    if c == '<' || c == '>' || c == '&' || c == '\'' then '\\' :: 'u' :: fourDigits c.toNat else [c])

end Stencil.Data.Json
