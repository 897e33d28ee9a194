import Stencil.Data.Tree
import Stencil.Decimal.Read
import Stencil.Text.Pieces

/-! Documents as YAML.

Blocks are indented by two; a sequence under a key is not. A text stands plain where a reader
would take it for that text, in single quotes where it would be taken for something else, in
double quotes where it holds signs that have to be escaped, and as a literal block where it has
several lines. A key is introduced by a question mark where it has several lines or is long.

A printed part is a `Piece`: its text, and whether that text has ended its line. -/
namespace Stencil.Data.Yaml

/-! ### Characters -/

/-- A character that ends a line. -/
def isBreak (c : Char) : Bool :=
  c == '\n' || c == '\r' || c == '\u0085' || c == '\u2028' || c == '\u2029'

/-- A blank, the end of a line, or a character that cannot be. -/
def isGap (c : Char) : Bool := c == ' ' || c == '\t' || c == '\x00' || isBreak c

/-- A character that may stand outside of double quotes. -/
def isPlainChar (c : Char) : Bool :=
  let n := c.toNat
  n == 0x0A || (0x20 ≤ n && n ≤ 0x7E) || (0xA0 ≤ n && n ≤ 0xFFFD && n != 0xFEFF) || 0x10000 ≤ n

/-- What has no character behind or before it stands beside a gap. -/
def gapAt (c : Option Char) : Bool := c.all isGap

/-! ### What a text holds -/

/-- What decides how a text may be written. -/
structure Traits where
  several : Bool := false
  special : Bool := false
  leadingSpace : Bool := false
  leadingBreak : Bool := false
  trailingSpace : Bool := false
  trailingBreak : Bool := false
  spaceAfterBreak : Bool := false
  breakAfterSpace : Bool := false
  indicator : Bool := false
  deriving DecidableEq, Repr

/-- A sign at the start of a text that means something there. -/
def opens (c : Char) (next : Option Char) : Bool :=
  "#,[]\x7b\x7d&*!|>'\"%@\x60".toList.contains c ||
    ((c == '?' || c == ':' || c == '-') && gapAt next)

/-- A sign inside a text that means something there. -/
def interrupts (previous c : Char) (next : Option Char) : Bool :=
  (c == ':' && gapAt next) || (c == '#' && isGap previous)

/-- Adds what the characters behind `previous` show. -/
def traitsFrom (t : Traits) (previous : Char) : List Char → Traits
  | [] =>
    { t with trailingSpace := previous == ' ', trailingBreak := isBreak previous }
  | c :: rest =>
    traitsFrom
      { t with
        several := t.several || isBreak c
        special := t.special || !isPlainChar c
        spaceAfterBreak := t.spaceAfterBreak || (isBreak previous && c == ' ')
        breakAfterSpace := t.breakAfterSpace || (previous == ' ' && isBreak c)
        indicator := t.indicator || interrupts previous c rest.head? } c rest

/-- What a text shows. -/
def traits : List Char → Traits
  | [] => {}
  | c :: rest =>
    traitsFrom
      { several := isBreak c
        special := !isPlainChar c
        leadingSpace := c == ' '
        leadingBreak := isBreak c
        indicator := opens c rest.head? || ['-', '-', '-'].isPrefixOf (c :: rest) ||
          ['.', '.', '.'].isPrefixOf (c :: rest) } c rest

/-- The text may stand plain. -/
def Traits.plain (t : Traits) : Bool :=
  !(t.leadingSpace || t.leadingBreak || t.trailingSpace || t.trailingBreak || t.spaceAfterBreak ||
    t.breakAfterSpace || t.special || t.several || t.indicator)

/-- The text may stand in single quotes. -/
def Traits.single (t : Traits) : Bool := !(t.spaceAfterBreak || t.breakAfterSpace || t.special)

/-- The text may stand as a literal block. -/
def Traits.literal (t : Traits) : Bool := !(t.trailingSpace || t.breakAfterSpace || t.special)

/-! ### Texts that would be read as something else -/

/-- Digits behind a needless zero: not a number, but too close to one. -/
def zeroed (cs : List Char) : Bool :=
  let digits := match cs with
    | '-' :: rest => rest
    | '+' :: rest => rest
    | _ => cs
  digits.length > 1 && digits.head? == some '0' && digits.all Char.isDigit

/-- Digits of base `b` that fit into 128 bits. -/
def isBased (b : Nat) (ds : List Char) : Bool :=
  let value? := fun c : Char =>
    if c.isDigit then some (c.toNat - '0'.toNat)
    else if 'a' ≤ c && c ≤ 'f' then some (c.toNat - 'a'.toNat + 10)
    else if 'A' ≤ c && c ≤ 'F' then some (c.toNat - 'A'.toNat + 10)
    else none
  let values := ds.map value?
  !ds.isEmpty && values.all (fun v => v.any (· < b)) &&
    values.foldl (fun n v => n * b + v.getD 0) 0 < Nat.pow 2 128

/-- An integer with a sign for its base. -/
def isBasedInt : List Char → Bool
  | '0' :: 'x' :: ds => isBased 16 ds
  | '0' :: 'o' :: ds => isBased 8 ds
  | '0' :: 'b' :: ds => isBased 2 ds
  | _ => false

/-- A text that a reader takes for a number. -/
def isNumber (cs : List Char) : Bool :=
  let unsigned := match cs with
    | '-' :: rest => rest
    | '+' :: rest => rest
    | _ => cs
  let s := String.ofList unsigned
  isBasedInt unsigned || s == ".inf" || s == ".Inf" || s == ".INF" ||
    [".nan", ".NaN", ".NAN"].contains (String.ofList cs) ||
    (unsigned.any Char.isDigit && ((Decimal.float? (String.ofList cs)).any Float.isFinite))

/-- A text that a reader takes for something else than a text. -/
def isAmbiguous (s : String) : Bool :=
  s.isEmpty ||
    ["null", "Null", "NULL", "~", "true", "True", "TRUE", "false", "False", "FALSE"].contains s ||
    zeroed s.toList || isNumber s.toList

/-! ### Writing texts -/

/-- `n` digits of base sixteen in capitals. -/
def capitalHex (n value : Nat) : List Char :=
  let digits := (Nat.toDigits 16 value).map Char.toUpper
  List.replicate (n - digits.length) '0' ++ digits

/-- A character that has to be escaped. -/
def escapedChar (c : Char) : List Char :=
  let n := c.toNat
  if n == 0 then ['\\', '0']
  else if n == 0x07 then ['\\', 'a']
  else if n == 0x08 then ['\\', 'b']
  else if n == 0x09 then ['\\', 't']
  else if n == 0x0A then ['\\', 'n']
  else if n == 0x0B then ['\\', 'v']
  else if n == 0x0C then ['\\', 'f']
  else if n == 0x0D then ['\\', 'r']
  else if n == 0x1B then ['\\', 'e']
  else if n == 0x22 then ['\\', '"']
  else if n == 0x5C then ['\\', '\\']
  else if n == 0x85 then ['\\', 'N']
  else if n == 0xA0 then ['\\', '_']
  else if n == 0x2028 then ['\\', 'L']
  else if n == 0x2029 then ['\\', 'P']
  else if n ≤ 0xFF then '\\' :: 'x' :: capitalHex 2 n
  else '\\' :: 'u' :: capitalHex 4 n

/-- A text in double quotes. -/
def doubleQuoted (cs : List Char) : List Char :=
  '"' :: cs.flatMap (fun c =>
    if !isPlainChar c || isBreak c || c == '"' || c == '\\' then escapedChar c else [c]) ++ ['"']

/-- `n` spaces. -/
def spaces (n : Nat) : List Char := List.replicate n ' '

/-- Characters in single quotes, behind a character that ended a line or not. -/
def singleFrom (indent : Nat) : (fresh : Bool) → List Char → List Char
  | fresh, [] => if fresh then spaces indent else []
  | fresh, c :: rest =>
    if isBreak c then c :: singleFrom indent true rest
    else
      (if fresh then spaces indent else []) ++ (if c == '\'' then ['\'', '\''] else [c]) ++
        singleFrom indent false rest

/-- A text in single quotes. -/
def singleQuoted (indent : Nat) (cs : List Char) : List Char :=
  '\'' :: singleFrom indent false cs ++ ['\'']

/-- The lines of a literal block. -/
def literalFrom (indent : Nat) : (fresh : Bool) → List Char → List Char
  | _, [] => []
  | fresh, c :: rest =>
    if isBreak c then c :: literalFrom indent true rest
    else (if fresh then spaces indent else []) ++ c :: literalFrom indent false rest

/-- What the head of a literal block says about its end. -/
def chomping (cs : List Char) : List Char :=
  match cs.reverse with
  | [] => ['-']
  | [c] => if isBreak c then ['+'] else ['-']
  | c :: d :: _ => if !isBreak c then ['-'] else if isBreak d then ['+'] else []

/-- A literal block. -/
def literal (indent : Nat) (cs : List Char) : List Char :=
  let hint := if cs.head?.any (fun c => c == ' ' || isBreak c) then ['2'] else []
  '|' :: hint ++ chomping cs ++ '\n' :: literalFrom indent true cs

/-- A printed part, and whether it has ended its line. -/
structure Piece where
  text : List Char
  ended : Bool := false

/-- A text whose lines are indented by `indent`; `inKey` keeps it on the line of its key. -/
def textPiece (indent : Nat) (inKey : Bool) (s : String) : Piece :=
  let cs := s.toList
  let t := traits cs
  if cs.contains '\n' then
    if t.literal && !inKey then ⟨literal indent cs, cs.getLast?.any isBreak⟩ else ⟨doubleQuoted cs, false⟩
  else if t.plain && !isAmbiguous s then ⟨cs, false⟩
  else if t.single then ⟨singleQuoted indent cs, false⟩
  else ⟨doubleQuoted cs, false⟩

/-- A key that fits on the line of its value. -/
def isShortKey (s : String) : Bool := !(traits s.toList).several && s.utf8ByteSize ≤ 128

/-! ### Writing documents -/

/-- A part behind another one, on a line of its own. -/
def Piece.onNextLine (before : Piece) (indent : Nat) (next : Piece) : Piece :=
  ⟨before.text ++ (if before.ended then [] else ['\n']) ++ spaces indent ++ next.text, next.ended⟩

/-- A part behind a sign. -/
def Piece.behind (sign : List Char) (p : Piece) : Piece := ⟨sign ++ p.text, p.ended⟩

/-- Parts on lines of their own. -/
def stack (indent : Nat) : List Piece → Piece
  | [] => ⟨[], false⟩
  | p :: rest => rest.foldl (fun before next => before.onNextLine indent next) p

/-- A document that fits on the line of its key or sign. -/
def atom? (indent : Nat) : Tree → Option Piece
  | .null => some ⟨"null".toList, false⟩
  | .bool b => some ⟨(if b then "true" else "false").toList, false⟩
  | .int n => some ⟨(toString n).toList, false⟩
  | .float x => some ⟨(Decimal.inDocument.render x).toList, false⟩
  | .text s => some (textPiece indent false s)
  | .list [] => some ⟨['[', ']'], false⟩
  | .map [] => some ⟨['\x7b', '\x7d'], false⟩
  | .list (_ :: _) => none
  | .map (_ :: _) => none

/-- Where the lines of a value start: a sequence stands right under a short key, everything else
is indented. -/
def valueIndent (indent : Nat) (key : String) : Tree → Nat
  | .list _ => if isShortKey key then indent else indent + 2
  | _ => indent + 2

/-- An entry: a key, and its value on the same line if it is an atom, else on lines of its own. -/
def entryPiece (indent : Nat) (key : String) (value : Tree) (lines : Piece) : Piece :=
  if isShortKey key then
    let head := (textPiece (indent + 2) true key).text ++ [':']
    match atom? (indent + 2) value with
    | some p => p.behind (head ++ [' '])
    | none => Piece.onNextLine ⟨head, false⟩ (valueIndent indent key value) lines
  else
    ((textPiece (indent + 2) false key).behind ['?', ' ']).onNextLine indent
      (((atom? (indent + 2) value).getD lines).behind [':', ' '])

mutual

/-- A document whose lines start at `indent`, without the spaces of the first line. -/
def piece (indent : Nat) : Tree → Piece
  | .list ts => stack indent (itemPieces indent ts)
  | .map es => stack indent (entryPieces indent es)
  | .null => (atom? indent .null).getD ⟨[], false⟩
  | .bool b => (atom? indent (.bool b)).getD ⟨[], false⟩
  | .int n => (atom? indent (.int n)).getD ⟨[], false⟩
  | .float x => (atom? indent (.float x)).getD ⟨[], false⟩
  | .text s => (atom? indent (.text s)).getD ⟨[], false⟩
  termination_by structural t => t

/-- Items behind dashes at `indent`. -/
def itemPieces (indent : Nat) : List Tree → List Piece
  | [] => []
  | t :: rest =>
    ((atom? (indent + 2) t).getD (piece (indent + 2) t)).behind ['-', ' '] :: itemPieces indent rest
  termination_by structural ts => ts

/-- Entries at `indent`. -/
def entryPieces (indent : Nat) : List (String × Tree) → List Piece
  | [] => []
  | (k, t) :: rest =>
    entryPiece indent k t (piece (valueIndent indent k t) t) :: entryPieces indent rest
  termination_by structural es => es

end

/-- The text of a part, with the end of its last line. -/
def Piece.closed (p : Piece) : List Char := p.text ++ if p.ended then [] else ['\n']

/-- A document as a text of its own, in which every line is ended. -/
def print (t : Tree) : List Char := ((atom? 2 t).getD (piece 0 t)).closed

end Stencil.Data.Yaml
