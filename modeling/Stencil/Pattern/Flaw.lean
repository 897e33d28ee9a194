import Stencil.Text.Lines

/-! What is wrong with a pattern, and where.

A `Flaw` marks a span of the pattern, and sometimes a second one that it clashes with. `explain`
shows the pattern with the spans underlined; a pattern of several lines is shown with its line
numbers. -/
namespace Stencil.Pattern

/-- Characters of a pattern from `start` up to, but not including, `stop`. -/
structure Span where
  start : Nat
  stop : Nat
  deriving DecidableEq, Repr

/-- Causes. -/
inductive FlawKind where
  | classEscape
  | classRange
  | classRangeEnd
  | classUnclosed
  | decimalInvalid
  | hexEmpty
  | hexInvalid
  | hexDigit
  | escapeCut
  | escapeUnknown
  | flagDangling
  | flagTwice
  | flagNegatedTwice
  | flagCut
  | flagUnknown
  | nameTwice
  | nameEmpty
  | nameInvalid
  | nameCut
  | groupUnclosed
  | groupUnopened
  | countOrder
  | countEmpty
  | countUnclosed
  | nothingToRepeat
  | boundaryUnclosed
  | boundaryUnknown
  | boundaryCut
  | propertyInvalid
  | backreference
  | lookAround
  | unicodeNotAllowed
  | notUtf8
  | propertyUnknown
  | propertyValueUnknown
  deriving DecidableEq, Repr

/-- The words for a cause. -/
def FlawKind.message : FlawKind → String
  | .classEscape => "invalid escape sequence found in character class"
  | .classRange => "invalid character class range, the start must be <= the end"
  | .classRangeEnd => "invalid range boundary, must be a literal"
  | .classUnclosed => "unclosed character class"
  | .decimalInvalid => "decimal literal invalid"
  | .hexEmpty => "hexadecimal literal empty"
  | .hexInvalid => "hexadecimal literal is not a Unicode scalar value"
  | .hexDigit => "invalid hexadecimal digit"
  | .escapeCut => "incomplete escape sequence, reached end of pattern prematurely"
  | .escapeUnknown => "unrecognized escape sequence"
  | .flagDangling => "dangling flag negation operator"
  | .flagTwice => "duplicate flag"
  | .flagNegatedTwice => "flag negation operator repeated"
  | .flagCut => "expected flag but got end of regex"
  | .flagUnknown => "unrecognized flag"
  | .nameTwice => "duplicate capture group name"
  | .nameEmpty => "empty capture group name"
  | .nameInvalid => "invalid capture group character"
  | .nameCut => "unclosed capture group name"
  | .groupUnclosed => "unclosed group"
  | .groupUnopened => "unopened group"
  | .countOrder => "invalid repetition count range, the start must be <= the end"
  | .countEmpty => "repetition quantifier expects a valid decimal"
  | .countUnclosed => "unclosed counted repetition"
  | .nothingToRepeat => "repetition operator missing expression"
  | .boundaryUnclosed =>
    "special word boundary assertion is either unclosed or contains an invalid character"
  | .boundaryUnknown =>
    "unrecognized special word boundary assertion, valid choices are: start, end, start-half " ++
      "or end-half"
  | .boundaryCut =>
    "found either the beginning of a special word boundary or a bounded repetition on a \\b " ++
      "with an opening brace, but no closing brace"
  | .propertyInvalid => "invalid Unicode character class"
  | .backreference => "backreferences are not supported"
  | .lookAround => "look-around, including look-ahead and look-behind, is not supported"
  | .unicodeNotAllowed => "Unicode not allowed here"
  | .notUtf8 => "pattern can match invalid UTF-8"
  | .propertyUnknown => "Unicode property not found"
  | .propertyValueUnknown => "Unicode property value not found"

/-- A cause with the span it is found at and another one that it clashes with. -/
structure Flaw where
  kind : FlawKind
  span : Span
  other : Option Span := none
  deriving DecidableEq, Repr

/-- The line and the column of a character, both counted from zero. -/
def placeOf (pattern : List Char) (index : Nat) : Nat × Nat :=
  (pattern.take index).foldl
    (fun (line, column) c => if c == '\n' then (line + 1, 0) else (line, column + 1)) (0, 0)

/-- Spaces, then a mark under each span; `column` characters are written. -/
def marks : (column : Nat) → List (Nat × Nat) → List Char
  | _, [] => []
  | column, (start, stop) :: rest =>
    let length := max 1 (stop - start)
    List.replicate (start - column) ' ' ++ List.replicate length '^' ++
      marks (max column start + length) rest

/-- The spans of a flaw in the order of the pattern. -/
def Flaw.spans (f : Flaw) : List Span :=
  match f.other with
  | none => [f.span]
  | some other =>
    if other.start < f.span.start || (other.start == f.span.start && other.stop ≤ f.span.stop) then
      [other, f.span]
    else [f.span, other]

/-- The columns that spans cover on a line of their own. -/
def marksOn (pattern : List Char) (line : Nat) (spans : List Span) : List (Nat × Nat) :=
  spans.filterMap fun s =>
    let (startLine, startColumn) := placeOf pattern s.start
    let (stopLine, stopColumn) := placeOf pattern s.stop
    if startLine == line && stopLine == line then some (startColumn, stopColumn) else none

/-- A note on a span of several lines. -/
def manyLines? (pattern : List Char) (s : Span) : Option String :=
  let (startLine, startColumn) := placeOf pattern s.start
  let (stopLine, stopColumn) := placeOf pattern s.stop
  if startLine == stopLine then none
  else
    some (s!"on line {startLine + 1} (column {startColumn + 1}) " ++
      s!"through line {stopLine + 1} (column {stopColumn})")

/-- The lines of a pattern with the spans underlined, behind `heading` for each line. -/
def annotated (pattern : List Char) (spans : List Span) (indent : Nat) (heading : Nat → String) :
    String :=
  let shown := (Text.lines pattern).zipIdx.map fun (line, i) =>
    let under := marksOn pattern i spans
    heading i ++ String.ofList line ++ "\n" ++
      (if under.isEmpty then ""
       else String.ofList (List.replicate indent ' ' ++ marks 0 under) ++ "\n")
  String.join shown

/-- A number behind spaces, `width` characters in all. -/
def padded (width n : Nat) : String :=
  let s := toString n
  "".pushn ' ' (width - s.length) ++ s

/-- The pattern with the flaw underlined, and what is wrong. -/
def Flaw.explain (f : Flaw) (pattern : String) : String :=
  let cs := pattern.toList
  let head := "regex parse error:\n"
  let cause := "error: " ++ f.kind.message
  if cs.contains '\n' then
    let count := (Text.lines cs).length + (if cs.getLast? == some '\n' then 1 else 0)
    let width := if count ≤ 1 then 0 else (toString count).length
    let heading := fun i => if width == 0 then "    " else padded width (i + 1) ++ ": "
    let divider := "".pushn '~' 79 ++ "\n"
    let notes := (f.spans.filterMap (manyLines? cs))
    head ++ divider ++ annotated cs f.spans (if width == 0 then 4 else 2 + width) heading ++
      divider ++ (if notes.isEmpty then "" else "\n".intercalate notes ++ "\n") ++ cause
  else head ++ annotated cs f.spans 4 (fun _ => "    ") ++ cause

end Stencil.Pattern
