import Stencil.Decimal.Read
import Stencil.Template.Cause
import Stencil.Text.Pieces

/-! The words of a template.

Text stands between expressions in double braces, statements between brace and percent sign, and
comments between brace and number sign. A minus sign at an edge of one of these takes the white
space beside it away. `Lexeme.ofText` cuts a template into words with the lines where they
start; behind the last word there may be a fault. -/
namespace Stencil.Template

/-- Signs in expressions. -/
inductive Sign where
  | plus
  | minus
  | times
  | over
  | overWhole
  | power
  | percent
  | dot
  | comma
  | colon
  | tilde
  | assign
  | pipe
  | equal
  | unequal
  | greater
  | greaterEqual
  | less
  | lessEqual
  | openBracket
  | closeBracket
  | openParen
  | closeParen
  | openBrace
  | closeBrace
  deriving DecidableEq, Repr

/-- How a sign is written. -/
def Sign.text : Sign → String
  | .plus => "+"
  | .minus => "-"
  | .times => "*"
  | .over => "/"
  | .overWhole => "//"
  | .power => "**"
  | .percent => "%"
  | .dot => "."
  | .comma => ","
  | .colon => ":"
  | .tilde => "~"
  | .assign => "="
  | .pipe => "|"
  | .equal => "=="
  | .unequal => "!="
  | .greater => ">"
  | .greaterEqual => ">="
  | .less => "<"
  | .lessEqual => "<="
  | .openBracket => "["
  | .closeBracket => "]"
  | .openParen => "("
  | .closeParen => ")"
  | .openBrace => "\x7b"
  | .closeBrace => "\x7d"

/-- A word of a template. A text with a bad escape is one too: it is refused where it is used. -/
inductive Token where
  | data (text : List Char)
  | expressionStart
  | expressionEnd
  | statementStart
  | statementEnd
  | name (s : String)
  | text (s : String)
  | badText
  | int (n : Nat)
  | float (x : Float)
  | sign (s : Sign)

/-- What messages call a word. -/
def Token.title : Token → String
  | .data _ => "template-data"
  | .expressionStart => "start of variable block"
  | .expressionEnd => "end of variable block"
  | .statementStart => "start of block"
  | .statementEnd => "end of block"
  | .name _ => "identifier"
  | .text _ | .badText => "string"
  | .int _ => "integer"
  | .float _ => "float"
  | .sign s => "\x60" ++ s.text ++ "\x60"

/-- A word and the line where it starts. -/
structure Lexeme where
  token : Token
  line : Nat

/-- The words of a template, and what is wrong behind them. -/
structure Lexemes where
  words : List Lexeme
  fault : Option Fault

/-- What begins where a brace stands before a second sign. -/
inductive Marker where
  | expression
  | statement
  | comment
  deriving DecidableEq, Repr

/-- What an edge does with the white space beside it. -/
inductive Edge where
  | plain
  | trim
  | keep
  deriving DecidableEq, Repr

namespace Lexeme

/-- What the second sign of a marker begins. -/
def markerOf? (c : Char) : Option Marker :=
  if c == '\x7b' then some .expression
  else if c == '%' then some .statement
  else if c == '#' then some .comment
  else none

/-- The edge at the start of a text, and what follows it. -/
def edge : List Char → Edge × List Char
  | '-' :: rest => (.trim, rest)
  | '+' :: rest => (.keep, rest)
  | rest => (.plain, rest)

/-- The marker that stands at the start of a text, with its edge and what follows. -/
def marker? : List Char → Option (Marker × Edge × List Char)
  | a :: b :: rest =>
    if a == '\x7b' then (markerOf? b).map fun m => (m, edge rest) else none
  | _ => none

/-- The text before the first marker, the marker, and what follows. -/
def upToMarker : List Char → List Char × Option (Marker × Edge × List Char)
  | [] => ([], none)
  | c :: rest =>
    match marker? (c :: rest) with
    | some m => ([], some m)
    | none =>
      let (before, m) := upToMarker rest
      (c :: before, m)

/-- The line behind a text. -/
def lineAfter (line : Nat) (text : List Char) : Nat := line + text.count '\n'

/-- A blank inside of expressions and statements. -/
def isSpace (c : Char) : Bool := " \t\n\r\x0c".toList.contains c

/-- What ends an expression, a statement or a comment. -/
def closing : Marker → List Char
  | .expression => ['\x7d', '\x7d']
  | .statement => ['%', '\x7d']
  | .comment => ['#', '\x7d']

/-- The edge and the end of an expression or a statement, if they stand here. -/
def ending? (m : Marker) (text : List Char) : Option (Edge × List Char) :=
  let (e, rest) := edge text
  match Text.after? (closing m) rest with
  | some after => some (e, after)
  | none => none

/-- A statement that is only a name, behind its opening marker: the edge at its end and what
follows. -/
def bare? (name : String) (text : List Char) : Option (Edge × List Char) := do
  let after ← Text.after? name.toList (text.dropWhile isSpace)
  ending? .statement (after.dropWhile isSpace)

/-- The text up to a statement of one name: that text, the edges of the statement, and what
follows. -/
def upToBare? (name : String) : List Char → Option (List Char × Edge × Edge × List Char)
  | [] => none
  | c :: rest =>
    let here : Option (Edge × Edge × List Char) := do
      let inside ← Text.after? ['\x7b', '%'] (c :: rest)
      let (first, inside) := edge inside
      let (last, after) ← bare? name inside
      some (first, last, after)
    match here with
    | some (first, last, after) => some ([], first, last, after)
    | none => (upToBare? name rest).map fun (before, first, last, after) =>
      (c :: before, first, last, after)

/-- Signs of two characters. -/
def pairSign? (a b : Char) : Option Sign :=
  match a, b with
  | '/', '/' => some .overWhole
  | '*', '*' => some .power
  | '=', '=' => some .equal
  | '!', '=' => some .unequal
  | '>', '=' => some .greaterEqual
  | '<', '=' => some .lessEqual
  | _, _ => none

/-- Signs of one character. -/
def singleSign? : Char → Option Sign
  | '+' => some .plus
  | '-' => some .minus
  | '*' => some .times
  | '/' => some .over
  | '%' => some .percent
  | '.' => some .dot
  | ',' => some .comma
  | ':' => some .colon
  | '~' => some .tilde
  | '=' => some .assign
  | '|' => some .pipe
  | '>' => some .greater
  | '<' => some .less
  | '[' => some .openBracket
  | ']' => some .closeBracket
  | '(' => some .openParen
  | ')' => some .closeParen
  | '\x7b' => some .openBrace
  | '\x7d' => some .closeBrace
  | _ => none

/-- How much deeper brackets are behind a sign. -/
def depthOf : Sign → Int
  | .openBracket | .openParen | .openBrace => 1
  | .closeBracket | .closeParen | .closeBrace => -1
  | _ => 0

/-- A character of a name, and one that may begin it. -/
def isNameChar (c : Char) : Bool := c.isAlphanum || c == '_'

/-- A character that may begin a name. -/
def isNameStart (c : Char) : Bool := c.isAlpha || c == '_'

/-- The characters of a text up to its closing quote, escapes included, and what follows. -/
def upToQuote? (quote : Char) : List Char → Option (List Char × List Char)
  | [] => none
  | '\\' :: c :: rest => (upToQuote? quote rest).map fun (s, after) => ('\\' :: c :: s, after)
  | c :: rest =>
    if c == quote then some ([], rest)
    else if c == '\\' then none
    else (upToQuote? quote rest).map fun (s, after) => (c :: s, after)

/-- The value of a digit. -/
def digit? (radix : Nat) (c : Char) : Option Nat :=
  let value : Option Nat :=
    if c.isDigit then some (c.toNat - '0'.toNat)
    else if 'a' ≤ c && c ≤ 'z' then some (c.toNat - 'a'.toNat + 10)
    else if 'A' ≤ c && c ≤ 'Z' then some (c.toNat - 'A'.toNat + 10)
    else none
  value.bind fun d => if d < radix then some d else none

/-- The number that digits spell; one sign may stand before them. -/
def inRadix? (radix : Nat) (cs : List Char) : Option Nat :=
  let cs := match cs with
    | '+' :: rest => rest
    | rest => rest
  if cs.isEmpty then none
  else cs.foldlM (fun n c => (digit? radix c).map fun d => n * radix + d) 0

/-- A text under construction: its characters, the last one first, and the first half of a
character that is spelled in two. -/
structure Unescaped where
  done : List Char := []
  half : Nat := 0

/-- Adds a character, which may not stand between two halves. -/
def Unescaped.push (u : Unescaped) (c : Char) : Option Unescaped :=
  if u.half == 0 then some { u with done := c :: u.done } else none

/-- Adds a unit of sixteen bits. -/
def Unescaped.pushUnit (u : Unescaped) (n : Nat) : Option Unescaped :=
  let isHalf := 0xD800 ≤ n && n ≤ 0xDFFF
  if u.half == 0 then
    if isHalf then some { u with half := n } else u.push (Char.ofNat n)
  else if isHalf && u.half < 0xDC00 && 0xDC00 ≤ n then
    let c := Char.ofNat (0x10000 + (u.half - 0xD800) * 0x400 + (n - 0xDC00))
    some { done := c :: u.done, half := 0 }
  else none

/-- The character that a letter behind a backslash stands for. -/
def escaped? : Char → Option Char
  | '"' => some '"'
  | '\\' => some '\\'
  | '/' => some '/'
  | '\'' => some '\''
  | 'b' => some '\x08'
  | 'f' => some '\x0c'
  | 'n' => some '\n'
  | 'r' => some '\r'
  | 't' => some '\t'
  | _ => none

/-- Replaces escapes; `skip` characters belong to an escape that is done. -/
def unescapeFrom (u : Unescaped) : (skip : Nat) → List Char → Option Unescaped
  | _, [] => some u
  | skip + 1, _ :: rest => unescapeFrom u skip rest
  | 0, '\\' :: c :: rest =>
    match escaped? c with
    | some d => (u.push d).bind fun v => unescapeFrom v 0 rest
    | none =>
      if c == 'u' then do
        let n ← inRadix? 16 (rest.take 4)
        if rest.length < 4 then none
        else (u.pushUnit n).bind fun v => unescapeFrom v 4 rest
      else if c == 'x' then do
        let n ← inRadix? 16 (rest.take 2)
        if rest.length < 2 then none
        else (u.push (Char.ofNat n)).bind fun v => unescapeFrom v 2 rest
      else if (digit? 8 c).isSome then do
        let digits := c :: (rest.take 2).takeWhile fun d => (digit? 8 d).isSome
        let n ← inRadix? 8 digits
        if 0xFF < n then none
        else (u.push (Char.ofNat n)).bind fun v => unescapeFrom v (digits.length - 1) rest
      else do
        let v ← u.push '\\'
        let w ← v.push c
        unescapeFrom w 0 rest
  | 0, c :: rest =>
    if c == '\\' then none else (u.push c).bind fun v => unescapeFrom v 0 rest

/-- A text with its escapes replaced. -/
def unescape? (cs : List Char) : Option String := do
  let u ← unescapeFrom {} 0 cs
  if u.half == 0 then some (String.ofList u.done.reverse) else none

/-- What a number has shown so far: its whole part, a point, the start of a power, or digits of
the power. -/
inductive NumberState where
  | radix (n : Nat)
  | whole
  | point
  | power
  | powerDigits
  deriving DecidableEq, Repr

/-- The digits of a power, perhaps behind a sign, stand at the start of a text. -/
def beginsPower : List Char → Bool
  | c :: rest => c.isDigit || ((c == '+' || c == '-') && (rest.head?.any Char.isDigit))
  | [] => false

/-- A point belongs to a number unless a name follows it. The sign of a power is no name. -/
def beginsFraction : List Char → Bool
  | c :: rest => !isNameStart c || ((c == 'e' || c == 'E') && beginsPower rest)
  | [] => true

/-- The characters of a number, and where it got to. -/
def numberChars : NumberState → List Char → List Char × NumberState
  | state, [] => ([], state)
  | state, c :: rest =>
    let next : Option NumberState :=
      if c == '_' then some state
      else if c.isDigit then some (if state == .power then .powerDigits else state)
      else
        match state with
        | .radix 16 => if (digit? 16 c).isSome then some state else none
        | .whole =>
          if c == '.' then (if beginsFraction rest then some .point else none)
          else if c == 'e' || c == 'E' then some .power
          else none
        | .point => if c == 'e' || c == 'E' then some .power else none
        | .power => if c == '+' || c == '-' then some .powerDigits else none
        | _ => none
    match next with
    | some s =>
      let (cs, last) := numberChars s rest
      (c :: cs, last)
    | none => ([], state)

/-- The base that the start of a number names. -/
def radixOf (cs : List Char) : Option Nat :=
  match cs with
  | '0' :: c :: _ =>
    if c == 'b' || c == 'B' then some 2
    else if c == 'o' || c == 'O' then some 8
    else if c == 'x' || c == 'X' then some 16
    else none
  | _ => none

/-- The greatest whole number that can be written. -/
def greatestNumber : Nat := Nat.pow 2 128 - 1

/-- A number at the start of a text: the word, or what is wrong with it, and what follows. -/
def number (text : List Char) : Except Flaw Token × List Char :=
  let radix? := radixOf text
  let text := if radix?.isSome then text.drop 2 else text
  let start := match radix? with
    | some r => NumberState.radix r
    | none => .whole
  let (cs, state) := numberChars start text
  let rest := text.drop cs.length
  let digits := cs.filter (· != '_')
  let token : Except Flaw Token :=
    if cs.contains '_' && cs.getLast? == some '_' then .error .numberEnd
    else
      match state with
      | .whole | .radix _ =>
        match inRadix? (radix?.getD 10) digits with
        | some n => if n ≤ greatestNumber then .ok (.int n) else .error .badInteger
        | none => .error .badInteger
      | _ =>
        match Decimal.float? (String.ofList digits) with
        | some x => .ok (.float x)
        | none => .error .badFloat
  (token, rest)

/-- A word inside of an expression or a statement that does not start with a blank, and what follows
it. Behind a flaw follows what was not looked at. -/
def word (text : List Char) : Except Flaw Token × List Char :=
  match text with
  | [] => (.error .badCharacter, [])
  | c :: rest =>
    match rest.head?.bind (pairSign? c) with
    | some s => (.ok (.sign s), rest.drop 1)
    | none =>
      match singleSign? c with
      | some s => (.ok (.sign s), rest)
      | none =>
        if c == '\'' || c == '"' then
          match upToQuote? c rest with
          | none => (.error .openText, [])
          | some (inside, after) =>
            match unescape? inside with
            | some s => (.ok (.text s), after)
            | none => (.ok .badText, after)
        else if c.isDigit then number text
        else if isNameStart c then
          let name := text.takeWhile isNameChar
          (.ok (.name (String.ofList name)), text.drop name.length)
        else (.error .badCharacter, rest)


end Lexeme
end Stencil.Template
