import Stencil.Template.Lexemes
import Stencil.Template.Tree

/-! Reading a template.

The words of a template are read from left to right with one word of foresight. Operators are read
by the strength with which they bind: a choice is loosest, then come alternatives, conjunctions,
negations and comparisons, sums, texts put together, products, powers, and the sign of a number;
parts, calls, filters and tests bind most strongly. `fuel` bounds the depth of the reading, whose
levels are limited anyway. -/
namespace Stencil.Template

/-- How far the words are read. -/
structure Progress where
  rest : List Lexeme
  fault : Option Fault
  /-- The line of the last word that was read. -/
  line : Nat := 0
  depth : Nat := 0
  inLoop : Bool := false
  inMacro : Bool := false
  blocks : List String := []

/-- A reader of words. -/
abbrev Parser := StateT Progress (Except Fault)

namespace Parser

/-- Stops at the line of the last word. -/
def fail (flaw : Flaw) : Parser α := do
  throw ⟨.flaw flaw, some (← get).line⟩

/-- The next word, if there is one. A text with a bad escape is refused, and so is what is wrong
behind the last word. -/
def peek : Parser (Option Token) := do
  let p ← get
  match p.rest, p.fault with
  | ⟨.badText, _⟩ :: _, _ => fail .badEscape
  | l :: _, _ => return some l.token
  | [], some fault => throw fault
  | [], none => return none

/-- The text that comes next, if there is one. What cannot be read is passed over; behind the last word
nothing follows then. -/
def nextText? : Parser (Option String) := do
  let p ← get
  match p.rest with
  | ⟨.text s, line⟩ :: rest =>
    set { p with rest, line }
    return some s
  | ⟨.badText, _⟩ :: rest =>
    set { p with rest }
    return none
  | _ :: _ => return none
  | [] =>
    set { p with fault := none }
    return none

/-- Takes the next word. -/
def next : Parser (Option Token) := do
  let token ← peek
  modify fun p =>
    match p.rest with
    | l :: rest => { p with rest, line := l.line }
    | [] => p
  return token

/-- The line of the next word, or of the last one at the end. -/
def nextLine : Parser Nat := do
  let p ← get
  match p.rest with
  | l :: _ => return l.line
  | [] => return p.line

/-- A word is a sign. -/
def isSign (s : Sign) : Option Token → Bool
  | some (.sign t) => s == t
  | _ => false

/-- A word is a name. -/
def isWord (name : String) : Option Token → Bool
  | some (.name n) => n == name
  | _ => false

/-- A word ends a statement. -/
def endsStatement : Option Token → Bool
  | some .statementEnd => true
  | _ => false

/-- Takes the next word if it is a certain sign. -/
def skipSign (s : Sign) : Parser Bool := do
  if isSign s (← peek) then
    let _ ← next
    return true
  else return false

/-- Takes the next word if it is a certain name. -/
def skipWord (name : String) : Parser Bool := do
  if isWord name (← peek) then
    let _ ← next
    return true
  else return false

/-- What messages call a word or the end. -/
def titleOf : Option Token → String
  | some t => t.title
  | none => "end of input"

/-- Takes a word that has to be there. -/
def expect (wanted : String) (p : Option Token → Bool) : Parser Unit := do
  let token ← next
  if !p token then fail (.expected (titleOf token) wanted)

/-- Takes a sign that has to be there. -/
def expectSign (s : Sign) : Parser Unit := expect ("\x60" ++ s.text ++ "\x60") (isSign s)

/-- Takes the end of a statement. -/
def expectStatementEnd : Parser Unit := expect "end of block" endsStatement

/-- Takes a name. -/
def name : Parser String := do
  let token ← next
  match token with
  | some (.name s) => return s
  | _ => fail (.expected (titleOf token) "identifier")

/-- Further names, each behind a point, as one text. -/
def moreNames : (fuel : Nat) → Parser String
  | 0 => return ""
  | fuel + 1 => do
    if ← skipSign .dot then
      let s ← name
      return "." ++ s ++ (← moreNames fuel)
    else return ""

/-- Takes the name of a filter or a test, which may have several parts with points between them. -/
def dottedName : Parser String := do
  let s ← name
  return s ++ (← moreNames (← get).rest.length)

/-- How deep a template may be nested. -/
def deepest : Nat := 150

/-- Reads something one level deeper. -/
def deeper (p : Parser α) : Parser α := do
  modify fun s => { s with depth := s.depth + 1 }
  if deepest < (← get).depth then fail .tooDeep
  let result ← p
  modify fun s => { s with depth := s.depth - 1 }
  return result

/-- Names that nothing may be assigned to. -/
def reservedNames : List String :=
  ["true", "True", "false", "False", "none", "None", "loop", "self"]

/-- Levels of operators with two operands, the loosest first. -/
inductive Level where
  | either
  | both
  | sum
  | join
  | product
  | power
  deriving DecidableEq, Repr

/-- What an operator of a level makes of its operands. -/
def Level.operator? : Level → Token → Option (Expr → Expr → Expr)
  | .either, .name "or" => some .either
  | .both, .name "and" => some .both
  | .sum, .sign .plus => some (.arithmetic .add)
  | .sum, .sign .minus => some (.arithmetic .sub)
  | .join, .sign .tilde => some .concat
  | .product, .sign .times => some (.arithmetic .mul)
  | .product, .sign .over => some (.arithmetic .div)
  | .product, .sign .overWhole => some (.arithmetic .floorDiv)
  | .product, .sign .percent => some (.arithmetic .rem)
  | .power, .sign .power => some (.arithmetic .pow)
  | _, _ => none

/-- The comparison that a sign stands for. -/
def comparison? : Token → Option Comparison
  | .sign .equal => some .equal
  | .sign .unequal => some .unequal
  | .sign .less => some .less
  | .sign .lessEqual => some .lessEqual
  | .sign .greater => some .greater
  | .sign .greaterEqual => some .greaterEqual
  | .name "in" => some .within
  | _ => none

/-- A word may begin the argument of a test that has no parentheses. -/
def beginsArgument : Option Token → Bool
  | some (.name s) => !(["and", "or", "else", "is"].contains s)
  | some (.text _) | some (.int _) | some (.float _) => true
  | some (.sign s) => [Sign.plus, .minus, .openBracket, .openBrace].contains s
  | _ => false

/-- The value that a name always has. -/
def constant? : String → Option Value
  | "true" | "True" => some (.bool true)
  | "false" | "False" => some (.bool false)
  | "none" | "None" => some .none
  | _ => none

/-- An end of a slice that is left out. -/
def leftOut (line : Nat) : Expr := .const .none line

/-- The most arguments of a call. -/
def mostArguments : Nat := 2000

/-- The outcome of a test, or its negation. -/
def judged (isNegated : Bool) (e : Expr) : Expr := if isNegated then .negation e else e

mutual

/-- An expression. -/
def expr : (fuel : Nat) → Parser Expr
  | 0 => fail .tooDeep
  | fuel + 1 => deeper (choice fuel)

/-- An expression, with conditions behind it. -/
def choice : (fuel : Nat) → Parser Expr
  | 0 => fail .tooDeep
  | fuel + 1 => do
    let first ← operand fuel .either
    conditions fuel first

/-- Conditions behind an expression. -/
def conditions : (fuel : Nat) → Expr → Parser Expr
  | 0, _ => fail .tooDeep
  | fuel + 1, yes => do
    if ← skipWord "if" then
      let condition ← operand fuel .either
      if ← skipWord "else" then
        let no ← choice fuel
        conditions fuel (.choice condition yes (some no))
      else conditions fuel (.choice condition yes none)
    else return yes

/-- Operands with operators of one level between them. -/
def operand : (fuel : Nat) → Level → Parser Expr
  | 0, _ => fail .tooDeep
  | fuel + 1, level => do
    let first ← tighter fuel level
    moreOperands fuel level first

/-- Operators of one level and their right operands, behind a left one. -/
def moreOperands : (fuel : Nat) → Level → Expr → Parser Expr
  | 0, _, _ => fail .tooDeep
  | fuel + 1, level, left => do
    match (← peek).bind level.operator? with
    | some join =>
      let _ ← next
      let right ← tighter fuel level
      moreOperands fuel level (join left right)
    | none => return left

/-- What binds more strongly than a level. -/
def tighter : (fuel : Nat) → Level → Parser Expr
  | 0, _ => fail .tooDeep
  | fuel + 1, level =>
    match level with
    | .either => operand fuel .both
    | .both => negation fuel
    | .sum => operand fuel .join
    | .join => operand fuel .product
    | .product => operand fuel .power
    | .power => signed fuel

/-- A negation or a comparison. -/
def negation : (fuel : Nat) → Parser Expr
  | 0 => fail .tooDeep
  | fuel + 1 => do
    if ← skipWord "not" then return .negation (← negation fuel)
    else
      let first ← operand fuel .sum
      let rest ← comparisons fuel
      if rest.isEmpty then return first else return .compare first rest

/-- Comparisons behind an operand. -/
def comparisons : (fuel : Nat) → Parser (List (Comparison × Expr))
  | 0 => fail .tooDeep
  | fuel + 1 => do
    let token ← peek
    if isWord "not" token then
      let _ ← next
      expect "in" (isWord "in")
      let right ← operand fuel .sum
      return (.outside, right) :: (← comparisons fuel)
    else
      match token.bind comparison? with
      | some c =>
        let _ ← next
        let right ← operand fuel .sum
        return (c, right) :: (← comparisons fuel)
      | none => return []

/-- A number with its sign, and what is done with it. -/
def signed : (fuel : Nat) → Parser Expr
  | 0 => fail .tooDeep
  | fuel + 1 => do
    let first ← minus fuel
    let whole ← parts fuel first
    filters fuel whole

/-- A number with its sign. -/
def minus : (fuel : Nat) → Parser Expr
  | 0 => fail .tooDeep
  | fuel + 1 => do
    let line ← nextLine
    if ← skipSign .minus then return .minus (← minus fuel) line
    else primary fuel

/-- Attributes, items, slices and calls behind an expression. -/
def parts : (fuel : Nat) → Expr → Parser Expr
  | 0, _ => fail .tooDeep
  | fuel + 1, base => do
    let line ← nextLine
    if ← skipSign .dot then
      let token ← next
      match token with
      | some (.name s) => parts fuel (.field base s line)
      | some (.int n) =>
        if n < Int.pow 2 64 then parts fuel (.item base (.const (.int n) line))
        else fail (.expected (titleOf token) "identifier or integer")
      | _ => fail (.expected (titleOf token) "identifier or integer")
    else if ← skipSign .openBracket then
      let start ← sliceEnd fuel [.colon]
      if ← skipSign .colon then
        let stop ← sliceEnd fuel [.closeBracket, .colon]
        let hasStep ← skipSign .colon
        let step ← if hasStep then sliceEnd fuel [.closeBracket] else pure none
        expectSign .closeBracket
        parts fuel (.slice base (start.getD (leftOut line)) (stop.getD (leftOut line))
          (step.getD (leftOut line)))
      else
        expectSign .closeBracket
        parts fuel (.item base (start.getD (leftOut line)))
    else if isSign .openParen (← peek) then
      let args ← arguments fuel
      parts fuel (.call base args line)
    else return base

/-- An end of a slice, unless one of some signs follows. -/
def sliceEnd : (fuel : Nat) → List Sign → Parser (Option Expr)
  | 0, _ => fail .tooDeep
  | fuel + 1, stops => do
    let token ← peek
    if stops.any fun s => isSign s token then return none
    else return some (← expr fuel)

/-- Filters and tests behind an expression. -/
def filters : (fuel : Nat) → Expr → Parser Expr
  | 0, _ => fail .tooDeep
  | fuel + 1, subject => do
    if ← skipSign .pipe then
      let called ← dottedName
      let line := (← get).line
      let args ← optionalArguments fuel
      filters fuel (.filter called subject args line)
    else if ← skipWord "is" then
      let isNegated ← skipWord "not"
      let called ← dottedName
      let line := (← get).line
      let token ← peek
      if !isSign .openParen token && beginsArgument token then
        let first ← minus fuel
        let argument ← parts fuel first
        filters fuel (judged isNegated (.test called subject [.positional argument] line))
      else
        let args ← optionalArguments fuel
        filters fuel (judged isNegated (.test called subject args line))
    else return subject

/-- Arguments, if a parenthesis opens. -/
def optionalArguments : (fuel : Nat) → Parser (List Arg)
  | 0 => fail .tooDeep
  | fuel + 1 => do
    if isSign .openParen (← peek) then arguments fuel else return []

/-- Arguments in parentheses. -/
def arguments : (fuel : Nat) → Parser (List Arg)
  | 0 => fail .tooDeep
  | fuel + 1 => do
    expectSign .openParen
    argumentsFrom fuel 0 false

/-- Arguments behind `count` others. -/
def argumentsFrom : (fuel : Nat) → (count : Nat) → (hasNamed : Bool) → Parser (List Arg)
  | 0, _, _ => fail .tooDeep
  | fuel + 1, count, hasNamed => do
    if ← skipSign .closeParen then return []
    if 0 < count then
      expectSign .comma
      if ← skipSign .closeParen then return []
    let spreadsNamed ← skipSign .power
    let spreads ← if spreadsNamed then pure false else skipSign .times
    let e ← expr fuel
    if mostArguments ≤ count then fail .tooManyArguments
    if spreadsNamed then return .spreadNamed e :: (← argumentsFrom fuel (count + 1) true)
    else if spreads then return .spread e :: (← argumentsFrom fuel (count + 1) hasNamed)
    else
      let named? := match e with
        | .var n _ => some n
        | _ => none
      let isNamed ← if named?.isSome then skipSign .assign else pure false
      if isNamed then
        let value ← expr fuel
        return .named (named?.getD "") value :: (← argumentsFrom fuel (count + 1) true)
      else if hasNamed then fail .positionalAfterNamed
      else return .positional e :: (← argumentsFrom fuel (count + 1) hasNamed)

/-- An expression that does not start with a part of it. -/
def primary : (fuel : Nat) → Parser Expr
  | 0 => fail .tooDeep
  | fuel + 1 => deeper (atom fuel)

/-- A constant, a variable, or an expression in brackets. -/
def atom : (fuel : Nat) → Parser Expr
  | 0 => fail .tooDeep
  | fuel + 1 => do
    let token ← next
    let line := (← get).line
    match token with
    | none => fail (.expected "end of input" "expression")
    | some (.name s) =>
      match constant? s with
      | some v => return .const v line
      | none => return .var s line
    | some (.text s) => return .const (.ofString (s ++ (← moreText fuel))) line
    | some (.int n) => return .const (.int n) line
    | some (.float x) => return .const (.float x) line
    | some (.sign .openParen) =>
      if ← skipSign .closeParen then return .list [] line
      else
        let first ← expr fuel
        if isSign .comma (← peek) then
          return .list (first :: (← moreItems fuel .closeParen)) line
        else
          expectSign .closeParen
          return first
    | some (.sign .openBracket) =>
      if ← skipSign .closeBracket then return .list [] line
      else
        let first ← expr fuel
        return .list (first :: (← moreItems fuel .closeBracket)) line
    | some (.sign .openBrace) => return .map (← entries fuel true) line
    | some t => fail (.unexpected t.title)

/-- Texts that follow a text. -/
def moreText : (fuel : Nat) → Parser String
  | 0 => fail .tooDeep
  | fuel + 1 => do
    match ← nextText? with
    | some s => return s ++ (← moreText fuel)
    | none => return ""

/-- Items behind a first one, up to a closing sign. -/
def moreItems : (fuel : Nat) → (closing : Sign) → Parser (List Expr)
  | 0, _ => fail .tooDeep
  | fuel + 1, closing => do
    if ← skipSign closing then return []
    expectSign .comma
    if ← skipSign closing then return []
    let e ← expr fuel
    return e :: (← moreItems fuel closing)

/-- Entries of a map, up to its closing brace. -/
def entries : (fuel : Nat) → (isFirst : Bool) → Parser (List (Expr × Expr))
  | 0, _ => fail .tooDeep
  | fuel + 1, isFirst => do
    if ← skipSign .closeBrace then return []
    if !isFirst then
      expectSign .comma
      if ← skipSign .closeBrace then return []
    let key ← expr fuel
    expectSign .colon
    let value ← expr fuel
    return (key, value) :: (← entries fuel false)

end

end Parser
end Stencil.Template
