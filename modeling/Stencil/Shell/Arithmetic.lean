import Stencil.Shell.Reader

/-! Arithmetic of the shell.

An expression is read by the strength of its operators and computed on 64-bit integers. A name
stands for the number that its variable holds, and for nought if it holds nothing. -/
namespace Stencil.Shell

/-- An arithmetic expression. -/
inductive Formula where
  | number (n : Int)
  | variable (name : Chars)
  | unary (sign : String) (a : Formula)
  | binary (sign : String) (a b : Formula)
  | choice (c a b : Formula)
  | assign (name : Chars) (sign : String) (a : Formula)
  deriving Repr

namespace Formula

/-- An integer, brought into 64 bits. -/
def wrap (n : Int) : Int := Int.bmod n (Nat.pow 2 64)

/-- The value of a digit of any base up to 16. -/
def digitValue? (c : Char) : Option Nat :=
  if c.isDigit then some (c.toNat - '0'.toNat)
  else if 'a' ≤ c && c ≤ 'f' then some (c.toNat - 'a'.toNat + 10)
  else if 'A' ≤ c && c ≤ 'F' then some (c.toNat - 'A'.toNat + 10)
  else none

/-- A number in a base. -/
def inBase? (base : Nat) (cs : Chars) : Option Nat :=
  if cs.isEmpty then none
  else cs.foldlM (fun n c => (digitValue? c).bind fun d => if d < base then some (n * base + d) else none) 0

/-- A number as it is written in a program: decimal, octal after `0`, hexadecimal after `0x`. -/
def natural? : Chars → Option Nat
  | '0' :: x :: rest =>
    if x == 'x' || x == 'X' then inBase? 16 rest else inBase? 8 (x :: rest)
  | cs => inBase? 10 cs

/-- A number with a sign, among blanks. -/
def integer? (cs : Chars) : Option Int :=
  let cs := cs.dropWhile (fun c => c == ' ' || c == '\t' || c == '\n')
  let cs := (cs.reverse.dropWhile (fun c => c == ' ' || c == '\t' || c == '\n')).reverse
  match cs with
  | '-' :: rest => (natural? rest).map fun n => -Int.ofNat n
  | '+' :: rest => (natural? rest).map Int.ofNat
  | _ => (natural? cs).map Int.ofNat

/-- Signs between operands, longest first, with their strength. -/
def signs : List (String × Nat) :=
  [("<<", 8), (">>", 8), ("<=", 7), (">=", 7), ("==", 6), ("!=", 6), ("&&", 2), ("||", 1),
    ("*", 10), ("/", 10), ("%", 10), ("+", 9), ("-", 9), ("<", 7), (">", 7), ("&", 5), ("^", 4),
    ("|", 3)]

/-- Signs that assign. -/
def assignments : List String :=
  ["<<=", ">>=", "+=", "-=", "*=", "/=", "%=", "&=", "^=", "|="]

/-- What follows blanks. -/
def skip (cs : Chars) : Chars := cs.dropWhile (fun c => c == ' ' || c == '\t' || c == '\n')

/-- What follows a text that stands here. -/
def after? (s : String) (cs : Chars) : Option Chars :=
  if s.toList.isPrefixOf cs then some (cs.drop s.length) else none

/-- The assigning sign that stands here: the operation before it, and what follows. -/
def assignment? (cs : Chars) : Option (String × Chars) :=
  match assignments.findSome? fun s => (after? s cs).map fun rest => (s, rest) with
  | some (s, rest) => some ((s.toList.dropLast |> String.ofList), rest)
  | none =>
    match cs with
    | '=' :: '=' :: _ => none
    | '=' :: rest => some ("", rest)
    | _ => none

mutual

/-- An operand. -/
def operand : (fuel : Nat) → Chars → Option (Formula × Chars)
  | 0, _ => none
  | fuel + 1, cs =>
    match skip cs with
    | '(' :: rest => do
      let (a, rest) ← expression fuel rest
      match skip rest with
      | ')' :: rest => some (a, rest)
      | _ => none
    | '-' :: rest => (operand fuel rest).map fun (a, rest) => (.unary "-" a, rest)
    | '+' :: rest => operand fuel rest
    | '!' :: rest => (operand fuel rest).map fun (a, rest) => (.unary "!" a, rest)
    | '~' :: rest => (operand fuel rest).map fun (a, rest) => (.unary "~" a, rest)
    | cs =>
      let word := cs.takeWhile Reader.isNameChar
      let rest := cs.dropWhile Reader.isNameChar
      if Reader.isName word then
        match assignment? (skip rest) with
        | some (sign, rest) => (expression fuel rest).map fun (a, rest) => (.assign word sign a, rest)
        | none => some (.variable word, rest)
      else (natural? word).map fun n => (.number n, rest)

/-- Operators that bind at least as strongly as `least`, behind a first operand. -/
def behind (least : Nat) : (fuel : Nat) → Formula → Chars → Option (Formula × Chars)
  | 0, _, _ => none
  | fuel + 1, a, cs =>
    match signs.findSome? fun (s, strength) => (after? s (skip cs)).map fun rest => (s, strength, rest) with
    | some (s, strength, rest) =>
      if strength < least then some (a, cs)
      else do
        let (b, rest) ← operand fuel rest
        let (b, rest) ← behind (strength + 1) fuel b rest
        behind least fuel (.binary s a b) rest
    | none => some (a, cs)

/-- An expression. -/
def expression : (fuel : Nat) → Chars → Option (Formula × Chars)
  | 0, _ => none
  | fuel + 1, cs => do
    let (a, rest) ← operand fuel cs
    let (a, rest) ← behind 1 fuel a rest
    match skip rest with
    | '?' :: rest => do
      let (b, rest) ← expression fuel rest
      match skip rest with
      | ':' :: rest => do
        let (c, rest) ← expression fuel rest
        some (.choice a b c, rest)
      | _ => none
    | _ => some (a, rest)

end

/-- The expression that a text spells; an empty one is nought. -/
def ofText (cs : Chars) : Option Formula :=
  if (skip cs).isEmpty then some (.number 0)
  else
    match expression (4 * cs.length + 8) cs with
    | some (f, rest) => if (skip rest).isEmpty then some f else none
    | none => none

/-- An operation on two numbers; there is no quotient by nought. -/
def operate (sign : String) (a b : Int) : Option Int :=
  let truth (p : Bool) : Option Int := some (if p then 1 else 0)
  match sign with
  | "" => some b
  | "+" => some (wrap (a + b))
  | "-" => some (wrap (a - b))
  | "*" => some (wrap (a * b))
  | "/" => if b == 0 then none else some (wrap (Int.tdiv a b))
  | "%" => if b == 0 then none else some (Int.tmod a b)
  | "<<" => some (wrap (a * Int.pow 2 (b % 64).toNat))
  | ">>" => some (Int.fdiv a (Int.pow 2 (b % 64).toNat))
  | "<" => truth (a < b)
  | ">" => truth (a > b)
  | "<=" => truth (a ≤ b)
  | ">=" => truth (a ≥ b)
  | "==" => truth (a == b)
  | "!=" => truth (a != b)
  | "&" => some (BitVec.toInt (BitVec.ofInt 64 a &&& BitVec.ofInt 64 b))
  | "|" => some (BitVec.toInt (BitVec.ofInt 64 a ||| BitVec.ofInt 64 b))
  | "^" => some (BitVec.toInt (BitVec.ofInt 64 a ^^^ BitVec.ofInt 64 b))
  | _ => none

/-- The number that a variable holds. -/
def numberOf? (text? : Option Chars) : Option Int :=
  let text := text?.getD []
  if text.isEmpty then some 0 else (integer? text).map wrap

/-- Computes an expression. Variables are read and written through the state. -/
def compute (read : Chars → σ → Option Chars) (write : Chars → Chars → σ → σ) :
    Formula → StateT σ Option Int
  | .number n => pure (wrap n)
  | .variable name => do
    match numberOf? (read name (← get)) with
    | some n => return n
    | none => failure
  | .unary sign a => do
    let n ← compute read write a
    match sign with
    | "-" => return wrap (-n)
    | "!" => return if n == 0 then 1 else 0
    | _ => return -n - 1
  | .binary sign a b => do
    let m ← compute read write a
    if sign == "&&" then
      if m == 0 then return 0
      return if (← compute read write b) == 0 then 0 else 1
    else if sign == "||" then
      if m != 0 then return 1
      return if (← compute read write b) == 0 then 0 else 1
    else
      match operate sign m (← compute read write b) with
      | some n => return n
      | none => failure
  | .choice c a b => do
    if (← compute read write c) != 0 then compute read write a else compute read write b
  | .assign name sign a => do
    let before ← get
    let old? := if sign.isEmpty then some 0 else numberOf? (read name before)
    let new ← compute read write a
    match old?.bind fun old => operate sign old new with
    | some n =>
      modify (write name (toString n).toList)
      return n
    | none => failure

end Formula
end Stencil.Shell
