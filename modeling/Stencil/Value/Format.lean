import Stencil.Decimal.Fixed
import Stencil.Value.Item

/-! Texts with places for values.

A place is a percent sign, marks for sign and padding, a width, a precision and a letter that says how
the value is written. Every value has to find a place. -/
namespace Stencil.Format
open Value (asFloat?)

/-- A place for a value. -/
structure Slot where
  left : Bool := false
  plus : Bool := false
  blank : Bool := false
  zero : Bool := false
  alternate : Bool := false
  width : Nat := 0
  precision : Option Nat := none
  deriving Repr

namespace Slot

/-- A text in its field. -/
def pad (s : Slot) (numeric : Bool) (sign body : List Char) : List Char :=
  let gap := s.width - (sign.length + body.length)
  if s.left then sign ++ body ++ List.replicate gap ' '
  else if numeric && s.zero then sign ++ List.replicate gap '0' ++ body
  else List.replicate gap ' ' ++ sign ++ body

/-- The sign that is written before a number. -/
def sign (s : Slot) (negative : Bool) : List Char :=
  if negative then ['-'] else if s.plus then ['+'] else if s.blank then [' '] else []

/-- Marks at the start of a place. -/
def marks (s : Slot) : List Char → Slot × List Char
  | '-' :: rest => marks { s with left := true } rest
  | '+' :: rest => marks { s with plus := true } rest
  | ' ' :: rest => marks { s with blank := true } rest
  | '0' :: rest => marks { s with zero := true } rest
  | '#' :: rest => marks { s with alternate := true } rest
  | rest => (s, rest)

end Slot

/-- The integer that a number means in a text. -/
def wholeOf (v : Value) : Except Problem Int :=
  match v with
  | .bool b => .ok (if b then 1 else 0)
  | .int n => .ok n
  | .float x => .ok ((Decimal.truncate? x).getD 0)
  | _ => .error (.formatNotNumber v.kind)

/-- The float that a number means in a text. -/
def floatOf (v : Value) : Except Problem Float :=
  match asFloat? true v with
  | some x => .ok x
  | none => .error (.formatNotNumber v.kind)

/-- A power of ten behind a number. -/
def powerText (letter : Char) (p : Int) : List Char :=
  let digits := (toString p.natAbs).toList
  letter :: (if p < 0 then '-' else '+') ::
    (if digits.length < 2 then '0' :: digits else digits)

/-- A number without zeros at the end of its fraction. -/
def withoutZeros (cs : List Char) : List Char :=
  if cs.contains '.' then
    Text.trimEnd (· == '.') (Text.trimEnd (· == '0') cs)
  else cs

/-- A value as a letter asks for it. -/
def written (s : Slot) (letter : Char) (v : Value) : Except Problem (List Char) :=
  let cut (cs : List Char) : List Char := match s.precision with
    | some p => cs.take p
    | none => cs
  let digits (cs : List Char) : List Char := match s.precision with
    | some p => List.replicate (p - cs.length) '0' ++ cs
    | none => cs
  let based (mark : String) (ds : Nat → List Char) : Except Problem (List Char) := do
    let n ← wholeOf v
    return s.pad true (s.sign (n < 0) ++ if s.alternate then mark.toList else []) (digits (ds n.natAbs))
  let lower := letter.toLower
  let cased (cs : List Char) : List Char := if letter.isUpper then cs.map Char.toUpper else cs
  if letter == 's' then .ok (s.pad false [] (cut (v.asText?.getD v.display).toList))
  else if letter == 'r' then .ok (s.pad false [] (cut v.nested.toList))
  else if letter == 'c' then
    match v with
    | .int n => .ok (s.pad false [] [Char.ofNat n.toNat])
    | _ => .ok (s.pad false [] ((v.asText?.getD v.display).toList.take 1))
  else if letter == 'd' || letter == 'i' || letter == 'u' then
    based "" fun n => (toString n).toList
  else if letter == 'o' then based "0o" (Nat.toDigits 8)
  else if lower == 'x' then
    based (if letter == 'x' then "0x" else "0X") fun n => cased (Nat.toDigits 16 n)
  else if lower == 'f' then do
    let (negative, body) := Decimal.fixed (s.precision.getD 6) (← floatOf v)
    return s.pad true (s.sign negative) (cased body)
  else if lower == 'e' then do
    let (negative, body, p) := Decimal.scientific (s.precision.getD 6) (← floatOf v)
    return s.pad true (s.sign negative) (cased (body ++ powerText 'e' p))
  else if lower == 'g' then do
    let x ← floatOf v
    let places := max 1 (s.precision.getD 6)
    let (negative, body, p) := Decimal.scientific (places - 1) x
    let shown :=
      if p < -4 || Int.ofNat places ≤ p then withoutZeros body ++ powerText 'e' p
      else withoutZeros (Decimal.fixed (Int.ofNat places - 1 - p).toNat x).2
    return s.pad true (s.sign negative) (cased shown)
  else .error (.formatSign letter)

/-- A number of a place, which a star takes from the values. -/
def slotNumber (values : List Value) (cs : List Char) :
    Except Problem (Nat × List Value × List Char) :=
  match cs with
  | '*' :: rest =>
    match values with
    | v :: more => do return ((← wholeOf v).toNat, more, rest)
    | [] => .error .formatShort
  | _ => .ok (Decimal.natOfDigits (cs.takeWhile Char.isDigit), values, cs.dropWhile Char.isDigit)

/-- Fills the places of a text; `fuel` is more than its length. -/
def fill (named : List (String × Value)) :
    (fuel : Nat) → List Value → List Char → Except Problem (List Char)
  | 0, _, _ => .error .formatCut
  | _ + 1, values, [] =>
    if values.isEmpty || !named.isEmpty then .ok [] else .error .formatLeft
  | fuel + 1, values, '%' :: '%' :: rest => do return '%' :: (← fill named fuel values rest)
  | fuel + 1, values, '%' :: rest => do
    let (key, rest) := match rest with
      | '(' :: inside => (some (String.ofList (inside.takeWhile (· != ')'))),
          (inside.dropWhile (· != ')')).drop 1)
      | _ => (none, rest)
    let (slot, rest) := Slot.marks {} rest
    let (width, values, rest) ← slotNumber values rest
    let (precision, values, rest) ← match rest with
      | '.' :: rest => do
        let (n, values, rest) ← slotNumber values rest
        pure (some n, values, rest)
      | _ => pure (none, values, rest)
    let slot := { slot with width, precision }
    match rest with
    | [] => .error .formatCut
    | letter :: rest =>
      match key with
      | some name =>
        let v := (named.lookup name).getD .undefined
        return (← written slot letter v) ++ (← fill named fuel values rest)
      | none =>
        match values with
        | [] => .error .formatShort
        | v :: more => return (← written slot letter v) ++ (← fill named fuel more rest)
  | fuel + 1, values, c :: rest => do return c :: (← fill named fuel values rest)

/-- A text with values in its places. -/
def format (s : String) (values : List Value) (named : List (String × Value)) :
    Except Problem String := do
  return String.ofList (← fill named (s.length + 1) values s.toList)

end Stencil.Format
