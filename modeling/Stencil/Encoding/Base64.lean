import Stencil.Text.Utf8

/-! Base 64.

Three bytes become four symbols of a 64-letter alphabet; a last group of one or two bytes
becomes two or three symbols and is filled up with `=`. `decode` accepts what `encode` writes and
nothing else: the filling has to be there, and bits that no byte needs have to be zero. For
all other input it says which byte is wrong, or that the length or the filling is. -/
namespace Stencil.Encoding.Base64
open Text.Utf8 (Bytes)

/-- Why bytes are not in base 64. Offsets and lengths count bytes. -/
inductive Flaw where
  | symbol (offset : Nat) (byte : UInt8)
  | length (count : Nat)
  | lastSymbol (offset : Nat) (byte : UInt8)
  | padding
  deriving DecidableEq, Repr

/-- The sentence that describes a flaw. -/
def Flaw.message : Flaw → String
  | .symbol offset byte => s!"Invalid symbol {byte}, offset {offset}."
  | .length count => s!"Invalid input length: {count}"
  | .lastSymbol offset byte => s!"Invalid last symbol {byte}, offset {offset}."
  | .padding => "Invalid padding"

/-- What fills up the last group. -/
def pad : UInt8 := 0x3D

/-- The symbol for six bits. -/
def symbolOf (n : Nat) : UInt8 :=
  if n < 26 then UInt8.ofNat (0x41 + n)
  else if n < 52 then UInt8.ofNat (0x61 + (n - 26))
  else if n < 62 then UInt8.ofNat (0x30 + (n - 52))
  else if n = 62 then 0x2B
  else 0x2F

/-- The six bits of a symbol. -/
def bitsOf? (b : UInt8) : Option Nat :=
  if 0x41 ≤ b ∧ b ≤ 0x5A then some (b.toNat - 0x41)
  else if 0x61 ≤ b ∧ b ≤ 0x7A then some (b.toNat - 0x61 + 26)
  else if 0x30 ≤ b ∧ b ≤ 0x39 then some (b.toNat - 0x30 + 52)
  else if b = 0x2B then some 62
  else if b = 0x2F then some 63
  else none

/-- Symbols for bytes, three at a time. -/
def encode : Bytes → Bytes
  | [] => []
  | [a] =>
    [symbolOf (a.toNat / 4), symbolOf (a.toNat % 4 * 16), pad, pad]
  | [a, b] =>
    [symbolOf (a.toNat / 4), symbolOf (a.toNat % 4 * 16 + b.toNat / 16),
      symbolOf (b.toNat % 16 * 4), pad]
  | a :: b :: c :: rest =>
    symbolOf (a.toNat / 4) :: symbolOf (a.toNat % 4 * 16 + b.toNat / 16) ::
      symbolOf (b.toNat % 16 * 4 + c.toNat / 64) :: symbolOf (c.toNat % 64) :: encode rest

/-- The bits of the symbol at `offset`, or the flaw that it is none. -/
def bitsAt (offset : Nat) (b : UInt8) : Except Flaw Nat :=
  match bitsOf? b with
  | some n => .ok n
  | none => .error (.symbol offset b)

/-- The three bytes of four symbols. -/
def quad (offset : Nat) (a b c d : UInt8) : Except Flaw Bytes := do
  let w ← bitsAt offset a
  let x ← bitsAt (offset + 1) b
  let y ← bitsAt (offset + 2) c
  let z ← bitsAt (offset + 3) d
  pure [UInt8.ofNat (w * 4 + x / 16), UInt8.ofNat (x % 16 * 16 + y / 4), UInt8.ofNat (y % 4 * 64 + z)]

/-- The last group as it is read: the bits of its symbols, the last of these symbols, and where
its filling starts and how long it is. -/
structure Tail where
  bits : List Nat := []
  last : UInt8 := 0
  fill : Option (Nat × Nat) := none
  deriving Repr

/-- Reads the last group, symbols before filling, at `index` within the group. -/
def tail (offset : Nat) : (index : Nat) → Tail → Bytes → Except Flaw Tail
  | _, t, [] => .ok t
  | index, t, b :: rest =>
    if b = pad then
      if index < 2 then .error (.symbol (offset + index) b)
      else
        let (first, count) := t.fill.getD (index, 0)
        tail offset (index + 1) { t with fill := some (first, count + 1) } rest
    else
      match t.fill with
      | some (first, _) => .error (.symbol (offset + first) pad)
      | none =>
        match bitsOf? b with
        | none => .error (.symbol (offset + index) b)
        | some n => tail offset (index + 1) { t with bits := t.bits ++ [n], last := b } rest

/-- The bytes of the last group. -/
def finish (offset : Nat) (t : Tail) : Except Flaw Bytes :=
  let filled := (t.fill.map Prod.snd).getD 0
  if t.bits.length < 2 then .error (.length (offset + t.bits.length))
  else if (filled + t.bits.length) % 4 ≠ 0 then .error .padding
  else
    match t.bits with
    | [w, x] =>
      if x % 16 ≠ 0 then .error (.lastSymbol (offset + 1) t.last)
      else .ok [UInt8.ofNat (w * 4 + x / 16)]
    | [w, x, y] =>
      if y % 4 ≠ 0 then .error (.lastSymbol (offset + 2) t.last)
      else .ok [UInt8.ofNat (w * 4 + x / 16), UInt8.ofNat (x % 16 * 16 + y / 4)]
    | w :: x :: y :: z :: _ =>
      .ok [UInt8.ofNat (w * 4 + x / 16), UInt8.ofNat (x % 16 * 16 + y / 4),
        UInt8.ofNat (y % 4 * 64 + z)]
    | _ => .ok []

/-- Bytes for symbols: groups of four as long as more than four are left, then the last group. -/
def decodeFrom (offset : Nat) : Bytes → Except Flaw Bytes
  | a :: b :: c :: d :: e :: rest => do
    let three ← quad offset a b c d
    let more ← decodeFrom (offset + 4) (e :: rest)
    pure (three ++ more)
  | [] => .ok []
  | last => do
    let t ← tail offset 0 {} last
    finish offset t

/-- One byte too many that is not even a symbol, such as the end of a line. -/
def stray? (bs : Bytes) : Option Flaw :=
  match bs.getLast? with
  | some b =>
    if bs.length % 4 = 1 ∧ b ≠ pad ∧ (bitsOf? b).isNone then some (.symbol (bs.length - 1) b)
    else none
  | none => none

/-- The bytes that symbols stand for, or the first flaw. -/
def decode (bs : Bytes) : Except Flaw Bytes :=
  match stray? bs with
  | some flaw => .error flaw
  | none => decodeFrom 0 bs

/-- The symbols as text. -/
def encodeText (s : String) : String :=
  String.ofList ((encode (Text.Utf8.encodeText s)).map fun b => Char.ofNat b.toNat)

end Stencil.Encoding.Base64
