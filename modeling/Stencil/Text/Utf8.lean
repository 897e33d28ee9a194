/-! Text as bytes.

`encode` writes characters as UTF-8 and `decode` reads them back, or says where the longest
well-formed start ends and what is wrong behind it. `lossy` reads any bytes at all: each
bad sequence, taken as long as it is right, becomes one replacement character.

Both readers look at one character at a time through `headOf`, which names the character
(or the flaw) at the start of its input and the number of bytes behind the first that belong
to it. -/
namespace Stencil.Text.Utf8

/-- Bytes in order. -/
abbrev Bytes := List UInt8

/-- Why bytes are not text: the length of the longest well-formed start, and the length of
the bad sequence behind it, or nothing when the input ends inside a sequence that is right
so far. -/
structure Flaw where
  validUpTo : Nat
  badLength : Option Nat
  deriving DecidableEq, Repr

/-- The sentence that describes a flaw. -/
def Flaw.message (f : Flaw) : String :=
  match f.badLength with
  | some n => s!"invalid utf-8 sequence of {n} bytes from index {f.validUpTo}"
  | none => s!"incomplete utf-8 byte sequence from index {f.validUpTo}"

/-- What the start of an input holds; `more` counts bytes behind the first. -/
inductive Head where
  | scalar (c : Char) (more : Nat)
  | bad (more : Nat)
  | cut
  deriving DecidableEq, Repr

/-- A byte that continues a sequence. -/
def isTail (b : UInt8) : Bool := 0x80 ≤ b && b ≤ 0xBF

/-- The six low bits of a continuing byte. -/
def tailBits (b : UInt8) : Nat := b.toNat % 64

/-- The range of the second byte of a sequence of three that starts with `a`: shorter
spellings and surrogates are left out. -/
def secondOfThree (a b : UInt8) : Bool :=
  if a == 0xE0 then 0xA0 ≤ b && b ≤ 0xBF
  else if a == 0xED then 0x80 ≤ b && b ≤ 0x9F
  else isTail b

/-- The range of the second byte of a sequence of four that starts with `a`: shorter
spellings and numbers above the last code point are left out. -/
def secondOfFour (a b : UInt8) : Bool :=
  if a == 0xF0 then 0x90 ≤ b && b ≤ 0xBF
  else if a == 0xF4 then 0x80 ≤ b && b ≤ 0x8F
  else isTail b

/-- A sequence of two. -/
def headOfTwo (a : UInt8) : Bytes → Head
  | [] => .cut
  | b :: _ =>
    if isTail b then .scalar (Char.ofNat ((a.toNat % 32) * 64 + tailBits b)) 1 else .bad 0

/-- A sequence of three. -/
def headOfThree (a : UInt8) : Bytes → Head
  | [] => .cut
  | b :: rest =>
    if secondOfThree a b then
      match rest with
      | [] => .cut
      | c :: _ =>
        if isTail c then
          .scalar (Char.ofNat ((a.toNat % 16) * 4096 + tailBits b * 64 + tailBits c)) 2
        else .bad 1
    else .bad 0

/-- A sequence of four. -/
def headOfFour (a : UInt8) : Bytes → Head
  | [] => .cut
  | b :: rest =>
    if secondOfFour a b then
      match rest with
      | [] => .cut
      | c :: rest =>
        if isTail c then
          match rest with
          | [] => .cut
          | d :: _ =>
            if isTail d then
              .scalar (Char.ofNat
                ((a.toNat % 8) * 262144 + tailBits b * 4096 + tailBits c * 64 + tailBits d)) 3
            else .bad 2
        else .bad 1
    else .bad 0

/-- What an input that starts with `a` and goes on with `rest` holds at its start. -/
def headOf (a : UInt8) (rest : Bytes) : Head :=
  if a < 0x80 then .scalar (Char.ofNat a.toNat) 0
  else if a < 0xC2 then .bad 0
  else if a < 0xE0 then headOfTwo a rest
  else if a < 0xF0 then headOfThree a rest
  else if a < 0xF5 then headOfFour a rest
  else .bad 0

/-- The bytes of a list of characters. -/
def encode (cs : List Char) : Bytes := cs.flatMap String.utf8EncodeChar

/-- Reads characters after skipping `skip` bytes; `at_` counts the bytes read so far. -/
def decodeFrom : (skip at_ : Nat) → Bytes → Except Flaw (List Char)
  | _, _, [] => .ok []
  | skip + 1, n, _ :: rest => decodeFrom skip (n + 1) rest
  | 0, n, a :: rest =>
    match headOf a rest with
    | .scalar c more => (decodeFrom more (n + 1) rest).map (c :: ·)
    | .bad more => .error ⟨n, some (more + 1)⟩
    | .cut => .error ⟨n, none⟩

/-- The characters that bytes spell, or the first flaw. -/
def decode (bs : Bytes) : Except Flaw (List Char) := decodeFrom 0 0 bs

/-- The replacement character. -/
def replacement : Char := '\uFFFD'

/-- Reads characters after skipping `skip` bytes, with replacements. -/
def lossyFrom : (skip : Nat) → Bytes → List Char
  | _, [] => []
  | skip + 1, _ :: rest => lossyFrom skip rest
  | 0, a :: rest =>
    match headOf a rest with
    | .scalar c more => c :: lossyFrom more rest
    | .bad more => replacement :: lossyFrom more rest
    | .cut => [replacement]

/-- The characters that bytes spell, with one replacement for each bad sequence. -/
def lossy (bs : Bytes) : List Char := lossyFrom 0 bs

/-- The text that bytes spell, or the first flaw. -/
def decodeText (bs : Bytes) : Except Flaw String := (decode bs).map String.ofList

/-- The text that bytes spell, with replacements. -/
def lossyText (bs : Bytes) : String := String.ofList (lossy bs)

/-- The text that bytes spell; replacements are made only if there is a flaw. -/
def textOr (bs : Bytes) : String :=
  match decodeText bs with
  | .ok s => s
  | .error _ => lossyText bs

/-- The bytes of a text. -/
def encodeText (s : String) : Bytes := encode s.toList

@[simp]
theorem encode_nil : encode [] = [] := rfl

@[simp]
theorem encode_cons (c : Char) (cs : List Char) :
    encode (c :: cs) = String.utf8EncodeChar c ++ encode cs := rfl

@[simp]
theorem encode_append (a b : List Char) : encode (a ++ b) = encode a ++ encode b := by
  simp [encode]

@[simp]
theorem decode_nil : decode [] = .ok [] := rfl

@[simp]
theorem lossy_nil : lossy [] = [] := rfl

end Stencil.Text.Utf8
