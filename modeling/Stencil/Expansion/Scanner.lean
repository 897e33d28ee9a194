import Stencil.Expansion.Name

/-! Expansion of references.

The scanner walks its input with two cursors: everything before `mark` has been written or
dropped, everything before `pos` has been looked at. Bytes between them are written only when a
reference or an escape is met, or at the end, so input that holds neither is handed back as
it is. `step` is one turn of the loop; `pos` grows with each (`pos_lt_pos_step`), so the loop
ends. What a name stands for is decided by a `Lookup`, which may keep a state of its own. -/
namespace Stencil.Expansion
open Text.Utf8 (Bytes)

/-- What a name stands for, with a state threaded from one question to the next. -/
abbrev Lookup (σ : Type) := String → StateM σ String

/-- How far the scanner is. No output exists until the first reference or escape. -/
structure Cursor where
  mark : Nat
  pos : Nat
  out : Option (Array UInt8)
  deriving Repr

/-- Where the scanner begins. -/
def Cursor.start : Cursor := ⟨0, 0, none⟩

/-- The output with the bytes from `mark` up to `pos` added. -/
def Cursor.flushed (s : Array UInt8) (c : Cursor) : Array UInt8 :=
  c.out.getD #[] ++ s.extract c.mark c.pos

/-- A dollar and an opening brace stand at `k`. -/
def opensAt (s : Array UInt8) (k : Nat) : Bool :=
  s[k]? == some dollar && s[k + 1]? == some opening

/-- The byte before `k` is a dollar. -/
def escapedAt (s : Array UInt8) (k : Nat) : Bool :=
  0 < k && s[k - 1]? == some dollar

/-- What a reference puts in its place. -/
def answer {σ : Type} (lookup : Lookup σ) : Option Bytes → StateM σ Bytes
  | some name => Text.Utf8.encodeText <$> lookup (Text.Utf8.lossyText name)
  | none => pure []

/-- One turn of the loop: an ordinary byte is passed over, an escape loses one dollar, and a
reference gives way to its value. -/
def step {σ : Type} (lookup : Lookup σ) (s : Array UInt8) (c : Cursor) : StateM σ Cursor :=
  if opensAt s c.pos then
    if escapedAt s c.pos then
      pure ⟨c.pos + 1, c.pos + 2, some (c.flushed s)⟩
    else do
      let (name, width) := nameAt s (c.pos + 1)
      let value ← answer lookup name
      pure ⟨c.pos + width + 1, c.pos + width + 1, some (c.flushed s ++ value)⟩
  else
    pure { c with pos := c.pos + 1 }

theorem pos_lt_pos_step {σ : Type} (lookup : Lookup σ) (s : Array UInt8) (c : Cursor) (st : σ) :
    c.pos < (step lookup s c st).1.pos := by
  unfold step
  split
  · split
    · show c.pos < c.pos + 2
      omega
    · show c.pos < c.pos + _ + 1
      omega
  · show c.pos < c.pos + 1
    omega

/-- Turns the loop until the input is used up. -/
def run {σ : Type} (lookup : Lookup σ) (s : Array UInt8) (c : Cursor) (st : σ) : Cursor × σ :=
  if c.pos < s.size then
    let next := step lookup s c st
    run lookup s next.1 next.2
  else (c, st)
  termination_by s.size - c.pos
  decreasing_by
    have := pos_lt_pos_step lookup s c st
    omega

/-- An expanded input: its bytes, and whether it is the input itself, untouched. -/
structure Expanded where
  bytes : Bytes
  unchanged : Bool
  deriving DecidableEq, Repr

/-- The result that a scanner at the end of its input has come to. -/
def Cursor.result (s : Bytes) (c : Cursor) : Expanded :=
  match c.out with
  | none => ⟨s, true⟩
  | some out => ⟨(out ++ s.toArray.extract c.mark s.length).toList, false⟩

/-- Expands every reference in `s`, asking `lookup` once for each name, from left to right. -/
def expandBytes {σ : Type} (lookup : Lookup σ) (s : Bytes) : StateM σ Expanded := fun st =>
  let r := run lookup s.toArray Cursor.start st
  (r.1.result s, r.2)

/-- An expanded text. -/
structure ExpandedText where
  text : String
  unchanged : Bool
  deriving DecidableEq, Repr

/-- Expands every reference in a text. The bytes that come out are checked once more and read as
text, with replacements if they were none. -/
def expand {σ : Type} (lookup : Lookup σ) (s : String) : StateM σ ExpandedText := do
  let e ← expandBytes lookup (Text.Utf8.encodeText s)
  pure ⟨if e.unchanged then s else Text.Utf8.textOr e.bytes, e.unchanged⟩

/-- A lookup without state. -/
def Lookup.pure (f : String → String) : Lookup Unit := fun name => Pure.pure (f name)

/-- A lookup that also notes the names it is asked for, last first. -/
def Lookup.noting (f : String → String) : Lookup (List String) := fun name asked =>
  (f name, name :: asked)

end Stencil.Expansion
