import Stencil.Text.Utf8

/-! The name in a reference.

A reference is a dollar, an opening brace, a name and a closing brace. `nameAt` reads the part
from the opening brace on: the name, or nothing where there is none, and how many bytes the
reader has to pass over. Names of one special byte, as shells have them, take a branch of
their own; `close?` finds the first closing brace for all others. -/
namespace Stencil.Expansion
open Text.Utf8 (Bytes)

/-- The byte that starts a reference. -/
def dollar : UInt8 := 0x24
/-- The byte before a name. -/
def opening : UInt8 := 0x7B
/-- The byte after a name. -/
def closing : UInt8 := 0x7D

/-- The variables that shells spell with one sign or digit. -/
def isSpecial (b : UInt8) : Bool :=
  b == 0x2A || b == 0x23 || b == 0x24 || b == 0x40 || b == 0x21 || b == 0x3F || b == 0x2D ||
    (0x30 ≤ b && b ≤ 0x39)

/-- The index of the first closing brace at `k` or behind it. -/
def close? (s : Array UInt8) (k : Nat) : Option Nat :=
  if h : k < s.size then
    if s[k] = closing then some k else close? s (k + 1)
  else none
  termination_by s.size - k

/-- The name whose opening brace stands at `start`, and the number of bytes to pass over:
both braces and the name, the two braces of an empty name, or an opening brace that is never
closed. -/
def nameAt (s : Array UInt8) (start : Nat) : Option Bytes × Nat :=
  match s[start + 1]?, s[start + 2]? with
  | some c, some d =>
    if isSpecial c && d == closing then (some [c], 3) else general
  | _, _ => general
where
  /-- The name up to the first closing brace. -/
  general : Option Bytes × Nat :=
    match close? s (start + 1) with
    | some k =>
      if k = start + 1 then (none, 2)
      else (some (s.extract (start + 1) k).toList, k + 1 - start)
    | none => (none, 1)

theorem close?_ge {s : Array UInt8} {k c : Nat} (h : close? s k = some c) : k ≤ c := by
  fun_induction close? s k with
  | case1 k _ _ => simp_all
  | case2 k _ _ ih => have := ih h; omega
  | case3 => simp at h

theorem close?_lt {s : Array UInt8} {k c : Nat} (h : close? s k = some c) : c < s.size := by
  fun_induction close? s k with
  | case1 k hk _ => cases h; exact hk
  | case2 k _ _ ih => exact ih h
  | case3 => simp at h

/-- Reading a name always passes over its opening brace. -/
theorem nameAt_width_pos (s : Array UInt8) (start : Nat) : 0 < (nameAt s start).2 := by
  have general_pos : 0 < (nameAt.general s start).2 := by
    unfold nameAt.general
    split
    · next k hk =>
      have := close?_ge hk
      split
      · simp
      · simp only
        omega
    · simp
  unfold nameAt
  split
  · split
    · simp
    · exact general_pos
  · exact general_pos

end Stencil.Expansion
