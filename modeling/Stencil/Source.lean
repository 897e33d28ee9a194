import Stencil.Text.Utf8

/-! Input that comes in pieces.

A source hands out its bytes in pieces of a greatest length, and behind the last of them ends or
fails. A line reader keeps what it was given beyond the present line. -/
namespace Stencil
open Text.Utf8 (Bytes)

/-- Bytes still to be handed out, the length of a piece, and why reading fails behind them. -/
structure Source where
  data : Bytes
  chunk : Nat := 4096
  failure : Option String := none

namespace Source

/-- Hands out a piece of at most `n` bytes. None means that the input has ended. -/
def read (s : Source) (n : Nat) : Except String (Bytes × Source) :=
  match s.data, s.failure with
  | [], some reason => .error reason
  | _, _ =>
    let k := min n s.chunk
    .ok (s.data.take k, { s with data := s.data.drop k })

/-- Hands out pieces until the input has ended. -/
def readAll (s : Source) : Except String Bytes :=
  match _h : s.read s.chunk with
  | .error reason => .error reason
  | .ok (piece, rest) =>
    if _hp : piece = [] then .ok []
    else
      match readAll rest with
      | .error reason => .error reason
      | .ok more => .ok (piece ++ more)
  termination_by s.data.length
  decreasing_by
    have h := _h
    unfold read at h
    split at h
    · simp at h
    · simp only [Except.ok.injEq, Prod.mk.injEq] at h
      obtain ⟨h, rfl⟩ := h
      have : (s.data.take (min s.chunk s.chunk)).length ≠ 0 := by
        intro e
        exact _hp (h ▸ List.length_eq_zero_iff.1 e)
      simp only [List.length_take] at this
      simp only [List.length_drop]
      omega

end Source

/-- A source with a buffer in front of it. -/
structure LineReader where
  source : Source
  buffer : Bytes := []
  capacity : Nat := 8192

namespace LineReader

/-- The byte that ends a line. -/
def newline : UInt8 := 0x0A

/-- Fills the buffer if it is empty. -/
def fill (r : LineReader) : Except String LineReader :=
  if r.buffer.isEmpty then
    match r.source.read r.capacity with
    | .error reason => .error reason
    | .ok (piece, rest) => .ok { r with source := rest, buffer := piece }
  else .ok r

/-- The number of bytes that are left. -/
def left (r : LineReader) : Nat := r.buffer.length + r.source.data.length

theorem left_fill {r f : LineReader} (h : r.fill = .ok f) : f.left = r.left := by
  unfold fill at h
  split at h
  · next he =>
    split at h
    · simp at h
    · next piece rest hr =>
      unfold Source.read at hr
      split at hr
      · simp at hr
      · simp only [Except.ok.injEq, Prod.mk.injEq] at h hr
        obtain ⟨rfl, rfl⟩ := hr
        subst h
        have : r.buffer = [] := by simpa using he
        simp only [left, this, List.length_take, List.length_drop, List.length_nil]
        omega
  · simp only [Except.ok.injEq] at h
    rw [h]

/-- The bytes up to the next newline with that newline, or all that are left, and the reader
behind them. -/
def readLine (r : LineReader) : Except String (Bytes × LineReader) :=
  match _h : r.fill with
  | .error reason => .error reason
  | .ok f =>
    if _hb : f.buffer = [] then .ok ([], f)
    else
      match f.buffer.dropWhile (· != newline) with
      | b :: rest => .ok (f.buffer.takeWhile (· != newline) ++ [b], { f with buffer := rest })
      | [] =>
        match readLine { f with buffer := [] } with
        | .error reason => .error reason
        | .ok (more, after) => .ok (f.buffer.takeWhile (· != newline) ++ more, after)
  termination_by r.left
  decreasing_by
    have := left_fill _h
    have hl : f.buffer.length ≠ 0 := by simpa using _hb
    simp only [left, List.length_nil] at *
    omega

/-- A line and what is left behind it are what was left. -/
theorem length_add_left_of_readLine {r after : LineReader} {line : Bytes}
    (h : r.readLine = .ok (line, after)) : line.length + after.left = r.left := by
  fun_induction readLine r generalizing line after with
  | case1 => simp at h
  | case2 r f hf hb =>
    simp only [Except.ok.injEq, Prod.mk.injEq] at h
    obtain ⟨rfl, rfl⟩ := h
    simp [left_fill hf]
  | case3 r f hf hb b rest hd =>
    simp only [Except.ok.injEq, Prod.mk.injEq] at h
    obtain ⟨rfl, rfl⟩ := h
    have hl := congrArg List.length (List.takeWhile_append_dropWhile (p := (· != newline)) (l := f.buffer))
    simp only [hd, List.length_append, List.length_cons] at hl
    rw [← left_fill hf]
    simp only [left, List.length_append, List.length_cons, List.length_nil]
    omega
  | case4 => simp_all
  | case5 r f hf hb hd more rest hm ih =>
    simp only [Except.ok.injEq, Prod.mk.injEq] at h
    obtain ⟨rfl, rfl⟩ := h
    have hl := congrArg List.length (List.takeWhile_append_dropWhile (p := (· != newline)) (l := f.buffer))
    simp only [hd, List.length_append, List.length_nil] at hl
    have := ih hm
    rw [← left_fill hf]
    simp only [left, List.length_append, List.length_nil] at *
    omega

end LineReader
end Stencil
