import Stencil.Text.Lines
import Stencil.Text.Property

/-! Taking texts apart.

Searching, splitting and replacing look for a part from left to right, and matches do not overlap.
An empty part is found before every character and at the end. `cut?` finds the first match;
everything else is built on it, and gets shorter input each time. -/
namespace Stencil.Text

/-- What follows a part at the start of a text. -/
def after? : (part text : List Char) → Option (List Char)
  | [], text => some text
  | _ :: _, [] => none
  | p :: part, c :: text => if p = c then after? part text else none

/-- What stands before and behind the first match of a part. -/
def cut? (part : List Char) : List Char → Option (List Char × List Char)
  | [] => if part.isEmpty then some ([], []) else none
  | c :: rest =>
    match after? part (c :: rest) with
    | some tail => some ([], tail)
    | none => (cut? part rest).map fun (before, tail) => (c :: before, tail)

theorem after?_length {part text tail : List Char} (h : after? part text = some tail) :
    tail.length + part.length = text.length := by
  induction part generalizing text with
  | nil => cases h; rfl
  | cons p part ih =>
    cases text with
    | nil => simp [after?] at h
    | cons c text =>
      simp only [after?] at h
      split at h
      · have := ih h
        simp only [List.length_cons]
        omega
      · simp at h

theorem cut?_length {part text before tail : List Char} (h : cut? part text = some (before, tail)) :
    before.length + part.length + tail.length = text.length := by
  induction text generalizing before with
  | nil =>
    simp only [cut?] at h
    split at h
    · next he => cases h; simp_all
    · simp at h
  | cons c rest ih =>
    simp only [cut?] at h
    split at h
    · next t ht =>
      have := after?_length ht
      cases h
      simp only [List.length_nil, List.length_cons] at *
      omega
    · cases hr : cut? part rest with
      | none => simp [hr] at h
      | some p =>
        obtain ⟨b, t⟩ := p
        rw [hr] at h
        simp only [Option.map_some, Option.some.injEq, Prod.mk.injEq] at h
        obtain ⟨rfl, rfl⟩ := h
        have := ih hr
        simp only [List.length_cons]
        omega

/-- A text without the matches of a part at its start. -/
def dropStarts (part text : List Char) : List Char :=
  match h : after? part text with
  | none => text
  | some rest => if hp : part = [] then text else dropStarts part rest
  termination_by text.length
  decreasing_by
    have := after?_length h
    have : 0 < part.length := List.length_pos_iff.2 hp
    omega

/-- A part occurs in a text. -/
def holds (part text : List Char) : Bool := (cut? part text).isSome

/-- The pieces between the matches of a part that is not empty, at most `limit + 1` of them if
there is a limit. -/
def splitAt (part : List Char) (limit : Option Nat) (text : List Char) : List (List Char) :=
  if limit = some 0 then [text]
  else
    match h : cut? part text with
    | none => [text]
    | some (before, tail) =>
      if hp : part = [] then [text]
      else before :: splitAt part (limit.map (· - 1)) tail
  termination_by text.length
  decreasing_by
    have := cut?_length h
    have : 0 < part.length := List.length_pos_iff.2 hp
    omega

/-- Single characters, at most `limit` of them, and what is left. -/
def splitEach : (limit : Option Nat) → List Char → List (List Char)
  | some 0, text => [text]
  | _, [] => [[]]
  | limit, c :: rest => [c] :: splitEach (limit.map (· - 1)) rest

/-- The pieces between the matches of any part. An empty part stands between all characters and
at both ends. -/
def split (part : List Char) (limit : Option Nat) (text : List Char) : List (List Char) :=
  if part.isEmpty then
    match limit with
    | some 0 => [text]
    | _ => [] :: splitEach (limit.map (· - 1)) text
  else splitAt part limit text

/-- The pieces between white space, without empty ones. -/
def words (text : List Char) : List (List Char) :=
  (gather text).filter fun w => !w.isEmpty
where
  /-- The pieces between single blanks. -/
  gather : List Char → List (List Char)
    | [] => [[]]
    | c :: rest =>
      if isBlank c then [] :: gather rest
      else
        match gather rest with
        | [] => [[c]]
        | w :: more => (c :: w) :: more

/-- Pieces between single blanks, at most `limit + 1` of them. -/
def splitBlanks : (limit : Nat) → List Char → List (List Char)
  | 0, text => [text]
  | _ + 1, [] => [[]]
  | n + 1, c :: rest =>
    if isBlank c then [] :: splitBlanks n rest
    else
      match splitBlanks (n + 1) rest with
      | [] => [[c]]
      | w :: more => (c :: w) :: more

/-- A text with every match of a part replaced. -/
def replace (part other text : List Char) : List Char := joinWith other (split part none text)

/-- A text without the characters at both ends that satisfy `p`. -/
def trimEnds (p : Char → Bool) (text : List Char) : List Char :=
  ((text.dropWhile p).reverse.dropWhile p).reverse

/-- A text without the characters at its end that satisfy `p`. -/
def trimEnd (p : Char → Bool) (text : List Char) : List Char :=
  (text.reverse.dropWhile p).reverse

end Stencil.Text
