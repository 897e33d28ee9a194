import Stencil.Shell.Tree

/-! Patterns of the shell.

A pattern is a list of molds, each of which takes one character or any number of them. The
longest and the shortest part that a pattern takes off a text are found among the text's own
starts and ends. -/
namespace Stencil.Shell

/-- A character of an expanded word: whether it stands for itself, and whether it came from an
expansion outside quotes, so that a blank among such characters divides fields. -/
structure Glyph where
  char : Char
  isQuoted : Bool
  isSplit : Bool
  deriving DecidableEq, Repr

/-- A part of a pattern. -/
inductive Mold where
  | char (c : Char)
  | any
  | many
  | oneOf (negated : Bool) (ranges : List (Char × Char))
  deriving DecidableEq, Repr

namespace Mold

/-- The last character of a range, if a dash and its end stand here. -/
def rangeEnd? : List Glyph → Option Char
  | dash :: last :: _ =>
    if dash.char == '-' && !dash.isQuoted && (last.char != ']' || last.isQuoted) then
      some last.char
    else none
  | _ => none

/-- The ranges of a bracket, and what follows its end. -/
def bracket (isFirst : Bool) : List Glyph → Option (List (Char × Char) × List Glyph)
  | [] => none
  | g :: rest =>
    if g.char == ']' && !g.isQuoted && !isFirst then some ([], rest)
    else
      (bracket false (rest.drop (if (rangeEnd? rest).isSome then 2 else 0))).map
        fun (ranges, after) => ((g.char, (rangeEnd? rest).getD g.char) :: ranges, after)
  termination_by glyphs => glyphs.length
  decreasing_by
    simp only [List.length_drop, List.length_cons]
    omega

/-- The pattern that a word spells; `fuel` is at least the word's length. -/
def ofGlyphs : (fuel : Nat) → List Glyph → List Mold
  | 0, _ => []
  | _ + 1, [] => []
  | fuel + 1, g :: rest =>
    if g.isQuoted then .char g.char :: ofGlyphs fuel rest
    else if g.char == '*' then .many :: ofGlyphs fuel rest
    else if g.char == '?' then .any :: ofGlyphs fuel rest
    else if g.char == '[' then
      let (negated, inside) := match rest with
        | s :: more => if !s.isQuoted && (s.char == '!' || s.char == '^') then (true, more) else (false, rest)
        | [] => (false, rest)
      match bracket true inside with
      | some (ranges, after) => .oneOf negated ranges :: ofGlyphs fuel after
      | none => .char '[' :: ofGlyphs fuel rest
    else .char g.char :: ofGlyphs fuel rest

/-- Whether a mold takes a single character. -/
def takes (m : Mold) (c : Char) : Bool :=
  match m with
  | .char d => c == d
  | .oneOf negated ranges => ranges.any (fun (low, high) => low ≤ c && c ≤ high) != negated
  | _ => true

/-- Whether a pattern takes a whole text. -/
def fits : List Mold → Chars → Bool
  | [], cs => cs.isEmpty
  | .many :: ms, cs => (tails cs).any fun rest => fits ms rest
  | m :: ms, cs =>
    match cs with
    | [] => false
    | c :: rest => m.takes c && fits ms rest
where
  /-- A text and all its ends. -/
  tails : Chars → List Chars
    | [] => [[]]
    | c :: rest => (c :: rest) :: tails rest

/-- A text without the shortest or longest start that a pattern takes. -/
def cutStart (ms : List Mold) (longest : Bool) (cs : Chars) : Chars :=
  let lengths := List.range (cs.length + 1)
  match (if longest then lengths.reverse else lengths).find? fun n => fits ms (cs.take n) with
  | some n => cs.drop n
  | none => cs

/-- A text without the shortest or longest end that a pattern takes. -/
def cutEnd (ms : List Mold) (longest : Bool) (cs : Chars) : Chars :=
  let lengths := List.range (cs.length + 1)
  match (if longest then lengths else lengths.reverse).find? fun n => fits ms (cs.drop n) with
  | some n => cs.take n
  | none => cs

end Mold
end Stencil.Shell
