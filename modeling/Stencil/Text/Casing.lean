import Stencil.Text.Property

/-! Names in one style.

`separated` writes a name as words in small letters with a sign between them, `camel` without signs
and with a capital at the start of each word but the first. Letters change case within ASCII
only. What is no letter and no number separates words; a run of it counts once, and none is
kept at the ends.

A word also starts where a character that has no other capital form stands beside a small letter.
The neighbours are the characters whose number is the *byte* offset of the character, plus and
minus one, so they are true neighbours only while the text before is ASCII. A neighbour
that does not exist is no small letter. -/
namespace Stencil.Text

/-- The character separates words. -/
def isSeparator (c : Char) : Bool := !isAlphanumeric c

/-- A text without separators at its end. -/
def trimSeparators (cs : List Char) : List Char :=
  (cs.reverse.dropWhile isSeparator).reverse

/-- The character number `n` is a small letter. -/
def smallAt (all : Array Char) (n : Nat) : Bool := (all[n]?).any isLowercase

/-- A word starts at the character `c` with byte offset `offset`. -/
def startsWord (all : Array Char) (offset : Nat) (c : Char) : Bool :=
  c == c.toUpper && (smallAt all (offset + 1) || (0 < offset && smallAt all (offset - 1)))

/-- Words in small letters with `sign` between them, from byte `offset` on; `fresh` says that
no word has been started. -/
def separatedFrom (sign : Char) (all : Array Char) :
    (offset : Nat) → (fresh : Bool) → List Char → List Char
  | _, _, [] => []
  | offset, fresh, c :: rest =>
    let next := offset + c.utf8Size
    if isSeparator c then
      if fresh then separatedFrom sign all next true rest
      else sign :: separatedFrom sign all next true rest
    else
      let word := c.toLower :: separatedFrom sign all next false rest
      if !fresh && startsWord all offset c then sign :: word else word

/-- A name as words in small letters with `sign` between them. -/
def separated (sign : Char) (s : String) : String :=
  let cs := s.toList
  String.ofList (separatedFrom sign cs.toArray 0 true (trimSeparators cs))

/-- How far a name without signs is written. -/
structure CamelState where
  newWord : Bool := false
  first : Bool := true
  started : Bool := false
  last : Char := ' '

/-- Writes one more character of a name without signs. -/
def camelFrom : CamelState → List Char → List Char
  | _, [] => []
  | st, c :: rest =>
    if isSeparator c then
      if st.started then camelFrom { st with newWord := true } rest else camelFrom st rest
    else if isNumeric c then
      c :: camelFrom { st with newWord := true, started := true } rest
    else if st.newWord || (isLowercase st.last && isUppercase c) then
      c.toUpper :: camelFrom { st with newWord := false, first := false, started := true } rest
    else c.toLower :: camelFrom { st with last := c, started := true } rest

/-- A name without signs, with a capital at the start of each word but the first. -/
def camel (s : String) : String := String.ofList (camelFrom {} (trimSeparators s.toList))

end Stencil.Text
