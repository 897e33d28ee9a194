/-! Lines and indentation.

A line ends before a line feed, or before a carriage return and a line feed; what follows the last
line feed is a line of its own unless it is empty. `nindent` puts a text on lines of its own,
indented, and keeps a line feed at its end; it says what the text is for any width, whether or not
there is room for it (`Function.nindent`). -/
namespace Stencil.Text

/-- The lines of a text, without what ends them. -/
def lines : List Char → List (List Char)
  | [] => []
  | '\n' :: rest => [] :: lines rest
  | '\r' :: '\n' :: rest => [] :: lines rest
  | c :: rest =>
    match lines rest with
    | [] => [[c]]
    | line :: more => (c :: line) :: more

/-- Puts a separator between lists. -/
def joinWith (separator : List Char) : List (List Char) → List Char
  | [] => []
  | [x] => x
  | x :: rest => x ++ separator ++ joinWith separator rest

/-- A line behind `n` spaces; an empty line stays empty. -/
def indentLine (n : Nat) (line : List Char) : List Char :=
  if line.isEmpty then [] else List.replicate n ' ' ++ line

/-- A line feed, then every line behind `n` spaces. -/
def nindentChars (n : Nat) (cs : List Char) : List Char :=
  '\n' :: joinWith ['\n'] ((lines cs).map (indentLine n)) ++
    (if cs.getLast? = some '\n' then ['\n'] else [])

/-- A line feed, then every line of a text behind `n` spaces. -/
def nindent (s : String) (n : Nat) : String := String.ofList (nindentChars n s.toList)

end Stencil.Text
