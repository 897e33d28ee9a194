/-! Shell commands as trees.

Texts of the shell are bytes; each is written as the character of that number, so all characters
here lie below 256. A word is a list of parts, which are put together and split into fields when
the word is expanded. -/
namespace Stencil.Shell

/-- Bytes, each written as the character of that number. -/
abbrev Chars := List Char

/-- What a parameter expansion does besides taking the value. -/
inductive ParameterUse where
  | value
  | length
  | orElse (colon : Bool)
  | orAssign (colon : Bool)
  | orFail (colon : Bool)
  | ifSet (colon : Bool)
  | cutStart (longest : Bool)
  | cutEnd (longest : Bool)
  deriving DecidableEq, Repr

/-- Where a redirection goes. -/
inductive RedirectKind where
  | input
  | output
  | append
  | duplicate
  | here (id : Nat)
  deriving DecidableEq, Repr

mutual

/-- A part of a word. -/
inductive Part where
  | literal (text : Chars) (quoted : Bool)
  | parameter (name : Chars) (use : ParameterUse) (word : List Part) (quoted : Bool)
  | command (body : List Command) (quoted : Bool)
  | arithmetic (expression : List Part) (quoted : Bool)

/-- A redirection of a stream. -/
inductive Redirect where
  | mk (stream : Nat) (kind : RedirectKind) (target : List Part)

/-- A command. -/
inductive Command where
  | simple (assignments : List (Chars × List Part)) (words : List (List Part))
      (redirects : List Redirect)
  | pipeline (negated : Bool) (stages : List Command)
  | both (first second : Command)
  | either (first second : Command)
  | group (body : List Command) (redirects : List Redirect)
  | subshell (body : List Command) (redirects : List Redirect)
  | conditional (condition yes no : List Command) (redirects : List Redirect)
  | loop (whileTrue : Bool) (condition body : List Command) (redirects : List Redirect)
  | each (name : Chars) (words : Option (List (List Part))) (body : List Command)
      (redirects : List Redirect)
  | choose (word : List Part) (cases : List (List (List Part) × List Command))
      (redirects : List Redirect)
  | define (name : Chars) (body : Command)
  | background (body : Command)

end

/-- A word. -/
abbrev Word := List Part

/-- The text of a here-document, by its number. -/
abbrev Documents := List (Nat × Word)

instance : Inhabited Command := ⟨.simple [] [] []⟩

end Stencil.Shell
