import Stencil.Text.Property

/-! Texts in double quotes.

`quoted` shows a text on one line, as values inside containers and in messages are shown: the
usual short escapes, and a numbered escape for what cannot be shown or would combine with the
sign before it. -/
namespace Stencil.Text

/-- Digits of base sixteen, without leading zeros. -/
def hexDigits (n : Nat) : List Char := Nat.toDigits 16 n

/-- A numbered escape. -/
def numberedEscape (c : Char) : List Char :=
  ['\\', 'u', '{'] ++ hexDigits c.toNat ++ ['}']

/-- A character inside double quotes. -/
def quotedChar (c : Char) : List Char :=
  if c == '"' then ['\\', '"']
  else if c == '\\' then ['\\', '\\']
  else if c == '\n' then ['\\', 'n']
  else if c == '\r' then ['\\', 'r']
  else if c == '\t' then ['\\', 't']
  else if c == '\x00' then ['\\', '0']
  else if isGraphemeExtend c || !isPrintable c then numberedEscape c
  else [c]

/-- A text in double quotes. -/
def quoted (s : String) : String :=
  String.ofList ('"' :: s.toList.flatMap quotedChar ++ ['"'])

end Stencil.Text
