import Stencil.Data.Yaml
import Stencil.Encoding.Sha256
import Stencil.Pattern.Search
import Stencil.Text.Casing
import Stencil.Text.Pieces
import Stencil.Value.Item

/-! Functions on texts.

`quote` and `squote` put a value between quotes so that a reader finds its text again; what is a
quote inside is escaped by a backslash, or written twice. The other functions cut, encode and match
texts. -/
namespace Stencil.Function

/-- The text of a value: a text itself, and what is displayed of anything else. -/
def textOf (v : Value) : String := v.asText?.getD v.display

/-- A text with every backslash, and then every double quote, behind a backslash. -/
def escapeDouble (cs : List Char) : List Char :=
  Text.replace ['"'] ['\\', '"'] (Text.replace ['\\'] ['\\', '\\'] cs)

/-- A value between double quotes. -/
def quote (v : Value) : String :=
  String.ofList ('"' :: escapeDouble (textOf v).toList ++ ['"'])

/-- A value between single quotes, of which those inside are written twice. -/
def squote (v : Value) : String :=
  String.ofList ('\'' :: Text.replace ['\''] ['\'', '\''] (textOf v).toList ++ ['\''])

/-- The most bytes that a text can have. -/
def mostBytes : Nat := Nat.pow 2 63 - 1

/-- Makes room for a row of bytes. If it is longer than any text can be, the program ends. -/
def room (n : Nat) : Except Problem Unit :=
  if mostBytes < n then .error .overCapacity else .ok ()

/-- A line feed, then every line of a text behind `n` spaces. The spaces are made before the lines
are looked at, so a width beyond all room ends the program even if no line takes it. -/
def nindent (s : String) (n : Nat) : Except Problem String := do
  room n
  return Text.nindent s n

/-- The first `n` characters of a text. -/
def trunc (s : String) (n : Nat) : String := String.ofList (s.toList.take n)

/-- A text without a part at its start. -/
def trimPrefix (s part : String) : String :=
  match Text.after? part.toList s.toList with
  | some rest => String.ofList rest
  | none => s

/-- A text without a part at its end. -/
def trimSuffix (s part : String) : String :=
  match Text.after? part.toList.reverse s.toList.reverse with
  | some rest => String.ofList rest.reverse
  | none => s

/-- A text in small letters with underscores between its words. -/
def snakeCase (s : String) : String := Text.separated '_' s

/-- A text in small letters with dashes between its words. -/
def kebabCase (s : String) : String := Text.separated '-' s

/-- A text whose words behind the first begin with a capital. -/
def camelCase (s : String) : String := Text.camel s

/-- A text in base 64. -/
def b64Encode (s : String) : String := Encoding.Base64.encodeText s

/-- The text that base 64 stands for. -/
def b64Decode (s : String) : Except Problem String :=
  match Encoding.Base64.decode (Text.Utf8.encodeText s) with
  | .error flaw => .error (.base64 flaw)
  | .ok bytes =>
    match Text.Utf8.decodeText bytes with
    | .error flaw => .error (.decoded flaw)
    | .ok t => .ok t

/-- What stands before a document that others follow. -/
def documentMarker : List Char := ['-', '-', '-', '\n']

/-- A value as a document, without markers at its start and without white space at its end. -/
def toYaml (v : Value) : Except Problem String :=
  match Data.document v with
  | .error flaw => .error (.document flaw)
  | .ok t =>
    let printed := Text.dropStarts documentMarker (Data.Yaml.print t)
    .ok (String.ofList (Text.trimEnd Text.isBlank printed))

/-- A pattern, read. -/
def regex (pattern : String) : Except Problem Pattern.Regex :=
  match Pattern.Regex.ofPattern pattern with
  | .error explanation => .error (.pattern pattern explanation)
  | .ok r => .ok r

/-- Whether a pattern matches anywhere in a text. -/
def regexMatch (s pattern : String) : Except Problem Bool := do
  return (← regex pattern).isMatch s

/-- A text with all matches of a pattern replaced. -/
def regexReplace (s pattern replacement : String) : Except Problem String := do
  return (← regex pattern).replaceAll s replacement

end Stencil.Function
