import Stencil.Data.Json
import Stencil.Value.Display

/-! How output is escaped.

Texts that are marked safe are written as they are, and so is everything while nothing is escaped. -/
namespace Stencil.Template

/-- Ways of escaping. -/
inductive Escaping where
  | off
  | html
  | json
  deriving DecidableEq, Repr

namespace Escaping

/-- A character in a page. -/
def htmlChar (c : Char) : List Char :=
  match c with
  | '<' => "&lt;".toList
  | '>' => "&gt;".toList
  | '&' => "&amp;".toList
  | '"' => "&quot;".toList
  | '\'' => "&#x27;".toList
  | '/' => "&#x2f;".toList
  | c => [c]

/-- A text in a page. -/
def escapedHtml (s : String) : String := String.ofList (s.toList.flatMap htmlChar)

/-- A value, escaped. -/
def write (e : Escaping) (v : Value) : Except Problem String :=
  match e, v with
  | _, .text s true => .ok s
  | .off, _ => .ok v.display
  | .html, _ => .ok (escapedHtml v.display)
  | .json, _ =>
    match Data.ofValue false v with
    | .ok t => .ok (Data.Json.compact t)
    | .error _ => .error .noEscapedDocument

end Escaping
end Stencil.Template
