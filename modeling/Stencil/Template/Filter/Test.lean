import Stencil.Template.Args
import Stencil.Text.Property

/-! Tests.

A test reads a value, and perhaps others beside it, and is true or false. Numbers are tested as
integers if they are whole, whatever their form. -/
namespace Stencil.Template.Filter

/-- The names of filters: the program's own, then those that the engine comes with. -/
def filterNames : List String :=
  ["empty", "b64encode", "b64decode", "quote", "squote", "nindent", "trunc", "trimprefix",
    "trimsuffix", "snakecase", "kebabcase", "camelcase", "sha256", "toyaml", "regex_match",
    "regex_replace", "upper", "lower", "title", "capitalize", "replace", "default", "d", "join",
    "trim", "indent", "tojson", "length", "count", "sort", "dictsort", "reverse", "first", "last",
    "min", "max", "sum", "split", "lines", "list", "string", "int", "float", "abs", "round", "bool",
    "batch", "select", "reject", "selectattr", "rejectattr", "map", "unique", "groupby",
    "items", "attr", "urlencode", "escape", "e", "safe", "format", "slice", "chain", "zip",
    "pprint"]

/-- The names of tests. -/
def testNames : List String :=
  ["defined", "undefined", "none", "safe", "escaped", "odd", "even", "divisibleby", "number",
    "integer", "int", "float", "string", "sequence", "boolean", "startingwith", "endingwith",
    "mapping", "iterable", "lower", "upper", "sameas", "eq", "equalto", "==", "ne", "!=", "lt",
    "lessthan", "<", "le", "<=", "gt", "greaterthan", ">", "ge", ">=", "in", "true", "false",
    "filter", "test"]

/-- The remainder of an integer by another, for values that are integers. -/
def remainder? (v : Value) (n : Int) : Option Int :=
  (v.toIntIn? Value.leastInt Value.greatestInt).map fun m => Int.tmod m n

/-- A number is a multiple of another. -/
def isMultiple (v w : Value) : Bool :=
  match Value.terms? false v w with
  | some (.ints m n) => n != 0 && Int.tmod m n == 0
  | some (.floats x y) => Value.floatRem x y == 0.0
  | _ => false

/-- The value is an integer in its form. -/
def isInteger : Value → Bool
  | .int _ => true
  | _ => false

/-- Tests of one value. -/
def onOne? : String → Option (Value → Bool)
  | "defined" => some fun v => !v.isUndefined
  | "undefined" => some Value.isUndefined
  | "none" => some Value.isNone
  | "safe" | "escaped" => some fun v => match v with
    | .text _ safe => safe
    | _ => false
  | "odd" => some fun v => (remainder? v 2).any (· != 0)
  | "even" => some fun v => (remainder? v 2).any (· == 0)
  | "number" => some fun v => v.kind == .number
  | "integer" | "int" => some isInteger
  | "float" => some fun v => v.kind == .number && !isInteger v
  | "string" => some fun v => v.kind == .string
  | "sequence" => some fun v => v.kind == .sequence
  | "boolean" => some fun v => v.kind == .bool
  | "mapping" => some fun v => v.kind == .map
  | "iterable" => some fun v => v.walk?.isSome
  | "true" => some fun v => match v with
    | .bool b => b
    | _ => false
  | "false" => some fun v => match v with
    | .bool b => !b
    | _ => false
  | _ => none

/-- Tests of a value beside another. -/
def onTwo? : String → Option (Value → Value → Bool)
  | "divisibleby" => some isMultiple
  | "sameas" => some fun v w => v.kind == w.kind && isInteger v == isInteger w && v == w
  | "eq" | "equalto" | "==" => some fun v w => v == w
  | "ne" | "!=" => some fun v w => !(v == w)
  | "lt" | "lessthan" | "<" => some fun v w => v.order w == .lt
  | "le" | "<=" => some fun v w => v.order w != .gt
  | "gt" | "greaterthan" | ">" => some fun v w => v.order w == .gt
  | "ge" | ">=" => some fun v w => v.order w != .lt
  | "in" => some fun v w => match w.contains v with
    | .ok b => b
    | .error _ => false
  | _ => none

/-- Tests of a value that has to be a text. -/
def onName? : String → Option (String → Bool)
  | "lower" => some fun s => s.toList.all Text.isLowercase
  | "upper" => some fun s => s.toList.all Text.isUppercase
  | "filter" => some filterNames.contains
  | "test" => some testNames.contains
  | _ => none

/-- Tests of a text beside another. -/
def onTexts? : String → Option (List Char → List Char → Bool)
  | "startingwith" => some fun s part => (Text.after? part s).isSome
  | "endingwith" => some fun s part => (Text.after? part.reverse s.reverse).isSome
  | _ => none

/-- Carries out a test, if there is one of that name. -/
def test? (name : String) (a : Args) : Option (Except Problem Bool) :=
  match onOne? name with
  | some p => some (a.read do return p (← Params.value))
  | none =>
    match onTwo? name with
    | some p => some (a.read do
        let v ← Params.value
        let w ← Params.value
        return p v w)
    | none =>
      match onName? name with
      | some p => some (a.read do
          match (← Params.value).asText? with
          | some s => return p s
          | none => throw .notText)
      | none =>
        match onTexts? name with
        | some p => some (a.read do
            let s ← Params.text
            let part ← Params.text
            return p s.toList part.toList)
        | none => none

end Stencil.Template.Filter
