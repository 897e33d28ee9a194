import Stencil.Function.Choice
import Stencil.Function.Requirement
import Stencil.Template.Args

/-! The functions that templates can call by name.

What lies outside of a template comes from a `World`: the snapshot of the run, and the machine,
which is given commands and asked for files. The commands that ran are kept, because the machine
may go by them. -/
namespace Stencil.Template

/-- What templates see beside their own text. -/
structure World where
  snapshot : Snapshot := {}
  machine : Machine := .bare

/-- The names of functions. -/
def functionNames : List String :=
  ["sh", "required_vals", "required_files", "required_envs", "getenv", "fail", "dict", "list",
    "coalesce", "ternary", "range", "namespace"]

/-- The texts of all arguments. -/
def texts : Params (List String) := do
  match (← Params.rest).mapM Params.textOf with
  | .ok ss => return ss
  | .error p => throw p

/-- The greatest number of terms of a range. -/
def mostTerms : Nat := 100000

/-- The integers from a first one up to a limit, in steps. -/
def terms (first limit step : Int) : Except Problem Value :=
  if step == 0 then .error .rangeStep
  else
    let count :=
      if 0 < step then
        if first < limit then ((limit - first + step - 1) / step).toNat else 0
      else if limit < first then ((first - limit - step - 1) / -step).toNat else 0
    if mostTerms < count then .error .rangeLength
    else .ok (.lazy ((List.range count).map fun k => .int (first + Int.ofNat k * step)) true)

/-- A range: with one argument from zero, with two or three from the first. -/
def range : Params Value := do
  let word := Params.intOf (-Int.pow 2 63) (Int.pow 2 63 - 1) "isize"
  let a ← Params.next
  match word a.toValue with
  | .error p => throw p
  | .ok first =>
    let limit? ← Params.int? (-Int.pow 2 63) (Int.pow 2 63 - 1) "isize"
    let step? ← Params.int? (-Int.pow 2 63) (Int.pow 2 63 - 1) "isize"
    let result := match limit? with
      | some limit => terms first limit (step?.getD 1)
      | none => terms 0 first (step?.getD 1)
    match result with
    | .ok v => return v
    | .error p => throw p

/-- Puts an entry in its place among others in the order of their names. -/
def putNamed (name : String) (w : Value) : List (Value × Value) → List (Value × Value)
  | [] => [(.ofString name, w)]
  | (k, x) :: rest =>
    let other := k.asText?.getD ""
    if name == other then (k, w) :: rest
    else if Data.keyBefore name.toList other.toList then (.ofString name, w) :: (k, x) :: rest
    else (k, x) :: putNamed name w rest

/-- The entries that a namespace starts with, in the order of their names. -/
def namespaceEntries (start? : Option Value) : Except Problem (List (Value × Value)) :=
  match start? with
  | none => .ok []
  | some v =>
    match v.entries? with
    | none => .error (.namespaceSource v.kind)
    | some es => es.foldlM (fun done (k, w) =>
      match k.asText? with
      | some s => .ok (putNamed s w done)
      | none => .error (.namespaceKey k.kind)) []

/-- A result of a function that is a text. -/
def textResult (r : Except Problem String) : Except Problem Value := r.map .ofString

namespace World

/-- Calls a function by name, with the commands that ran before as a state; `namespace` is left to
those who keep namespaces. -/
def call (w : World) (name : String) (a : Args) : StateT (List String) (Except Problem) Value :=
  match name with
  | "sh" => do
    let command ← a.read Params.text
    let output ← Function.sh (w.machine.command (← get)) command
    modify (· ++ [command])
    return .ofString output
  | "required_vals" => textResult (Function.requiredVals a.values)
  | "required_files" => do
    let paths ← a.read texts
    textResult (Function.requiredFiles (w.machine.kind? (← get)) paths)
  | "required_envs" => do
    textResult (Function.requiredEnvs w.snapshot (← a.read texts))
  | "getenv" => do
    let (name, fallback) ← a.read do
      let name ← Params.text
      let fallback ← Params.text?
      return (name, fallback)
    return .ofString (Function.getenv w.snapshot name fallback)
  | "fail" => do throw (.raised (← a.read Params.text))
  | "dict" => Function.dict a.values
  | "list" => return .list a.values
  | "coalesce" => return Function.coalesce a.values
  | "ternary" => a.read do
    let yes ← Params.value
    let no ← Params.value
    let condition ← Params.value
    return Function.ternary yes no condition
  | "range" => a.read range
  | _ => throw .missingArgument

end World
end Stencil.Template
