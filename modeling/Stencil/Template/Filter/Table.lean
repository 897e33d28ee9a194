import Stencil.Template.Filter.List
import Stencil.Template.Filter.Number
import Stencil.Template.Filter.Test
import Stencil.Template.Filter.Text

/-! Filters by name.

`map` and the selecting filters apply filters and tests by name themselves. Each of these takes a
name out of the arguments before it goes on, so the number of arguments bounds how deep they nest. -/
namespace Stencil.Template.Filter

/-- Filters that take any value and nothing else. -/
def onAny? : String → Option (Value → Except Problem Value)
  | "empty" => some fun v => .ok (.bool v.isEmpty)
  | "length" | "count" => some length
  | "reverse" => some Value.reversed
  | "first" => some first
  | "last" => some last
  | "min" => some (extreme false)
  | "max" => some (extreme true)
  | "sum" => some sum
  | "list" => some fun v => (itemsOf v).map .list
  | "items" => some items
  | "bool" => some fun v => .ok (.bool v.isTrue)
  | "pprint" => some fun v => .ok (.ofString v.laidOut)
  | "int" => some int
  | "float" => some float
  | "abs" => some abs
  | _ => none

/-- Filters that read several values and no names. -/
def onValues? : String → Option (Params Value)
  | "join" => some join
  | "default" | "d" => some default
  | "batch" => some batch
  | "slice" => some slice
  | "chain" => some chain
  | "zip" => some zip
  | "attr" => some part
  | "round" => some do
    let v ← Params.value
    let places ← Params.int? (-Int.pow 2 31) (Int.pow 2 31 - 1) "i32"
    match round v (places.getD 0) with
    | .ok w => return w
    | .error p => throw p
  | _ => none

/-- Filters that read names. -/
def onNames? : String → Option (Args → Except Problem Value)
  | "sort" => some sort
  | "dictsort" => some dictSort
  | "unique" => some unique
  | "groupby" => some groupBy
  | "indent" => some indent
  | "tojson" => some toJson
  | "format" => some format
  | _ => none

/-- Filters that apply no others. -/
def plain? (e : Escaping) (name : String) (a : Args) : Option (Except Problem Value) :=
  match onText? name with
  | some f => some (a.read Params.text >>= f)
  | none =>
    match onValue? e name, onAny? name with
    | some f, _ => some (a.read Params.value >>= f)
    | none, some f => some (a.read Params.value >>= f)
    | none, none =>
      match onArguments? name, onValues? name with
      | some p, _ => some (a.read p)
      | none, some p => some (a.read p)
      | none, none => (onNames? name).map fun f => f a

/-- Whether an item passes a test, or is true if there is none. -/
def passes (name? : Option String) (more : List Argument) (v : Value) : Except Problem Bool :=
  match name? with
  | none => .ok v.isTrue
  | some name =>
    let named := more.findSome? fun a => match a with
      | .named es => some es
      | .value _ => none
    let positional := more.filterMap fun a => match a with
      | .value w => some w
      | .named _ => none
    match test? name ⟨v :: positional, named⟩ with
    | some result => result
    | none => .error .unnamedTest

/-- The items that pass a test, or those that do not; the test may look at a part of each. -/
def selecting (inverted byPart : Bool) : Params Value := do
  let v ← Params.value
  let along? ← if byPart then do pure (some (← Params.text)) else pure none
  let name? ← Params.text?
  let more ← Params.rest
  if let some name := name? then
    if !testNames.contains name then throw .unnamedTest
  match v.walk with
  | .error p => throw p
  | .ok vs =>
    let keep (w : Value) : Except Problem Bool := do
      let looked ← match along? with
        | some p => w.path p
        | none => pure w
      return (← passes name? more looked) != inverted
    match vs.filterM keep with
    | .ok kept => return .list kept
    | .error p => throw p

/-- Filters that select items. -/
def selecting? : String → Option (Params Value)
  | "select" => some (selecting false false)
  | "reject" => some (selecting true false)
  | "selectattr" => some (selecting false true)
  | "rejectattr" => some (selecting true true)
  | _ => none

/-- A part of each item, or what stands in for a missing one. A path that leads through what is not
there is refused if nothing stands in. -/
def mapParts (along : Value) (v : Value) (others : List Value) (named : List (String × Value)) :
    Except Problem Value := do
  if !others.isEmpty then throw .tooManyArguments
  let fallback := (named.lookup "default").getD .undefined
  Named.only named ["attribute", "default"]
  let vs ← v.walk
  let partOf (w : Value) : Except Problem Value :=
    let found := match along.asText? with
      | some p => w.path p
      | none => w.itemOf along
    match found with
    | .ok x => .ok (if x.isUndefined then fallback else x)
    | .error p => if fallback.isUndefined then .error p else .ok fallback
  return .list (← vs.mapM partOf)

/-- Applies a filter by name, if there is one of that name. -/
def applyTo? (e : Escaping) : (fuel : Nat) → (name : String) → Args → Option (Except Problem Value)
  | 0, _, _ => none
  | fuel + 1, name, a =>
    if name == "map" then
      match a.positional with
      | [] => some (.error .missingArgument)
      | v :: others =>
        match Named.get? (a.named.getD []) "attribute" with
        | some along => some (mapParts along v others (a.named.getD []))
        | none =>
          match others with
          | [] => some (.error .noFilterName)
          | called :: more =>
            match called.asText? with
            | none => some (.error .filterNameNotText)
            | some inner =>
              if !filterNames.contains inner then some (.error .unnamedFilter)
              else some do
                let vs ← v.walk
                let results ← vs.mapM fun w =>
                  match applyTo? e fuel inner { positional := w :: more } with
                  | some r => r
                  | none => .error .unnamedFilter
                return .list results
    else
      match selecting? name with
      | some p => some (a.read p)
      | none => plain? e name a

/-- Applies a filter by name, if there is one of that name. -/
def apply (e : Escaping) (name : String) (a : Args) : Option (Except Problem Value) :=
  applyTo? e (a.positional.length + 1) name a

end Stencil.Template.Filter
