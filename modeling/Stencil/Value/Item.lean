import Stencil.Value.Arithmetic
import Stencil.Decimal.Read
import Stencil.Text.Pieces

/-! Parts of values: items, attributes, slices and paths.

What is not there is undefined. A negative index counts from the end, where the length is known.
A slice picks the items from a start up to a stop in steps, backwards if the step is negative. -/
namespace Stencil.Value

/-- The entry of a map under a key. -/
def lookup? (key : Value) : List (Value × Value) → Option Value
  | [] => Option.none
  | (k, v) :: rest => if sameKey k key then some v else lookup? key rest

/-- Puts an entry into a map: in the place of one under the same key, or at the end. -/
def insertEntry (key value : Value) : List (Value × Value) → List (Value × Value)
  | [] => [(key, value)]
  | (k, v) :: rest =>
    if sameKey k key then (k, value) :: rest else (k, v) :: insertEntry key value rest

/-- A map of entries in which a later entry replaces an earlier one under the same key. -/
def mapOf (entries : List (Value × Value)) : Value :=
  .map (entries.foldl (fun es e => insertEntry e.1 e.2 es) [])

/-- An integer of a machine word. -/
def toWord? (v : Value) : Option Int := v.toIntIn? (-Int.pow 2 63) (Int.pow 2 63 - 1)

/-- The place that an index means among `length` items. -/
def place? (length : Option Nat) (index : Value) : Option Nat :=
  match index.toWord? with
  | Option.none => Option.none
  | some (.ofNat i) => some i
  | some (.negSucc i) =>
    match length with
    | Option.none => Option.none
    | some n => if i < n then some (n - (i + 1)) else Option.none

/-- The attributes of the pair that grouping makes. -/
def groupPart? (key : Value) (items : List Value) (part : Value) : Option Value :=
  match part with
  | .text s _ =>
    if s == "grouper" then some key else if s == "list" then some (.list items) else Option.none
  | _ => Option.none

/-- The part of a value under an index or a key. -/
def item? (v part : Value) : Option Value :=
  match v with
  | .text s _ =>
    (place? (some s.length) part).bind fun i =>
      s.toList[i]?.map fun c => ofString c.toString
  | .bytes bs => (place? (some bs.length) part).bind fun i => bs[i]?.map fun b => ofNat b.toNat
  | .group key items =>
    match groupPart? key items part with
    | some found => some found
    | Option.none => (place? (some 2) part).bind fun i => [key, .list items][i]?
  | _ =>
    match v.items? with
    | some vs => (place? v.length? part).bind fun i => vs[i]?
    | Option.none => v.entries?.bind (lookup? part)

/-- The part of a value under an index or a key, undefined if there is none. -/
def item (v part : Value) : Value := (v.item? part).getD .undefined

/-- The attribute of a value, if it has such. -/
def field? (v : Value) (name : String) : Option Value :=
  match v with
  | .text .. | .bytes _ => Option.none
  | _ => v.item? (ofString name)

/-- The attribute of a value, undefined if there is none. -/
def field (v : Value) (name : String) : Value := (v.field? name).getD .undefined

/-- The part under an index or a key of a value that is there. -/
def itemOf (v part : Value) : Except Problem Value :=
  if v.isUndefined then .error .undefinedPath else .ok (v.item part)

/-- The natural number that digits spell. -/
def natOfChars? (cs : List Char) : Option Nat :=
  if !cs.isEmpty && cs.all Char.isDigit then some (Decimal.natOfDigits cs) else Option.none

/-- The part at the end of a path: names and indexes with points between them. -/
def path (v : Value) (p : String) : Except Problem Value :=
  (Text.split ['.'] Option.none p.toList).foldlM (fun found part =>
    if found.isUndefined then .error .undefinedPath
    else
      match natOfChars? part with
      | some n => .ok (found.item (ofNat n))
      | Option.none => .ok (found.field (String.ofList part))) v

/-- The part at the end of a path, or `fallback` if it is not there. -/
def pathOr (v : Value) (p : String) (fallback : Value) : Value :=
  match v.path p with
  | .ok found => if found.isUndefined then fallback else found
  | .error _ => fallback

/-- The places that a slice of `n` items picks. Backwards the stop is left out too, except that the
first place is always reached. -/
def slicePlaces (n : Nat) (start stop : Option Int) (step : Int) : List Nat :=
  let count := Int.ofNat n
  if step > 0 then
    let clamp := fun i : Int => if i < 0 then max (i + count) 0 else min i count
    let first := (start.map clamp).getD 0
    let last := (stop.map clamp).getD count
    let total := if first < last then ((last - first + step - 1) / step).toNat else 0
    (List.range total).map fun k => (first + Int.ofNat k * step).toNat
  else
    let fromEnd := fun i : Int => if i < 0 then max (i + count) 0 else i
    let first := min ((start.map fromEnd).getD (count - 1)) (count - 1)
    let last := (stop.map fromEnd).getD 0
    let bound := if last == 0 then -1 else last
    let back := -step
    let total := if bound < first then ((first - bound + back - 1) / back).toNat else 0
    (List.range total).map fun k => (first - Int.ofNat k * back).toNat

/-- The items that a slice picks. -/
def sliced {α : Type} (xs : List α) (start stop : Option Int) (step : Int) : List α :=
  let all := xs.toArray
  (slicePlaces xs.length start stop step).filterMap fun i => all[i]?

/-- An end of a slice: none means that it is left out. -/
def sliceEnd (v : Value) : Except Problem (Option Int) :=
  if v.isNone then .ok Option.none
  else
    match v.toWord? with
    | some n => .ok (some n)
    | Option.none => .error (.notConvertible v.kind "i64")

/-- A slice of a value. -/
def slice (v start stop step : Value) : Except Problem Value := do
  let first ← sliceEnd start
  let last ← sliceEnd stop
  let stride := (← sliceEnd step).getD 1
  if stride == 0 then .error .zeroStep
  else
    match v with
    | .undefined | .none => .ok (.list [])
    | .text s _ => .ok (ofString (String.ofList (sliced s.toList first last stride)))
    | .bytes bs => .ok (.bytes (sliced bs first last stride))
    | _ =>
      match v.items? with
      | some vs => .ok (.lazy (sliced vs first last stride) true)
      | Option.none => .error (.notSliceable v.kind)

/-- A container holds a value. -/
def contains (container v : Value) : Except Problem Bool :=
  if container.isUndefined then .ok false
  else
    match container.asText? with
    | some s => .ok (Text.holds (v.asText?.getD v.display).toList s.toList)
    | Option.none =>
      match container.items?, container.entries? with
      | some vs, _ => .ok (vs.any fun w => w == v)
      | Option.none, some es => .ok (lookup? v es).isSome
      | Option.none, Option.none =>
        match container with
        | .plain _ | .function _ => .ok false
        | _ => .error .noContainment

/-- The items of a loop over the value. -/
def walk (v : Value) : Except Problem (List Value) :=
  match v.walk? with
  | some vs => .ok vs
  | Option.none => .error (.notIterable v.kind)

/-- The value from its end. -/
def reversed (v : Value) : Except Problem Value :=
  match v with
  | .undefined | .none => .ok v
  | .text s _ => .ok (ofString (String.ofList s.toList.reverse))
  | .bytes bs => .ok (.bytes bs.reverse)
  | _ =>
    match v.walk? with
    | some vs => .ok (.lazy vs.reverse true)
    | Option.none => .error (.notReversible v.kind)

end Stencil.Value
