import Stencil.Function.Choice
import Stencil.Template.Args
import Stencil.Text.CaseMap

/-! Filters on lists and maps.

Sorting is stable and by the order of values; texts are compared without regard to the case of the
letters from A to Z unless that is asked for. What is looked for once only is compared without regard
to case at all. An attribute is a path into each item. -/
namespace Stencil.Template.Filter

/-- The form in which a value is looked for. -/
def comparable (caseSensitive : Bool) (v : Value) : Value :=
  if caseSensitive then v
  else
    match v.asText? with
    | some s => .ofString (Text.toLower s)
    | none => v

/-- The order of values, perhaps without regard to the case of the letters from A to Z. -/
def orderBy (caseSensitive : Bool) (v w : Value) : Ordering :=
  if caseSensitive then v.order w
  else
    match v.asText?, w.asText? with
    | some s, some t => Value.compareTexts (s.map Char.toLower) (t.map Char.toLower)
    | _, _ => v.order w

/-- Sorts items by an order; equal ones keep their places. -/
def sortedBy {α : Type} (cmp : α → α → Ordering) (xs : List α) : List α :=
  xs.mergeSort fun a b => cmp a b != .gt

/-- The items of a value that has to be a list. -/
def itemsOf (v : Value) : Except Problem (List Value) :=
  match v.walk? with
  | some vs => .ok vs
  | none => .error .notList

/-- The order of two items by paths into both; items without them count as equal. -/
def orderByPaths (caseSensitive : Bool) (paths : List String) (v w : Value) : Ordering :=
  paths.foldl (fun o p => o.then <|
    match v.path p, w.path p with
    | .ok a, .ok b => orderBy caseSensitive a b
    | _, _ => .eq) .eq

/-- The paths that an attribute names, with commas between them. -/
def pathsOf (along : String) : List String :=
  (Text.split [','] none along.toList).map fun p =>
    String.ofList (Text.trimEnds Text.isBlank p)

/-- A list in order. -/
def sort (a : Args) : Except Problem Value := do
  let (v, named) ← a.readNamed Params.value
  let items ← itemsOf v
  let caseSensitive ← Named.flag named "case_sensitive"
  let along ← Named.text? named "attribute"
  let sorted := match along with
    | some p => sortedBy (orderByPaths caseSensitive (pathsOf p)) items
    | none => sortedBy (orderBy caseSensitive) items
  let reversed ← Named.flag named "reverse"
  Named.only named ["case_sensitive", "attribute", "reverse"]
  return .list (if reversed then sorted.reverse else sorted)

/-- The entries of a map in order. -/
def dictSort (a : Args) : Except Problem Value := do
  let (v, named) ← a.readNamed Params.value
  match v.entries? with
  | none => throw .notPairList
  | some es =>
    let chosen? ← Named.text? named "by"
    let byValue ← match chosen? with
      | none | some "key" => pure false
      | some "value" => pure true
      | some other => throw (.badSortKey other)
    let caseSensitive ← Named.flag named "case_sensitive"
    let part (e : Value × Value) : Value := if byValue then e.2 else e.1
    let sorted := sortedBy (fun e f => orderBy caseSensitive (part e) (part f)) es
    let reversed ← Named.flag named "reverse"
    Named.only named ["by", "case_sensitive", "reverse"]
    let sorted := if reversed then sorted.reverse else sorted
    return .list (sorted.map fun e => .list [e.1, e.2])

/-- The entries of a map as pairs. -/
def items (v : Value) : Except Problem Value :=
  match v.entries? with
  | some es => .ok (.list (es.map fun e => .list [e.1, e.2]))
  | none => .error .notPairs

/-- The first item. -/
def first (v : Value) : Except Problem Value :=
  match v.asText? with
  | some s => .ok ((s.toList.head?.map fun c => Value.ofString c.toString).getD .undefined)
  | none =>
    match v.items?, v.entries? with
    | some vs, _ => .ok (vs.head?.getD .undefined)
    | none, some es => .ok ((es.head?.map Prod.fst).getD .undefined)
    | none, none => .error .noFirst

/-- The last item. -/
def last (v : Value) : Except Problem Value :=
  match v.asText? with
  | some s => .ok ((s.toList.getLast?.map fun c => Value.ofString c.toString).getD .undefined)
  | none =>
    match v.items? with
    | some vs => .ok (vs.getLast?.getD .undefined)
    | none => .error .noLast

/-- The first of the least items, or the last of the greatest. -/
def extreme (greatest : Bool) (v : Value) : Except Problem Value := do
  let vs ← itemsOf v
  match vs with
  | [] => return .undefined
  | w :: rest =>
    return rest.foldl (fun best x =>
      let o := x.order best
      if greatest then (if o == .lt then best else x) else (if o == .lt then x else best)) w

/-- The number of items. -/
def length (v : Value) : Except Problem Value :=
  match v.length? with
  | some n => .ok (.ofNat n)
  | none => .error (.noLength v.kind)

/-- The texts of items, joined. -/
def joined (joiner : String) (vs : List Value) : String :=
  vs.foldl (fun s v => (if s.isEmpty then s else s ++ joiner) ++ Function.textOf v) ""

/-- The texts of items, joined. -/
def join : Params Value := do
  let v ← Params.value
  let joiner ← Params.text?
  if v.isUndefined || v.isNone then return .ofString ""
  else
    match v.walk? with
    | some vs => return .ofString (joined (joiner.getD "") vs)
    | none => throw (.notJoinable v.kind)

/-- A value, or another in the place of a missing one. -/
def default : Params Value := do
  let v ← Params.value
  let other ← Params.value?
  let lax ← Params.flag?
  if v.isUndefined || (lax.getD false && !v.isTrue) then return other.getD (.ofString "")
  else return v

/-- Items in groups of a size; `fuel` is at least their number. -/
def groups (n : Nat) : (fuel : Nat) → List Value → List (List Value)
  | 0, _ => []
  | _ + 1, [] => []
  | fuel + 1, vs => vs.take n :: groups n fuel (vs.drop n)

/-- Items in groups of a size, the last of which may be filled up. -/
def batch : Params Value := do
  let v ← Params.value
  let n ← Params.size
  let filler ← Params.value?
  if n == 0 then throw .zeroCount
  match v.walk with
  | .error p => throw p
  | .ok vs =>
    let fill (g : List Value) : List Value := match filler with
      | some f => g ++ List.replicate (n - g.length) f
      | none => g
    return .list ((groups n vs.length vs).map fun g => .list (fill g))

/-- Items in `n` columns. The first ones take an item more if the items do not come out even, and the
others may be filled up to them. -/
def columns (n : Nat) (filler : Option Value) (vs : List Value) : List (List Value) :=
  let least := vs.length / n
  let longer := vs.length % n
  (List.range n).map fun i =>
    let start := i * least + min i longer
    if i < longer then (vs.drop start).take (least + 1)
    else (vs.drop start).take least ++ filler.toList

/-- Items in columns. -/
def slice : Params Value := do
  let v ← Params.value
  let n ← Params.size
  let filler ← Params.value?
  if n == 0 then throw .zeroCount
  match v.walk with
  | .error p => throw p
  | .ok vs => return .list ((columns n filler vs).map .list)

/-- Maps one behind the other, in the order of their keys; a later entry replaces an earlier one. -/
def merged (vs : List Value) : Value :=
  match Value.mapOf (vs.flatMap fun v => v.entries?.getD []) with
  | .map es => .map (sortedBy (fun e f => e.1.order f.1) es)
  | v => v

/-- What a value adds to others behind which it stands. -/
def chained (v : Value) : List Value :=
  match v.walk? with
  | some vs => vs
  | none => [.invalid ((Problem.notIterable v.kind).detail?.getD "")]

/-- Values one behind the other: maps make a map, sequences a sequence, and all else can be walked
through. -/
def chain : Params Value := do
  let v ← Params.value
  let vs := v :: (← Params.rest).map Argument.toValue
  if vs.all fun v => v.kind == .map then return merged vs
  else if vs.all fun v => v.kind == .sequence then return .list (vs.flatMap chained)
  else return .lazy (vs.flatMap chained) false

/-- The items of lists side by side, as far as the shortest of them goes. -/
def rows : (fuel : Nat) → List (List Value) → List (List Value)
  | 0, _ => []
  | fuel + 1, columns =>
    match columns.mapM List.head? with
    | some row => row :: rows fuel (columns.map List.tail)
    | none => []

/-- The items of values side by side. -/
def zip : Params Value := do
  let v ← Params.value
  let vs := v :: (← Params.rest).map Argument.toValue
  match vs.find? fun v => v.walk?.isNone with
  | some v => throw (.notZippable v.kind)
  | none =>
    let columns := vs.map fun v => v.walk?.getD []
    let found := rows ((columns.headD []).length) columns
    return .lazy (found.map .list) (vs.all fun v => v.length?.isSome)

/-- A part of each item, one for every run of parts. -/
def part : Params Value := do
  let v ← Params.value
  let key ← Params.value
  match v.itemOf key with
  | .ok w => return w
  | .error p => throw p

/-- The first item of every run of items whose keys are equal. -/
def heads {α : Type} (same : α → α → Bool) : List α → List α
  | [] => []
  | [x] => [x]
  | x :: y :: rest => if same x y then heads same (x :: rest) else x :: heads same (y :: rest)
  termination_by xs => xs.length

/-- Items without those whose key equals that of an earlier one. Items of equal keys stand side by
side when they are sorted, the earliest first; what is left goes back to its place. -/
def distinctBy (key : Value → Value) (vs : List Value) : List Value :=
  let keyed := vs.zipIdx.map fun (v, i) => (key v, v, i)
  let sorted := sortedBy (fun a b => a.1.order b.1) keyed
  let kept := heads (fun a b => a.1.order b.1 == .eq) sorted
  (sortedBy (fun a b => compare a.2.2 b.2.2) kept).map fun e => e.2.1

/-- Items without those that equal an earlier one. -/
def unique (a : Args) : Except Problem Value := do
  let (v, named) ← a.readNamed Params.value
  let along ← Named.text? named "attribute"
  let caseSensitive ← Named.flag named "case_sensitive"
  Named.only named ["attribute", "case_sensitive"]
  let vs ← v.walk
  let keyOf (w : Value) : Value := comparable caseSensitive <| match along with
    | some p => w.pathOr p .undefined
    | none => w
  return .list (distinctBy keyOf vs)

/-- Runs of items whose keys are equal; each run keeps the key of its last item. -/
def runsBy (same : Value → Value → Bool) : List (Value × Value) → List (Value × List Value)
  | [] => []
  | (k, v) :: rest =>
    match runsBy same rest with
    | (l, vs) :: more => if same k l then (l, v :: vs) :: more else (k, [v]) :: (l, vs) :: more
    | [] => [(k, [v])]

/-- Items in groups by a part of each. -/
def groupBy (a : Args) : Except Problem Value := do
  let ((v, along?), named) ← a.readNamed (do
    let v ← Params.value
    let along? ← Params.optional fun x =>
      match x.toValue.asText? with
      | some s => .ok s
      | none => .error .notText
    return (v, along?))
  let fallback := (Named.get? named "default").getD .undefined
  let caseSensitive ← Named.flag named "case_sensitive"
  let along ← match along? with
    | some p => pure p
    | none =>
      match ← Named.text? named "attribute" with
      | some p => pure p
      | none => throw .missingArgument
  let vs ← v.walk
  let keyed := vs.map fun w => (w.pathOr along fallback, w)
  let sorted := sortedBy (fun e f => orderBy caseSensitive e.1 f.1) keyed
  Named.only named ["default", "case_sensitive", "attribute"]
  let runs := runsBy (fun k l => orderBy caseSensitive k l == .eq) sorted
  return .list (runs.map fun r => .group r.1 r.2)

end Stencil.Template.Filter
