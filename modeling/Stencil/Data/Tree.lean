import Stencil.Problem

/-! Documents.

A `Tree` is what a value looks like to a data format: keys are texts, bytes are lists of numbers,
and objects are what they display. A value without such a form has a `DocumentFlaw`. `sorted`
orders the entries of every map by the bytes of their keys; of entries under one key the last one
stays. -/
namespace Stencil.Data
open Text.Utf8 (Bytes)

/-- A document. -/
inductive Tree where
  | null
  | bool (b : Bool)
  | int (n : Int)
  | float (x : Float)
  | text (s : String)
  | list (items : List Tree)
  | map (entries : List (String × Tree))
  deriving Inhabited

/-- The integers that a document can hold when it is bounded: those of a machine word, with or
without a sign. -/
def isBounded (n : Int) : Bool := -Int.pow 2 63 ≤ n && n < Int.pow 2 64

/-- A number in a document; what is no number is null. -/
def ofFloat (x : Float) : Tree :=
  match Decimal.Binary.of x with
  | .finite .. => .float x
  | _ => .null

/-- A key in a document. -/
def keyOf : Value → Except DocumentFlaw String
  | .bool b => .ok (if b then "true" else "false")
  | .int n => .ok (toString n)
  | .float x =>
    match Decimal.Binary.of x with
    | .finite .. => .ok (Decimal.inDocument.render x)
    | _ => .error .keyNotFinite
  | .text s _ => .ok s
  | .plain shown => .ok shown
  | .function name => .ok name
  | .invalid reason => .error (.invalid reason)
  | _ => .error .keyNotText

mutual

/-- The document for a value; `bounded` refuses integers outside of a machine word. -/
def ofValue (bounded : Bool) : Value → Except DocumentFlaw Tree
  | .undefined => .ok .null
  | .none => .ok .null
  | .bool b => .ok (.bool b)
  | .int n => if bounded && !isBounded n then .error .numberTooLarge else .ok (.int n)
  | .float x => .ok (ofFloat x)
  | .text s _ => .ok (.text s)
  | .bytes bs => .ok (.list (bs.map fun b => .int (Int.ofNat b.toNat)))
  | .list vs => do pure (.list (← ofItems bounded vs))
  | .lazy vs _ => do pure (.list (← ofItems bounded vs))
  | .group key vs => do
    let k ← ofValue bounded key
    pure (.list [k, .list (← ofItems bounded vs)])
  | .map es => do pure (.map (← ofEntries bounded es))
  | .workspace _ es => do pure (.map (← ofEntries bounded es))
  | .plain shown => .ok (.text shown)
  | .invalid reason => .error (.invalid reason)
  | .function name => .ok (.text name)
  | .definition h =>
    .ok (.map [("name", .text h.name), ("arguments", .list (h.parameters.map .text)),
      ("caller", .bool h.usesCaller)])
  | .iteration _ previous next => do
    let p ← ofValue bounded previous
    let n ← ofValue bounded next
    pure (.map [("previtem", p), ("nextitem", n)])
  termination_by structural v => v

/-- The documents for items. -/
def ofItems (bounded : Bool) : List Value → Except DocumentFlaw (List Tree)
  | [] => .ok []
  | v :: rest => do
    let t ← ofValue bounded v
    pure (t :: (← ofItems bounded rest))
  termination_by structural vs => vs

/-- The documents for entries. -/
def ofEntries (bounded : Bool) : List (Value × Value) → Except DocumentFlaw (List (String × Tree))
  | [] => .ok []
  | (k, v) :: rest => do
    let key ← keyOf k
    let t ← ofValue bounded v
    pure ((key, t) :: (← ofEntries bounded rest))
  termination_by structural es => es

end

/-- The order of keys by their bytes, which is their order by characters. -/
def keyBefore : List Char → List Char → Bool
  | [], [] => false
  | [], _ :: _ => true
  | _ :: _, [] => false
  | a :: as, b :: bs => a.toNat < b.toNat || (a == b && keyBefore as bs)

/-- Puts an entry into a map sorted by keys, in the place of one under the same key. -/
def putSorted (key : String) (t : Tree) : List (String × Tree) → List (String × Tree)
  | [] => [(key, t)]
  | (k, u) :: rest =>
    if key = k then (k, t) :: rest
    else if keyBefore key.toList k.toList then (key, t) :: (k, u) :: rest
    else (k, u) :: putSorted key t rest

mutual

/-- A document with the entries of every map in order. -/
def Tree.sorted : Tree → Tree
  | .list ts => .list (sortedItems ts)
  | .map es => .map (sortedEntries [] es)
  | .null => .null
  | .bool b => .bool b
  | .int n => .int n
  | .float x => .float x
  | .text s => .text s
  termination_by structural t => t

/-- Documents with the entries of every map in order. -/
def sortedItems : List Tree → List Tree
  | [] => []
  | t :: rest => t.sorted :: sortedItems rest
  termination_by structural ts => ts

/-- Puts entries into a sorted map, one after the other. -/
def sortedEntries (done : List (String × Tree)) :
    List (String × Tree) → List (String × Tree)
  | [] => done
  | (k, t) :: rest => sortedEntries (putSorted k t.sorted done) rest
  termination_by structural es => es

end

/-- The sorted and bounded document for a value. -/
def document (v : Value) : Except DocumentFlaw Tree := (ofValue true v).map Tree.sorted

end Stencil.Data
