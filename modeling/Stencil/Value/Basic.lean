import Stencil.Text.Utf8

/-! Values that templates compute with.

Most are data: numbers, texts, sequences and maps. A map keeps the order of its entries and takes
keys of any kind. The rest are handles on parts of a running template (a loop, a macro, a
namespace) or on the program's own functions. What is a sequence, a map or something that can only
be walked through is answered by `items?`, `entries?` and `walk?`, so that no operation has
to know every constructor. -/
namespace Stencil
open Text.Utf8 (Bytes)

/-- Where a loop is. The length is missing when it is not known in advance; `slot` is where the
loop keeps what it saw last. -/
structure LoopPosition where
  index : Nat
  length : Option Nat
  depth : Nat
  slot : Nat
  deriving DecidableEq, Repr

/-- The heading of a macro. `id` tells apart macros of one name. -/
structure MacroHeading where
  name : String
  parameters : List String
  usesCaller : Bool
  id : Nat
  deriving DecidableEq, Repr

/-- A value. `lazy` items can be walked through but are no sequence; `sized` says that their
number is known in advance. -/
inductive Value where
  | undefined
  | none
  | bool (b : Bool)
  | int (n : Int)
  | float (x : Float)
  | text (s : String) (safe : Bool)
  | bytes (bs : Bytes)
  | list (items : List Value)
  | lazy (items : List Value) (sized : Bool)
  | map (entries : List (Value × Value))
  | group (key : Value) (items : List Value)
  | plain (shown : String)
  | invalid (reason : String)
  | function (name : String)
  | definition (heading : MacroHeading)
  | iteration (position : LoopPosition) (previous next : Value)
  | workspace (id : Nat) (entries : List (Value × Value))
  deriving Inhabited

/-- What a value is, as messages name it. -/
inductive Kind where
  | undefined
  | none
  | bool
  | number
  | string
  | bytes
  | sequence
  | map
  | iterator
  | plain
  | invalid
  deriving DecidableEq, Repr

/-- The name of a kind. -/
def Kind.name : Kind → String
  | .undefined => "undefined"
  | .none => "none"
  | .bool => "bool"
  | .number => "number"
  | .string => "string"
  | .bytes => "bytes"
  | .sequence => "sequence"
  | .map => "map"
  | .iterator => "iterator"
  | .plain => "plain object"
  | .invalid => "invalid value"

/-- The place of a kind in the order of values of different kinds. -/
def Kind.rank : Kind → Nat
  | .undefined => 0
  | .none => 1
  | .bool => 2
  | .number => 3
  | .string => 4
  | .bytes => 5
  | .sequence => 6
  | .map => 7
  | .iterator => 8
  | .plain => 9
  | .invalid => 10

namespace Value

/-- A text that is not marked safe. -/
def ofString (s : String) : Value := .text s false

/-- A natural number. -/
def ofNat (n : Nat) : Value := .int (Int.ofNat n)

/-- The kind of a value. -/
def kind : Value → Kind
  | .undefined => .undefined
  | .none => .none
  | .bool _ => .bool
  | .int _ | .float _ => .number
  | .text .. => .string
  | .bytes _ => .bytes
  | .list _ | .group .. => .sequence
  | .lazy .. => .iterator
  | .map _ | .definition _ | .iteration .. | .workspace .. => .map
  | .plain _ | .function _ => .plain
  | .invalid _ => .invalid

/-- The value is undefined. -/
def isUndefined : Value → Bool
  | .undefined => true
  | _ => false

/-- The value is none. -/
def isNone : Value → Bool
  | .none => true
  | _ => false

/-- The text of a text, or of bytes that are one. -/
def asText? : Value → Option String
  | .text s _ => some s
  | .bytes bs => (Text.Utf8.decodeText bs).toOption
  | _ => Option.none

/-- What the attributes of a loop are. -/
def loopEntries (p : LoopPosition) (previous next : Value) : List (Value × Value) :=
  let number := fun n : Nat => ofNat n
  let back := fun n : Nat => (p.length.map fun l => number (l - n)).getD .undefined
  [(ofString "index0", number p.index),
    (ofString "index", number (p.index + 1)),
    (ofString "length", (p.length.map number).getD .undefined),
    (ofString "revindex", back p.index),
    (ofString "revindex0", back (p.index + 1)),
    (ofString "first", .bool (p.index == 0)),
    (ofString "last", .bool (p.length.any fun l => p.index + 1 == l)),
    (ofString "depth", number (p.depth + 1)),
    (ofString "depth0", number p.depth),
    (ofString "previtem", previous),
    (ofString "nextitem", next)]

/-- What the attributes of a macro are. -/
def headingEntries (h : MacroHeading) : List (Value × Value) :=
  [(ofString "name", ofString h.name),
    (ofString "arguments", .list (h.parameters.map ofString)),
    (ofString "caller", .bool h.usesCaller)]

/-- The entries of a map. -/
def entries? : Value → Option (List (Value × Value))
  | .map es | .workspace _ es => some es
  | .definition h => some (headingEntries h)
  | .iteration p previous next => some (loopEntries p previous next)
  | _ => Option.none

/-- The items of a sequence, or of what can be walked through like one. -/
def items? : Value → Option (List Value)
  | .list vs | .lazy vs _ => some vs
  | .group key vs => some [key, .list vs]
  | _ => Option.none

/-- A sequence or something that can be walked through like one. -/
def isListLike (v : Value) : Bool := v.items?.isSome

/-- The value is more than plain data: a container or a handle. -/
def isObject (v : Value) : Bool :=
  match v with
  | .plain _ | .function _ => true
  | v => v.isListLike || v.entries?.isSome

/-- What a loop over the value sees: items, keys, characters, or nothing for a missing value. -/
def walk? : Value → Option (List Value)
  | .undefined | .none => some []
  | .text s _ => some (s.toList.map fun c => ofString c.toString)
  | v =>
    match v.items? with
    | some vs => some vs
    | Option.none => v.entries?.map (·.map Prod.fst)

/-- The number of characters, bytes, items or entries, where it is known in advance. -/
def length? : Value → Option Nat
  | .text s _ => some s.length
  | .bytes bs => some bs.length
  | .lazy vs sized => if sized then some vs.length else Option.none
  | v =>
    match v.items? with
    | some vs => some vs.length
    | Option.none => v.entries?.map List.length

/-- A value counts as true unless it is missing, zero or without content. -/
def isTrue : Value → Bool
  | .undefined | .none | .invalid _ => false
  | .bool b => b
  | .int n => n != 0
  | .float x => x != 0.0
  | .plain _ | .function _ => true
  | v => v.length? != some 0

end Value
end Stencil
