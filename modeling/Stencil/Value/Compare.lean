import Stencil.Value.Basic
import Stencil.Decimal.Binary

/-! Equality and order of values.

Numbers and truth values are compared as numbers: an integer equals a float only if the float is
that integer, or the power of two behind the greatest integer of 64 or 128 bits. Sequences are
compared item by item, maps entry by entry without regard to their order. Values of different kinds
are ordered by kind, so every list of values can be sorted; floats are ordered by their sign and
size, with what is no number at the ends. -/
namespace Stencil.Value
open Text.Utf8 (Bytes)

/-- The smallest and the largest integer that arithmetic yields. -/
def leastInt : Int := -Int.pow 2 127
/-- The largest integer that arithmetic yields. -/
def greatestInt : Int := Int.pow 2 127 - 1

/-- The integer is one that arithmetic can work with. -/
def isComputable (n : Int) : Bool := leastInt ≤ n && n ≤ greatestInt

/-- Two operands brought to one form. -/
inductive Operands where
  | ints (a b : Int)
  | floats (a b : Float)
  | texts (a b : String)

/-- The greatest integers that 64 and 128 bits spell. As integers are cut to these bounds, the power of
two behind one of them counts as the same number. -/
def isAllBits (n : Int) : Bool := n == Int.pow 2 64 - 1 || n == Int.pow 2 128 - 1

/-- A number or a truth value as a float; without `rounding`, only if the float is the same
number. -/
def asFloat? (rounding : Bool) : Value → Option Float
  | .bool b => some (if b then 1.0 else 0.0)
  | .int n =>
    let x := Float.ofInt n
    if rounding || isAllBits n || Decimal.whole? x == some n then some x else Option.none
  | .float x => some x
  | _ => Option.none

/-- A number or a truth value as an integer. -/
def asInt? : Value → Option Int
  | .bool b => some (if b then 1 else 0)
  | .int n => if isComputable n then some n else Option.none
  | _ => Option.none

/-- Brings two values to one form, if they have one in common. -/
def operands? (rounding : Bool) : Value → Value → Option Operands
  | .text a _, .text b _ => some (.texts a b)
  | .float a, b => (asFloat? rounding b).map (.floats a)
  | a, .float b => (asFloat? rounding a).map (.floats · b)
  | a, b =>
    match a, b with
    | .int m, .int n => some (.ints m n)
    | _, _ =>
      match asInt? a, asInt? b with
      | some m, some n => some (.ints m n)
      | _, _ => Option.none

/-- Values that are no containers are equal. -/
def sameAtoms : Value → Value → Bool
  | .undefined, .undefined => true
  | .none, .none => true
  | .bytes a, .bytes b => a == b
  | .function a, .function b => a == b
  | .definition a, .definition b => a.id == b.id
  | .iteration p _ _, .iteration q _ _ => p.slot == q.slot
  | a, b =>
    match operands? false a b with
    | some (.ints m n) => m == n
    | some (.floats x y) => x == y
    | some (.texts s t) => s == t
    | Option.none => false

mutual

/-- Two values are equal. -/
def same : Value → Value → Bool
  | .list a, w => sameAsItems a w.items?
  | .lazy a _, w => sameAsItems a w.items?
  | .group key a, w =>
    match w.items? with
    | some [k, l] => same key k && sameAsItems a l.items?
    | _ => false
  | .map a, w => w.entries?.any fun es => a.length == es.length && allFound a es
  | .workspace _ a, w => w.entries?.any fun es => a.length == es.length && allFound a es
  | .undefined, w => sameAtoms .undefined w
  | .none, w => sameAtoms .none w
  | .bool b, w => sameAtoms (.bool b) w
  | .int n, w => sameAtoms (.int n) w
  | .float x, w => sameAtoms (.float x) w
  | .text s safe, w => sameAtoms (.text s safe) w
  | .bytes bs, w => sameAtoms (.bytes bs) w
  | .plain _, _ => false
  | .invalid _, _ => false
  | .function f, w => sameAtoms (.function f) w
  | .definition h, w => sameAtoms (.definition h) w
  | .iteration p x y, w => sameAtoms (.iteration p x y) w
  termination_by structural v => v

/-- Items equal those of a sequence, if it is one. -/
def sameAsItems : List Value → Option (List Value) → Bool
  | [], some [] => true
  | v :: rest, some (w :: more) => same v w && sameAsItems rest (some more)
  | _, _ => false
  termination_by structural vs => vs

/-- Every entry of the first list is in the second. -/
def allFound : List (Value × Value) → List (Value × Value) → Bool
  | [], _ => true
  | (k, v) :: rest, fs =>
    (fs.find? fun f => same k f.1).any (fun f => same v f.2) && allFound rest fs
  termination_by structural es => es

end

instance : BEq Value := ⟨same⟩

/-- Two keys of a map are the same: equal, and not a number beside a truth value. -/
def sameKey (a b : Value) : Bool := (a.kind == .bool) == (b.kind == .bool) && a == b

/-- A place in the order of floats: what is no number stands outside of all others. -/
def floatRank (x : Float) : Int :=
  let n := Int.ofNat x.toBits.toNat
  if n < Int.pow 2 63 then n else -(n - Int.pow 2 63) - 1

/-- The place of an integer beside a float, exactly. What is no number stands behind it. -/
def compareExactly (n : Int) (x : Float) : Ordering :=
  match Decimal.Binary.of x with
  | .nan => .lt
  | .infinite negative => if negative then .gt else .lt
  | .finite negative m e =>
    let (num, den) := Decimal.fraction m e
    compare (n * Int.ofNat den) (if negative then -Int.ofNat num else Int.ofNat num)

/-- The order of lists by their first difference. -/
def compareLists {α : Type} (cmp : α → α → Ordering) : List α → List α → Ordering
  | [], [] => .eq
  | [], _ :: _ => .lt
  | _ :: _, [] => .gt
  | a :: as, b :: bs => (cmp a b).then (compareLists cmp as bs)

/-- The order of texts, by characters. -/
def compareTexts (a b : String) : Ordering :=
  compareLists (fun c d : Char => compare c.toNat d.toNat) a.toList b.toList

/-- The order of values of one kind that are no containers. -/
def orderAtoms : Value → Value → Ordering
  | .bytes a, .bytes b => compareLists (fun c d : UInt8 => compare c.toNat d.toNat) a b
  | .plain a, .plain b => compareTexts a b
  | .function a, .function b => compareTexts a b
  | a, b =>
    match operands? false a b with
    | some (.ints m n) => compare m n
    | some (.floats x y) => compare (floatRank x) (floatRank y)
    | some (.texts s t) => compareTexts s t
    | Option.none =>
      match a, b with
      | .int n, .float x => compareExactly n x
      | .float x, .int n => (compareExactly n x).swap
      | _, _ => .eq

/-- The order of the kinds of two values. -/
def orderKinds (v w : Value) : Ordering := compare v.kind.rank w.kind.rank

mutual

/-- The order of values of one kind. -/
def orderWithin : Value → Value → Ordering
  | .list a, w => orderItems a (w.items?.getD [])
  | .lazy a _, w => orderItems a (w.items?.getD [])
  | .group key a, w =>
    match w.items?.getD [] with
    | [] => .gt
    | [k] => ((orderKinds key k).then (orderWithin key k)).then .gt
    | k :: l :: more =>
      let first := (orderKinds key k).then (orderWithin key k)
      let second := (orderKinds (.list []) l).then (orderItems a (l.items?.getD []))
      (first.then second).then (if more.isEmpty then .eq else .lt)
  | .map a, w => orderEntries a (w.entries?.getD [])
  | .workspace _ a, w => orderEntries a (w.entries?.getD [])
  | .undefined, w => orderAtoms .undefined w
  | .none, w => orderAtoms .none w
  | .bool b, w => orderAtoms (.bool b) w
  | .int n, w => orderAtoms (.int n) w
  | .float x, w => orderAtoms (.float x) w
  | .text s safe, w => orderAtoms (.text s safe) w
  | .bytes bs, w => orderAtoms (.bytes bs) w
  | .plain s, w => orderAtoms (.plain s) w
  | .invalid s, w => orderAtoms (.invalid s) w
  | .function f, w => orderAtoms (.function f) w
  | .definition h, w => orderAtoms (.definition h) w
  | .iteration p x y, w => orderAtoms (.iteration p x y) w
  termination_by structural v => v

/-- The order of lists of items by their first difference. -/
def orderItems : List Value → List Value → Ordering
  | [], [] => .eq
  | [], _ :: _ => .lt
  | _ :: _, [] => .gt
  | v :: rest, w :: more => ((orderKinds v w).then (orderWithin v w)).then (orderItems rest more)
  termination_by structural vs => vs

/-- The order of lists of entries by their first difference. -/
def orderEntries : List (Value × Value) → List (Value × Value) → Ordering
  | [], [] => .eq
  | [], _ :: _ => .lt
  | _ :: _, [] => .gt
  | (k, v) :: rest, (l, w) :: more =>
    (((orderKinds k l).then (orderWithin k l)).then
      ((orderKinds v w).then (orderWithin v w))).then (orderEntries rest more)
  termination_by structural es => es

end

/-- The order of values: by kind, then within the kind. -/
def order (v w : Value) : Ordering := (orderKinds v w).then (orderWithin v w)

/-- The first value stands before the second. -/
def before (v w : Value) : Bool := order v w == .lt

end Stencil.Value
