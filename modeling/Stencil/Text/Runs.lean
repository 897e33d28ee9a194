/-! Sets of characters as runs.

A property of characters holds on runs of code points. `Bounds` lists where the property
changes, so a character has it exactly when an odd number of bounds lie at or below it;
`Labels` gives each run a name. Both are found by halving. -/
namespace Stencil.Text

/-- The code points at which a property changes, in rising order; it does not hold at zero
unless zero is the first bound. -/
abbrev Bounds := Array Nat

/-- The number of entries at most `x` among those from `low` on and before `high`, for rising
entries; `fuel` bounds the halvings. -/
def countUpTo (a : Bounds) (x : Nat) : (fuel low high : Nat) → Nat
  | 0, low, _ => low
  | fuel + 1, low, high =>
    if low < high then
      let middle := (low + high) / 2
      if a.getD middle 0 ≤ x then countUpTo a x fuel (middle + 1) high
      else countUpTo a x fuel low middle
    else low

/-- The property holds of the code point `x`. -/
def Bounds.holds (a : Bounds) (x : Nat) : Bool := countUpTo a x 32 0 a.size % 2 == 1

/-- The naturals written in a text, split at what is no digit. -/
def naturals (s : String) : List Nat :=
  let (done, current) := s.toList.foldl
    (fun (acc : List Nat × Option Nat) c =>
      if c.isDigit then (acc.1, some (acc.2.getD 0 * 10 + (c.toNat - '0'.toNat)))
      else (acc.2.toList ++ acc.1, none))
    ([], none)
  (current.toList ++ done).reverse

/-- Bounds from the lengths of the runs, which lack and have the property in turn. -/
def Bounds.ofLengths (lines : List String) : Bounds :=
  let step (acc : Array Nat × Nat) (n : Nat) := (acc.1.push (acc.2 + n), acc.2 + n)
  ((lines.flatMap naturals).foldl step (#[], 0)).1

/-- Runs with names: where each starts, and what it is called. -/
structure Labels where
  starts : Bounds
  names : Array String

/-- The name of the run that `x` lies in. -/
def Labels.of (l : Labels) (x : Nat) : String :=
  l.names.getD (countUpTo l.starts x 32 0 l.starts.size - 1) ""

/-- One name with its length while names are read: letters, then digits. -/
structure Labels.Reading where
  start : Nat := 0
  name : List Char := []
  count : Option Nat := none
  labels : Labels := ⟨#[], #[]⟩

/-- Ends the name that is being read. A name without a number has length one. -/
def Labels.Reading.finish (r : Labels.Reading) : Labels.Reading :=
  if r.name.isEmpty then r
  else
    { start := r.start + r.count.getD 1
      labels := ⟨r.labels.starts.push r.start, r.labels.names.push (String.ofList r.name.reverse)⟩ }

/-- Reads one more character. Every name starts with a capital letter. -/
def Labels.Reading.read (r : Labels.Reading) (c : Char) : Labels.Reading :=
  if c.isDigit then { r with count := some (r.count.getD 0 * 10 + (c.toNat - '0'.toNat)) }
  else if c.isUpper then
    let r := r.finish
    { r with name := [c] }
  else { r with name := c :: r.name }

/-- Runs from their names and lengths, written one after the other. -/
def Labels.ofLengths (lines : List String) : Labels :=
  let read (r : Labels.Reading) (s : String) := s.toList.foldl Labels.Reading.read r
  (lines.foldl read {}).finish.labels

end Stencil.Text
