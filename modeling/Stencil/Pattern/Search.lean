import Stencil.Pattern.Reader

/-! Searching with patterns.

The search works through a list of tasks, each an instruction and a place in the text. A pair of
these that has been visited without success cannot lead to a match, whatever led to it, so no
pair is visited twice: the work is bounded by the size of the program times the length of the
text, which is the fuel. -/
namespace Stencil.Pattern

/-- Where each group matched; two slots for each group. -/
abbrev Slots := Array (Option Nat)

/-- The characters of a text, with a word on one side of a place or on the other. -/
structure Sides where
  before : Option Char
  after : Option Char

/-- The characters around a place. -/
def sidesAt (text : Array Char) (pos : Nat) : Sides :=
  ⟨if pos == 0 then none else text[pos - 1]?, text[pos]?⟩

/-- The condition holds at a place. -/
def Look.holds (l : Look) (text : Array Char) (pos : Nat) : Bool :=
  let s := sidesAt text pos
  let isWord := fun (ascii : Bool) (c : Option Char) =>
    c.any (if ascii then CharSet.isAsciiWordChar else CharSet.isWordChar)
  match l with
  | .textStart => pos == 0
  | .textEnd => pos == text.size
  | .lineStart => s.before.all (· == '\n')
  | .lineEnd => s.after.all (· == '\n')
  | .lineStartCrlf =>
    s.before.all fun c => c == '\n' || (c == '\r' && s.after != some '\n')
  | .lineEndCrlf =>
    s.after.all fun c => c == '\r' || (c == '\n' && s.before != some '\r')
  | .boundary ascii => isWord ascii s.before != isWord ascii s.after
  | .notBoundary ascii => isWord ascii s.before == isWord ascii s.after
  | .wordStart ascii => !isWord ascii s.before && isWord ascii s.after
  | .wordEnd ascii => isWord ascii s.before && !isWord ascii s.after
  | .wordStartHalf ascii => !isWord ascii s.before
  | .wordEndHalf ascii => !isWord ascii s.after

/-- A task: an instruction, a place, and where the groups have matched so far. -/
structure Task where
  address : Nat
  pos : Nat
  slots : Slots

/-- Works through tasks, the first one first; gives the pairs visited, and the match. -/
def explore (program : Array Instruction) (text : Array Char) :
    (fuel : Nat) → (visited : Array Bool) → List Task → Array Bool × Option Slots
  | 0, visited, _ => (visited, none)
  | _ + 1, visited, [] => (visited, none)
  | fuel + 1, visited, t :: rest =>
    let pair := t.address * (text.size + 1) + t.pos
    if visited.getD pair true then explore program text fuel visited rest
    else
      let visited := visited.set! pair true
      match program[t.address]? with
      | none => explore program text fuel visited rest
      | some (.chars set) =>
        match text[t.pos]? with
        | some c =>
          if set.has c then
            explore program text fuel visited (⟨t.address + 1, t.pos + 1, t.slots⟩ :: rest)
          else explore program text fuel visited rest
        | none => explore program text fuel visited rest
      | some (.look l) =>
        if l.holds text t.pos then
          explore program text fuel visited (⟨t.address + 1, t.pos, t.slots⟩ :: rest)
        else explore program text fuel visited rest
      | some (.save slot) =>
        explore program text fuel visited
          (⟨t.address + 1, t.pos, t.slots.setIfInBounds slot (some t.pos)⟩ :: rest)
      | some (.split a b) =>
        explore program text fuel visited (⟨a, t.pos, t.slots⟩ :: ⟨b, t.pos, t.slots⟩ :: rest)
      | some (.jump a) => explore program text fuel visited (⟨a, t.pos, t.slots⟩ :: rest)
      | some .done => (visited, some t.slots)

/-- Searches from a place on, at each of `count` places in turn. -/
def searchFrom (program : Array Instruction) (slots : Nat) (text : Array Char) :
    (count : Nat) → (visited : Array Bool) → (pos : Nat) → Option Slots
  | 0, _, _ => none
  | count + 1, visited, pos =>
    let fuel := 2 * program.size * (text.size + 1) + 2
    match explore program text fuel visited [⟨0, pos, Array.replicate slots none⟩] with
    | (_, some found) => some found
    | (visited, none) => searchFrom program slots text count visited (pos + 1)

/-- A pattern that is ready to search. -/
structure Regex where
  program : Array Instruction
  slots : Nat
  names : List (String × Nat)

/-- The first match at or behind a place. -/
def Regex.find? (r : Regex) (text : Array Char) (pos : Nat) : Option Slots :=
  if pos ≤ text.size then
    searchFrom r.program r.slots text (text.size + 1 - pos)
      (Array.replicate (r.program.size * (text.size + 1)) false) pos
  else none

/-- Where a match starts and ends. -/
def boundsOf (slots : Slots) : Nat × Nat :=
  ((slots.getD 0 none).getD 0, (slots.getD 1 none).getD 0)

/-- All matches, from left to right. An empty match right behind the one before is passed over. -/
def Regex.matchesFrom (r : Regex) (text : Array Char) :
    (fuel : Nat) → (last : Option Nat) → (pos : Nat) → List Slots
  | 0, _, _ => []
  | fuel + 1, last, pos =>
    match r.find? text pos with
    | none => []
    | some slots =>
      let (start, stop) := boundsOf slots
      if start == stop && last == some stop then r.matchesFrom text fuel none (pos + 1)
      else slots :: r.matchesFrom text fuel (some stop) stop

/-- The largest machine that is built for a pattern, in units of its size. -/
def greatestWeight : Nat := 262144

/-- The message for a pattern that needs too large a machine. -/
def tooLarge : String := "Compiled regex exceeds size limit of 10485760 bytes."

/-- Makes a pattern ready to search, or explains why it cannot be. -/
def Regex.ofPattern (pattern : String) : Except String Regex :=
  match parse pattern with
  | .error flaw => .error (flaw.explain pattern)
  | .ok parsed =>
    if parsed.node.weight > greatestWeight then .error tooLarge
    else .ok ⟨parsed.node.program, 2 * (parsed.groups + 1), parsed.names⟩

/-- The pattern matches somewhere in a text. -/
def Regex.isMatch (r : Regex) (text : String) : Bool := (r.find? text.toList.toArray 0).isSome

/-- The characters that a group matched. -/
def groupText (text : Array Char) (slots : Slots) (index : Nat) : List Char :=
  match slots.getD (2 * index) none, slots.getD (2 * index + 1) none with
  | some start, some stop => (text.extract start stop).toList
  | _, _ => []

/-- A character of a group's name in a replacement. -/
def isGroupNameChar (c : Char) : Bool := c.isAlphanum || c == '_'

/-- The group that a name in a replacement means, by number or by name. -/
def Regex.groupNamed? (r : Regex) (name : List Char) : Option Nat :=
  let digits := match name with
    | '+' :: rest => rest
    | _ => name
  if !digits.isEmpty && digits.all Char.isDigit then
    some (digits.foldl (fun n c => n * 10 + (c.toNat - '0'.toNat)) 0)
  else (r.names.find? (·.1 == String.ofList name)).map Prod.snd

/-- A replacement in parts: text as it is, and names of groups. -/
inductive ReplacementPart where
  | literal (c : Char)
  | group (name : List Char)

/-- Takes a replacement apart; `fuel` is its length. A dollar before a name, or before a name in
braces, stands for a group, and two dollars for one. -/
def replacementParts : (fuel : Nat) → List Char → List ReplacementPart
  | 0, _ => []
  | _ + 1, [] => []
  | fuel + 1, '$' :: '$' :: rest => .literal '$' :: replacementParts fuel rest
  | fuel + 1, '$' :: '\x7b' :: rest =>
    let name := rest.takeWhile (· != '\x7d')
    match rest.dropWhile (· != '\x7d') with
    | _ :: more => .group name :: replacementParts fuel more
    | [] => .literal '$' :: replacementParts fuel ('\x7b' :: rest)
  | fuel + 1, '$' :: rest =>
    let name := rest.takeWhile isGroupNameChar
    if name.isEmpty then .literal '$' :: replacementParts fuel rest
    else .group name :: replacementParts fuel (rest.dropWhile isGroupNameChar)
  | fuel + 1, c :: rest => .literal c :: replacementParts fuel rest

/-- What a replacement stands for at a match. -/
def Regex.expand (r : Regex) (text : Array Char) (slots : Slots) (parts : List ReplacementPart) :
    List Char :=
  parts.flatMap fun part =>
    match part with
    | .literal c => [c]
    | .group name => ((r.groupNamed? name).map (groupText text slots)).getD []

/-- A text with every match replaced. -/
def Regex.replaceAll (r : Regex) (text replacement : String) : String :=
  let source := text.toList.toArray
  let parts := replacementParts (replacement.length + 1) replacement.toList
  let (out, last) := (r.matchesFrom source (2 * source.size + 3) none 0).foldl
    (fun (acc : List (List Char) × Nat) slots =>
      let (start, stop) := boundsOf slots
      (r.expand source slots parts :: (source.extract acc.2 start).toList :: acc.1, stop))
    ([], 0)
  String.ofList (((source.extract last source.size).toList :: out).reverse.flatten)

end Stencil.Pattern
