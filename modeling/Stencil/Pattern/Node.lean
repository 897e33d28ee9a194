import Stencil.Pattern.CharSet

/-! Patterns as trees, and their meaning as programs.

A program is a list of instructions. The first way through a `split` is preferred, so of several
matches the one is found that a search which tries the alternatives in order meets first. A
repetition is written out: its required copies, then its optional ones. -/
namespace Stencil.Pattern

/-- Conditions on a place in a text. -/
inductive Look where
  | textStart
  | textEnd
  | lineStart
  | lineEnd
  | lineStartCrlf
  | lineEndCrlf
  | boundary (ascii : Bool)
  | notBoundary (ascii : Bool)
  | wordStart (ascii : Bool)
  | wordEnd (ascii : Bool)
  | wordStartHalf (ascii : Bool)
  | wordEndHalf (ascii : Bool)
  deriving DecidableEq, Repr

/-- A pattern. -/
inductive Node where
  | empty
  | chars (set : CharSet)
  | look (condition : Look)
  | capture (index : Nat) (inner : Node)
  | seq (first second : Node)
  | alt (first second : Node)
  | repetition (least : Nat) (most : Option Nat) (greedy : Bool) (inner : Node)

namespace Node

/-- The pattern matches no empty text. -/
def needsText : Node → Bool
  | .empty | .look _ => false
  | .chars _ => true
  | .capture _ n => n.needsText
  | .seq a b => a.needsText || b.needsText
  | .alt a b => a.needsText && b.needsText
  | .repetition least _ _ n => least > 0 && n.needsText

/-- An estimate of the size of the machine for the pattern. -/
def weight : Node → Nat
  | .empty | .look _ => 1
  | .chars set => set.weight
  | .capture _ n => n.weight + 2
  | .seq a b => a.weight + b.weight
  | .alt a b => a.weight + b.weight + 1
  | .repetition least most _ n => max 1 (most.getD (max 1 least)) * (n.weight + 1)

end Node

/-- Instructions. An address counts from the start of the program. -/
inductive Instruction where
  | chars (set : CharSet)
  | look (condition : Look)
  | save (slot : Nat)
  | split (first second : Nat)
  | jump (target : Nat)
  | done

/-- A choice between two ways, the first of which is preferred if `greedy` is set. -/
def choice (greedy : Bool) (first second : Nat) : Instruction :=
  if greedy then .split first second else .split second first

/-- `count` copies of code, one behind the other from `start` on. -/
def copies (code : Nat → List Instruction) : (count start : Nat) → List Instruction
  | 0, _ => []
  | count + 1, start =>
    let one := code start
    one ++ copies code count (start + one.length)

/-- Up to `count` copies of code from `start` on; after each of them it may go to `stop`. -/
def optional (code : Nat → List Instruction) (greedy : Bool) (stop : Nat) :
    (count start : Nat) → List Instruction
  | 0, _ => []
  | count + 1, start =>
    let one := code (start + 1)
    choice greedy (start + 1) stop :: one ++
      optional code greedy stop count (start + 1 + one.length)

/-- The code of a pattern that starts at an address and goes on behind itself. -/
def Node.code : Node → (start : Nat) → List Instruction
  | .empty, _ => []
  | .chars set, _ => [.chars set]
  | .look condition, _ => [.look condition]
  | .capture index n, start =>
    .save (2 * index) :: n.code (start + 1) ++ [.save (2 * index + 1)]
  | .seq a b, start =>
    let first := a.code start
    first ++ b.code (start + first.length)
  | .alt a b, start =>
    let first := a.code (start + 1)
    let second := b.code (start + 2 + first.length)
    .split (start + 1) (start + 2 + first.length) :: first ++
      .jump (start + 2 + first.length + second.length) :: second
  | .repetition least (some most) greedy n, start =>
    let required := copies n.code least start
    let next := start + required.length
    let size := (n.code next).length
    let stop := next + (most - least) * (size + 1)
    required ++ optional n.code greedy stop (most - least) next
  | .repetition 0 none greedy n, start =>
    let body := n.code (start + 1)
    let behind := start + 2 + body.length
    if n.needsText then choice greedy (start + 1) behind :: body ++ [.jump start]
    else choice greedy (start + 1) behind :: body ++ [choice greedy (start + 1) behind]
  | .repetition (least + 1) none greedy n, start =>
    let required := copies n.code least start
    let last := start + required.length
    let body := n.code last
    required ++ body ++ [choice greedy last (last + body.length + 1)]

/-- The code of a whole pattern, which saves where it matches. -/
def Node.program (n : Node) : Array Instruction :=
  (Instruction.save 0 :: n.code 1 ++ [Instruction.save 1, Instruction.done]).toArray

end Stencil.Pattern
