import Stencil.Template.Escaping
import Stencil.Template.Functions
import Stencil.Template.Tree

/-! What a running template keeps.

Names live in frames, of which the innermost one that knows a name answers. Behind a frame may
stand the context of the run or what a macro took from outside. Namespaces and loops change while
values refer to them, so the store keeps their state under a number, and `Store.current` brings a
value up to date when its name is looked up. -/
namespace Stencil.Template

/-- Where statements go on: behind the last of them, behind the loop, or at its next round. -/
inductive Flow where
  | normal
  | leave
  | next
  deriving DecidableEq, Repr

/-- A loop in progress. `line` is where its items are given to names. -/
structure Loop where
  target : Assignee
  body : List Statement
  isRecursive : Bool
  isNamed : Bool
  depth : Nat
  slot : Nat
  line : Nat

/-- A loop with what it shows of itself and the values of its last check for a change. -/
structure LoopView where
  loop : Loop
  now : Value
  checked : Option (List Value) := none

/-- A macro: its parameters, the values of the last of them, and what it took from outside. -/
structure Macro where
  parameters : List String
  defaults : List Expr
  body : List Statement
  closure : Option Nat
  usesCaller : Bool

/-- What stands behind a frame. -/
inductive Backing where
  | nothing
  | context
  | closure (id : Nat)
  deriving DecidableEq, Repr

/-- A frame. What is assigned in it also goes to its closure, if a macro made one. -/
structure Frame where
  locals : List (String × Value) := []
  backing : Backing := .nothing
  loop : Option Loop := none
  closure : Option Nat := none

/-- The state of a run. The first frame is the innermost one; `outerDepth` counts the frames
around the present macro, and `outermost` is how output is escaped around it. `commands` are those
that the machine was given. -/
structure Store where
  context : List (String × Value)
  blocks : List (String × List Statement)
  frames : List Frame
  outerDepth : Nat := 0
  closures : Array (List (String × Value)) := #[]
  macros : Array Macro := #[]
  workspaces : Array (List (Value × Value)) := #[]
  loops : Array LoopView := #[]
  out : String := ""
  escaping : Escaping := .off
  outermost : Escaping := .off
  block : Option String := none
  commands : List String := []

/-- Puts a value under a name, in the place of one that is there. -/
def putLocal (name : String) (v : Value) : List (String × Value) → List (String × Value)
  | [] => [(name, v)]
  | (n, w) :: rest => if n == name then (n, v) :: rest else (n, w) :: putLocal name v rest

mutual

/-- A value with the namespaces and loops in it as they are known by their numbers. -/
def renewed (workspaces : Nat → Option (List (Value × Value))) (loops : Nat → Option Value) :
    Value → Value
  | .list vs => .list (renewedItems workspaces loops vs)
  | .lazy vs sized => .lazy (renewedItems workspaces loops vs) sized
  | .map es => .map (renewedEntries workspaces loops es)
  | .group key vs => .group (renewed workspaces loops key) (renewedItems workspaces loops vs)
  | .workspace id es => .workspace id ((workspaces id).getD es)
  | .iteration p previous next => (loops p.slot).getD (.iteration p previous next)
  | v => v
  termination_by structural v => v

/-- Items with the namespaces and loops in them renewed. -/
def renewedItems (workspaces : Nat → Option (List (Value × Value))) (loops : Nat → Option Value) :
    List Value → List Value
  | [] => []
  | v :: rest => renewed workspaces loops v :: renewedItems workspaces loops rest
  termination_by structural vs => vs

/-- Entries with the namespaces and loops in them renewed. -/
def renewedEntries (workspaces : Nat → Option (List (Value × Value)))
    (loops : Nat → Option Value) : List (Value × Value) → List (Value × Value)
  | [] => []
  | (k, v) :: rest =>
    (renewed workspaces loops k, renewed workspaces loops v) ::
      renewedEntries workspaces loops rest
  termination_by structural es => es

end

namespace Store

/-- The deepest that frames nest. -/
def deepest : Nat := 500

/-- What the call of a macro counts beside its frames. -/
def macroCost : Nat := 4

/-- What a template counts that is put into another one. -/
def includeCost : Nat := 10

/-- How deep frames nest. -/
def depth (s : Store) : Nat := s.outerDepth + s.frames.length

/-- What a loop shows of itself. -/
def loopNow (s : Store) (slot : Nat) : Option Value := s.loops[slot]?.map (·.now)

/-- A value with the state of namespaces, down to some levels of those within each other. -/
def currentTo (s : Store) : (levels : Nat) → Value → Value
  | 0, v => v
  | levels + 1, v =>
    renewed (fun id => s.workspaces[id]?.map fun es =>
      es.map fun e => (e.1, s.currentTo levels e.2)) s.loopNow v

/-- A value with the present state of the namespaces and loops in it. -/
def current (s : Store) (v : Value) : Value :=
  if s.workspaces.isEmpty then
    match v with
    | .iteration p _ _ => (s.loopNow p.slot).getD v
    | v => v
  else s.currentTo (s.workspaces.size + 1) v

/-- The value of a name in a frame. -/
def inFrame? (s : Store) (f : Frame) (name : String) : Option Value :=
  match f.locals.lookup name with
  | some v => some v
  | none =>
    match (f.loop.filter fun l => l.isNamed && name == "loop").bind fun l => s.loopNow l.slot with
    | some v => some v
    | none =>
      match f.backing with
      | .nothing => none
      | .context => s.context.lookup name
      | .closure id => (s.closures[id]?.getD []).lookup name

/-- The value of a name: that of the innermost frame that knows it, or a function. -/
def lookup? (s : Store) (name : String) : Option Value :=
  match s.frames.findSome? fun f => s.inFrame? f name with
  | some v => some (s.current v)
  | none => if functionNames.contains name then some (.function name) else none

/-- The value of a name, undefined if it has none. -/
def lookup (s : Store) (name : String) : Value := (s.lookup? name).getD .undefined

/-- Gives a name a value in the innermost frame. -/
def assign (s : Store) (name : String) (v : Value) : Store :=
  match s.frames with
  | [] => s
  | f :: rest =>
    let closures := match f.closure with
      | some id => s.closures.modify id (putLocal name v)
      | none => s.closures
    { s with frames := { f with locals := putLocal name v f.locals } :: rest, closures }

/-- Takes names from outside for a macro, unless the innermost frame has taken them before. -/
def enclose (s : Store) (names : List String) : Store × Option Nat :=
  match s.frames with
  | [] => (s, none)
  | f :: rest =>
    if names.isEmpty then (s, f.closure)
    else
      let taken := fun known : List (String × Value) =>
        names.foldl (fun known n =>
          if (known.lookup n).isSome then known else known ++ [(n, s.lookup n)]) known
      match f.closure with
      | some id => ({ s with closures := s.closures.modify id taken }, some id)
      | none =>
        let id := s.closures.size
        ({ s with
            closures := s.closures.push (taken [])
            frames := { f with closure := some id } :: rest }, some id)

/-- Changes the innermost frame. -/
def inInnermost (s : Store) (change : Frame → Frame) : Store :=
  { s with frames := s.frames.modifyHead change }

/-- The names that were given a value in the innermost frame, as a map in their order. -/
def exported (s : Store) : Value :=
  match s.frames with
  | [] => .map []
  | f :: _ => .map (f.locals.foldl (fun es e => putNamed e.1 e.2 es) [])

/-- The innermost loop. -/
def loop? (s : Store) : Option Loop := s.frames.findSome? (·.loop)

/-- The depth of a loop that starts now. -/
def nextLoopDepth (s : Store) : Nat :=
  match s.loop? with
  | some l => if l.isRecursive then l.depth + 1 else 0
  | none => 0

/-- Adds text to the output. -/
def write (s : Store) (text : String) : Store := { s with out := s.out ++ text }

/-- The output as a value. It is safe if output is escaped. -/
def captured (s : Store) : Value := .text s.out (s.escaping != .off)

end Store
end Stencil.Template
