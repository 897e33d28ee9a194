import Stencil.Template.Document
import Stencil.Template.Filter.Table
import Stencil.Template.Free
import Stencil.Template.Store

/-! Running a template.

Expressions and statements are evaluated by recursion on their form. A call of a macro, a block or
a loop goes on with statements that are no part of the present one; these run in `Inner`, which is
one level further down. Frames nest less deeply than there are levels, so the frames end a
recursion before the levels do. -/
namespace Stencil.Template

/-- Computes with a store and may fail. -/
abbrev Eval := StateT Store (Except Fault)

/-- How statements run one level further down, and the template that they are a part of. -/
structure Inner where
  run : List Statement → Eval Flow
  document : Document

namespace Eval

/-- Fails at a line. -/
def fail {α : Type} (line : Nat) (c : Cause) : Eval α := throw ⟨c, some line⟩

/-- Takes a result, or fails at a line. -/
def lift {α : Type} (line : Nat) : Except Problem α → Eval α
  | .ok x => return x
  | .error p => fail line (.problem p)

/-- Goes on in a frame of its own. -/
def withFrame {α : Type} (line : Nat) (f : Frame) (act : Eval α) : Eval α := do
  if Store.deepest < (← get).depth then fail line .tooDeep
  modify fun s => { s with frames := f :: s.frames }
  let x ← act
  modify fun s => { s with frames := s.frames.tail }
  return x

/-- Collects output as a value beside the outcome. -/
def capture {α : Type} (act : Eval α) : Eval (α × Value) := do
  let before := (← get).out
  modify fun s => { s with out := "" }
  let x ← act
  let v := (← get).captured
  modify fun s => { s with out := before }
  return (x, v)

/-- Runs the rounds of a loop from an index on, and says whether it ended in the first one. -/
def rounds (slot depth : Nat) (length : Option Nat) (round : Value → Eval Flow) :
    (index : Nat) → (previous : Value) → List Value → Eval Bool
  | index, _, [] => return index == 0
  | index, previous, v :: rest => do
    let now := Value.iteration ⟨index, length, depth, slot⟩ previous (rest.headD .undefined)
    modify fun s => { s with loops := s.loops.modify slot fun view => { view with now } }
    match ← round v with
    | .leave => return index == 0
    | .normal | .next => rounds slot depth length round (index + 1) v rest

/-- Runs a loop over items, and says whether it ended in the first round. `loop` gets its depth
and its number here. -/
def iterate (line : Nat) (loop : Loop) (items : List Value) (length : Option Nat)
    (round : Value → Eval Flow) : Eval Bool := do
  let s ← get
  let l := { loop with depth := s.nextLoopDepth, slot := s.loops.size }
  modify fun s => { s with loops := s.loops.push ⟨l, .undefined, none⟩ }
  withFrame line { loop := some l } (rounds l.slot l.depth length round 0 .undefined items)

/-- The number of rounds of a loop over a value, where it is known. -/
def roundCount (v : Value) : Option Nat :=
  match v with
  | .text .. => none
  | v => v.length?

/-- Goes on in a block. -/
def inBlock {α : Type} (line : Nat) (name : String) (act : Eval α) : Eval α := do
  let before ← get
  modify fun s => { s with block := some name, outermost := s.escaping }
  let x ← withFrame line {} act
  modify fun s => { s with block := before.block, outermost := before.outermost }
  return x

/-- The arguments of a macro as statements that give them to its parameters, the last one first.
A parameter without an argument gets its own value, if it has one. -/
def parameterStatements (m : Macro) (values : List Value) : List Statement :=
  let missing := m.parameters.length - m.defaults.length
  let defaults := List.replicate missing none ++ m.defaults.map some
  let one := fun (p : (String × Value) × Option Expr) =>
    match p.2 with
    | some e => if p.1.2.isUndefined then .assign (.name p.1.1) e
                else .assign (.name p.1.1) (.const p.1.2 0)
    | none => .assign (.name p.1.1) (.const p.1.2 0)
  (((m.parameters.zip values).zip defaults).map one).reverse

/-- The values of a macro's parameters, and of `caller`. -/
def macroArguments (m : Macro) (a : Args) : Except Problem (List Value × Option Value) := do
  if m.parameters.length < a.positional.length then throw .tooManyArguments
  let named := a.named.getD []
  let values ← m.parameters.zipIdx.mapM fun (name, i) =>
    match a.positional[i]?, named.lookup name with
    | some _, some _ => throw (.duplicateNamed name)
    | some v, none => return v
    | none, some v => return v
    | none, none => return .undefined
  let known := if m.usesCaller then "caller" :: m.parameters else m.parameters
  match named.find? fun e => !known.contains e.1 with
  | some (name, _) => throw (.unknownParameter name)
  | none =>
    return (values,
      if m.usesCaller then some ((named.lookup "caller").getD .undefined) else none)

section Calls
variable (w : World) (inner : Inner)

/-- Calls a macro. Its output is its value. -/
def callMacro (id : Nat) (a : Args) (line : Nat) : Eval Value := do
  let before ← get
  match before.macros[id]? with
  | none => fail line .macroGone
  | some m =>
    let (values, caller?) ← lift line (macroArguments m a)
    let locals := match caller? with
      | some v => [("caller", v)]
      | none => []
    let backing := match m.closure with
      | some id => Backing.closure id
      | none => Backing.nothing
    let frames : List Frame := [{ locals, backing }, { backing := .context }]
    let outerDepth := before.depth + Store.macroCost
    if Store.deepest < outerDepth + frames.length then fail line .tooDeep
    modify fun s => { s with
      frames, outerDepth, out := "", block := none, blocks := [], outermost := s.escaping }
    let _ ← inner.run (parameterStatements m values ++ m.body)
    let after ← get
    set { after with
      frames := before.frames, outerDepth := before.outerDepth, out := before.out,
      block := before.block, blocks := before.blocks, outermost := before.outermost }
    return .text after.out (before.escaping != .off)

/-- Makes a namespace. -/
def makeNamespace (a : Args) (line : Nat) : Eval Value := do
  let entries ← lift line (a.read Params.value? >>= namespaceEntries)
  let id := (← get).workspaces.size
  modify fun s => { s with workspaces := s.workspaces.push entries }
  return .workspace id entries

/-- Calls a function of the program. -/
def callFunction (name : String) (a : Args) (line : Nat) : Eval Value := do
  let (v, commands) ← lift line ((w.call name a).run (← get).commands)
  modify fun s => { s with commands }
  return v

/-- Calls a value. -/
def callValue (v : Value) (a : Args) (line : Nat) : Eval Value :=
  match v with
  | .function name => if name == "namespace" then makeNamespace a line else callFunction w name a line
  | .definition h => callMacro inner h.id a line
  | .iteration .. => fail line .loopNotCallable
  | .list _ | .lazy .. | .map _ | .group .. | .plain _ | .workspace .. =>
    fail line .objectNotCallable
  | v => fail line (.notCallable v.kind)

/-- Runs a loop over other items. -/
def recurse (slot : Nat) (a : Args) (line : Nat) : Eval Value := do
  match (← get).loops[slot]?.map (·.loop), a.values with
  | none, _ => fail line .loopNotCallable
  | some l, [v] =>
    if !l.isRecursive then fail line .notRecursive
    match v.walk? with
    | none => fail l.line .notRepeatable
    | some items =>
      let (_, shown) ← capture (iterate l.line l items (roundCount v) fun item =>
        inner.run (.assign l.target (.const item l.line) :: l.body))
      return shown
  | some _, vs => fail line (.loopArguments vs.length)

/-- Calls what a name stands for. -/
def callNamed (name : String) (a : Args) (line : Nat) : Eval Value := do
  if name == "super" then
    if !a.all.isEmpty then fail line .superArguments
    else if (← get).block.isNone then fail line .superOutside
    else fail line .noParent
  else
    match (← get).lookup? name with
    | none => fail line (.unknownFunction name)
    | some (.iteration p _ _) => recurse inner p.slot a line
    | some v => callValue w inner v a line

/-- Runs a block of the template again. Its output is its value. -/
def callBlock (name : String) (line : Nat) : Eval Value := do
  match (← get).blocks.lookup name with
  | none => fail line (.unknownBlock name)
  | some body =>
    let (_, shown) ← capture (inBlock line name (inner.run body))
    return shown

/-- Calls a method of a loop. -/
def callLoop (v : Value) (p : LoopPosition) (name : String) (a : Args) (line : Nat) :
    Eval Value := do
  let values := a.values
  if name == "changed" then
    let before := ((← get).loops[p.slot]?).bind (·.checked)
    let isSame := before.any fun old => old == values
    modify fun s => { s with
      loops := s.loops.modify p.slot fun view => { view with checked := some values } }
    return .bool (!isSame)
  else if name == "cycle" then return (values[p.index % values.length]?).getD .undefined
  else fail line (.unknownMethod v.kind name)

/-- Calls a method of a value. -/
def callMethod (v : Value) (name : String) (a : Args) (line : Nat) : Eval Value :=
  match v with
  | .iteration p _ _ => callLoop v p name a line
  | v =>
    match v.field? name with
    | some f => callValue w inner f a line
    | none => fail line (.unknownMethod v.kind name)

/-- The value of an argument, and how it is handed over. -/
inductive Handed where
  | positional (v : Value)
  | named (name : String) (v : Value)
  | spread (v : Value)
  | spreadNamed (v : Value)

/-- Adds a named argument behind others. A later one of its name counts. -/
def withNamed (name : String) (v : Value) (a : Args) : Args :=
  { a with named := some (putLocal name v (a.named.getD [])) }

/-- Adds a named argument, or the entries of a map as named arguments. -/
def handNamed (line : Nat) (a : Args) : Handed → Eval Args
  | .named name v => return withNamed name v a
  | .spreadNamed v =>
    match v.entries? with
    | some es => return es.foldl (fun a e => match e.1.asText? with
        | some name => withNamed name e.2 a
        | none => a) { a with named := some (a.named.getD []) }
    | none => fail line (.spreadNotMap v.kind)
  | .positional _ | .spread _ => return a

/-- Adds a positional argument, or the items of a value as positional arguments. -/
def handPositional (line : Nat) (a : Args) : Handed → Eval Args
  | .positional v => return { a with positional := a.positional ++ [v] }
  | .spread v =>
    match v.walk? with
    | some vs => return { a with positional := a.positional ++ vs }
    | none => fail line (.spreadNotIterable v.kind)
  | .named .. | .spreadNamed _ => return a

/-- Puts arguments together. Those without names are looked at first, and those with names are taken
first. -/
def together (line : Nat) (unnamed named : Eval (List Handed)) : Eval Args := do
  let front ← unnamed
  let back ← named
  let a ← back.foldlM (handNamed line) {}
  front.foldlM (handPositional line) a

/-- Adds the value of `caller` to arguments, if it is given. -/
def addCaller (caller : Option (Eval Value)) (a : Args) : Eval Args := do
  match caller with
  | none => return a
  | some make =>
    let v ← make
    return { a with named := some (putLocal "caller" v (a.named.getD [])) }

/-- Compares two values. -/
def judge (c : Comparison) (v u : Value) : Except Problem Bool :=
  match c with
  | .equal => .ok (v == u)
  | .unequal => .ok (!(v == u))
  | .less => .ok (v.order u == .lt)
  | .lessEqual => .ok (v.order u != .gt)
  | .greater => .ok (v.order u == .gt)
  | .greaterEqual => .ok (v.order u != .lt)
  | .within => u.contains v
  | .outside => (u.contains v).map (!·)

mutual

/-- The value of an expression. A call gets one more argument, `caller`, if that is given. -/
def expr : Expr → Option (Eval Value) → Eval Value
  | .const v _, _ => return v
  | .var name _, _ => return (← get).lookup name
  | .arithmetic op a b, _ => do
    let x ← expr a none
    let y ← expr b none
    lift b.lastLine (Value.calculate op x y)
  | .concat a b, _ => do
    let x ← expr a none
    let y ← expr b none
    return Value.concat x y
  | .compare first rest, _ => do
    let x ← expr first none
    return .bool (← compared x rest)
  | .both a b, _ => do
    let x ← expr a none
    if x.isTrue then expr b none else return .bool false
  | .either a b, _ => do
    let x ← expr a none
    if x.isTrue then return x else expr b none
  | .negation a, _ => do
    let x ← expr a none
    return .bool (!x.isTrue)
  | .minus a line, _ => do
    let x ← expr a none
    lift line x.neg
  | .choice condition yes no, _ => do
    let x ← expr condition none
    if x.isTrue then expr yes none else optional no
  | .filter name subject args _, _ => do
    let v ← expr subject none
    let line := Expr.lastArgument subject.lastLine args
    let a ← together line (handed true args) (handed false args)
    match Filter.apply (← get).escaping name (a.behind v) with
    | some result => lift line result
    | none => fail line (.unknownFilter name)
  | .test name subject args _, _ => do
    let v ← expr subject none
    let line := Expr.lastArgument subject.lastLine args
    let a ← together line (handed true args) (handed false args)
    match Filter.test? name (a.behind v) with
    | some result =>
      let holds ← lift line result
      let isNew := name == "sameas" && v.isObject &&
        (subject.makesObject || args.any fun b => b.expr.makesObject)
      return .bool (holds && !isNew)
    | none => fail line (.unknownTest name)
  | .field base name _, _ => do
    let v ← expr base none
    return v.field name
  | .item base key, _ => do
    let v ← expr base none
    let k ← expr key none
    return v.item k
  | .slice base start stop step, _ => do
    let v ← expr base none
    let first ← expr start none
    let last ← expr stop none
    let stride ← expr step none
    lift step.lastLine (v.slice first last stride)
  | .call (.var name _) args line, caller => do
    let line := Expr.lastArgument line args
    let a ← together line (handed true args) (handed false args)
    callNamed w inner name (← addCaller caller a) line
  | .call (.field (.var "self" _) name _) _ line, _ => callBlock inner name line
  | .call (.field base name _) args line, caller => do
    let v ← expr base none
    let line := Expr.lastArgument line args
    let a ← together line (handed true args) (handed false args)
    callMethod w inner v name (← addCaller caller a) line
  | .call callee args line, caller => do
    let v ← expr callee none
    let line := Expr.lastArgument line args
    let a ← together line (handed true args) (handed false args)
    callValue w inner v (← addCaller caller a) line
  | .list items _, _ => do return .list (← all items)
  | .map entries _, _ => do return Value.mapOf (← pairs entries)
  termination_by structural e => e

/-- A value is as the rest of a chain of comparisons says. -/
def compared (v : Value) : List (Comparison × Expr) → Eval Bool
  | [] => return true
  | (c, e) :: rest => do
    let u ← expr e none
    let holds ← lift e.lastLine (judge c v u)
    if holds then compared u rest else return false
  termination_by structural rest => rest

/-- The value of an expression that may be missing. -/
def optional : Option Expr → Eval Value
  | none => return .undefined
  | some e => expr e none
  termination_by structural e => e

/-- The values of expressions. -/
def all : List Expr → Eval (List Value)
  | [] => return []
  | e :: rest => do
    let v ← expr e none
    return v :: (← all rest)
  termination_by structural es => es

/-- The values of entries. -/
def pairs : List (Expr × Expr) → Eval (List (Value × Value))
  | [] => return []
  | (k, e) :: rest => do
    let key ← expr k none
    let v ← expr e none
    return (key, v) :: (← pairs rest)
  termination_by structural es => es

/-- The values of arguments: of those without names, or of those with names. -/
def handed (unnamed : Bool) : List Arg → Eval (List Handed)
  | [] => return []
  | a :: rest => do
    let first ← handedOne unnamed a
    return first ++ (← handed unnamed rest)
  termination_by structural as => as

/-- The value of an argument if it is of that sort. -/
def handedOne (unnamed : Bool) : Arg → Eval (List Handed)
  | .positional e => do if unnamed then return [.positional (← expr e none)] else return []
  | .spread e => do if unnamed then return [.spread (← expr e none)] else return []
  | .named name e => do if unnamed then return [] else return [.named name (← expr e none)]
  | .spreadNamed e => do if unnamed then return [] else return [.spreadNamed (← expr e none)]
  termination_by structural a => a

end

/-- The arguments of a call. -/
def arguments (line : Nat) (args : List Arg) : Eval Args :=
  together line (handed w inner true args) (handed w inner false args)

end Calls
end Eval
end Stencil.Template
