import Stencil.Template.Evaluation

/-! Running the statements of a template.

Output, names and namespaces change statement by statement. A statement that leaves a loop ends all
that are around it up to the loop, and what they were collecting is dropped.

The only template that is known is the one that runs (`templateName`). It can be put into itself and
can take names from itself, until frames nest too deeply; it cannot extend itself. Two things are
left out. A macro that extends the template is refused as the template itself is, although a macro
does not know any more that the template is in use. And a template that is taken as a whole shows
as a map of its names, not as its output. -/
namespace Stencil.Template
namespace Eval

/-- The items that a value has for several names. -/
def unpacked? (v : Value) : Option (List Value) :=
  match v.items? with
  | some vs => some vs
  | none => v.entries?.map (·.map Prod.fst)

/-- Writes a value. -/
def emit (line : Nat) (v : Value) : Eval Unit := do
  let text ← lift line ((← get).escaping.write v)
  modify (·.write text)

/-- Makes a macro. -/
def define (name : String) (parameters : List String) (defaults : List Expr)
    (body : List Statement) : Eval Value := do
  let free := Free.ofMacro parameters defaults body
  let usesCaller := free.contains "caller"
  let (s, closure) := (← get).enclose (free.filter (· != "caller"))
  set { s with macros := s.macros.push { parameters, defaults, body, closure, usesCaller } }
  return .definition ⟨name, parameters, usesCaller, s.macros.size⟩

/-- How output is escaped where `v` says so. -/
def escapingOf? (outermost : Escaping) (v : Value) : Option Escaping :=
  match v.asText? with
  | some "html" => some .html
  | some "json" => some .json
  | some "none" => some .off
  | some _ => none
  | none =>
    if !(v == .bool true) then some .off
    else if outermost == .off then some .html
    else some outermost

/-- The names that a value gives for templates to put in. -/
def choices (v : Value) : List Value :=
  match unpacked? v, v with
  | some vs, _ => vs
  | none, .plain _ => []
  | none, .function _ => []
  | none, _ => [v]

/-- A failure inside of a template that was put in is reported where that was done. -/
def including {α : Type} (line : Nat) (act : Eval α) : Eval α := fun s =>
  match act s with
  | .error f => .error (if f.aborts then f else ⟨.brokenInclude templateName, some line⟩)
  | done => done

/-- Puts the template into itself. It sees the names of the innermost frame, and what it assigns stays
there. -/
def includeItself (inner : Inner) (line : Nat) : Eval Unit := do
  let before ← get
  let outerDepth := before.outerDepth + Store.includeCost
  if Store.deepest < outerDepth + before.frames.length then fail line .tooDeep
  let inside := before.inInnermost fun f => { f with closure := none }
  set { inside with
    outerDepth, blocks := inner.document.blocks, escaping := .off, outermost := .off }
  let _ ← including line (inner.run inner.document.statements)
  let closure := before.frames.head?.bind (·.closure)
  let after := (← get).inInnermost fun f => { f with closure }
  set { after with
    outerDepth := before.outerDepth, blocks := before.blocks, escaping := before.escaping
    outermost := before.outermost }

/-- Puts in the first template that there is among those of some names. `tried` are the names of
those that there are not. -/
def includeFirst (inner : Inner) (line : Nat) (ignoreMissing : Bool) :
    (tried : List Value) → List Value → Eval Unit
  | tried, [] =>
    match ignoreMissing, tried with
    | true, _ | false, [] => return ()
    | false, [n] => fail line (.noInclude (n.asText?.getD ""))
    | false, _ => fail line (.noIncludes (Value.list tried).display)
  | tried, n :: rest =>
    match n.asText? with
    | none => fail line .nameNotText
    | some name =>
      if name == templateName then includeItself inner line
      else includeFirst inner line ignoreMissing (tried ++ [n]) rest

/-- Puts in a template by name. -/
def includeAny (inner : Inner) (line : Nat) (ignoreMissing : Bool) (v : Value) : Eval Unit :=
  includeFirst inner line ignoreMissing [] (choices v)

section Statements
variable (w : World) (inner : Inner)

mutual

/-- Gives a value to a name, an attribute or several names. -/
def assign : Assignee → Value → Eval Unit
  | .name s, v => modify (·.assign s v)
  | .field base name, v => do
    match ← expr w inner base none with
    | .workspace id _ =>
      modify fun s => { s with workspaces := s.workspaces.modify id (putNamed name v) }
    | b => fail base.lastLine (.notNamespace b.kind)
  | .list parts line, v => do
    match unpacked? v with
    | none => fail line .notUnpackable
    | some vs =>
      if vs.length != parts.length then fail line (.wrongLength parts.length vs.length)
      assignAll parts vs
  termination_by structural t => t

/-- Gives values to names one by one. -/
def assignAll : List Assignee → List Value → Eval Unit
  | t :: rest, v :: vs => do
    assign t v
    assignAll rest vs
  | _, _ => return ()
  termination_by structural ts => ts

end

/-- Sends a value through filters, behind a line. -/
def filteredFrom (line : Nat) : List FilterCall → Value → Eval Value
  | [], v => return v
  | f :: rest, v => do
    let line := Expr.lastArgument line f.args
    let a ← arguments w inner line f.args
    match Filter.apply (← get).escaping f.name (a.behind v) with
    | some result => filteredFrom line rest (← lift line result)
    | none => fail line (.unknownFilter f.name)

/-- Sends a value through filters. -/
def filtered (fs : List FilterCall) (v : Value) : Eval Value :=
  filteredFrom w inner (FilterCall.firstLine fs) fs v

/-- Gives values to names, each visible to the next. -/
def bind : List (Assignee × Expr) → Eval Unit
  | [] => return ()
  | (t, e) :: rest => do
    let v ← expr w inner e none
    assign w inner t v
    bind rest

/-- What is found in the names that a template leaves behind. Its output is dropped. -/
def taken {α : Type} (e : Expr) (line : Nat) (find : Store → α) : Eval α := do
  let (found, _) ← capture <| withFrame line {} do
    let v ← expr w inner e none
    includeAny inner e.lastLine false v
    return find (← get)
  return found

/-- The items that meet the condition of a loop. -/
def selected (l : Loop) (condition : Expr) (items : List Value) : Eval (List Value) :=
  withFrame l.line { loop := some l } <| items.filterM fun item => do
    assign w inner l.target item
    let x ← expr w inner condition none
    return x.isTrue

mutual

/-- Runs a statement. -/
def statement : Statement → Eval Flow
  | .data text => do
    modify (·.write text)
    return .normal
  | .emit e => do
    if e.repeatsLoop && (← get).loop?.isNone then fail e.lastLine (.unknownFunction "loop")
    let v ← expr w inner e none
    emit e.lastLine v
    return .normal
  | .loop target source condition isRecursive body otherwise => do
    let v ← expr w inner source none
    let all ← lift source.lastLine v.walk
    let line := source.lastLine
    let l : Loop := { target, body, isRecursive, isNamed := true, depth := 0, slot := 0, line }
    let (items, count) ← match condition with
      | none => pure (all, roundCount v)
      | some c => do
        let kept ← selected w inner { l with isNamed := false, isRecursive := false } c all
        pure (kept, some kept.length)
    let ended ← iterate line l items count fun item => do
      assign w inner target item
      statements body
    if ended then statements otherwise else return .normal
  | .conditional condition yes no => do
    let x ← expr w inner condition none
    if x.isTrue then statements yes else statements no
  | .scoped bindings body line =>
    withFrame line {} do
      bind w inner bindings
      statements body
  | .assign target e => do
    let v ← expr w inner e none
    assign w inner target v
    return .normal
  | .capture target filters body => do
    let (flow, v) ← capture (statements body)
    if flow == .normal then
      let v ← filtered w inner filters v
      assign w inner target v
    return flow
  | .escaping e body => do
    let v ← expr w inner e none
    let before ← get
    match escapingOf? before.outermost v with
    | none => fail e.lastLine .badEscaping
    | some escaping =>
      modify fun s => { s with escaping }
      let flow ← statements body
      modify fun s => { s with escaping := before.escaping }
      return flow
  | .filtered filters body => do
    let (flow, v) ← capture (statements body)
    if flow == .normal then
      let v ← filtered w inner filters v
      emit (FilterCall.lastLine filters) v
    return flow
  | .block name body line => inBlock line name (statements body)
  | .define name parameters defaults body => do
    let v ← define name parameters defaults body
    modify (·.assign name v)
    return .normal
  | .callWith call parameters defaults body => do
    let v ← expr w inner call (some (define "caller" parameters defaults body))
    emit call.lastLine v
    return .normal
  | .perform e => do
    let _ ← expr w inner e none
    return .normal
  | .include e ignoreMissing => do
    let v ← expr w inner e none
    includeAny inner e.lastLine ignoreMissing v
    return .normal
  | .take e name line => do
    let v ← taken w inner e line Store.exported
    modify (·.assign name v)
    return .normal
  | .takeNames e names line => do
    let vs ← taken w inner e line fun s => names.map fun n => s.lookup n.1
    modify fun s => (names.zip vs).foldr (fun n s => s.assign n.1.2 n.2) s
    return .normal
  | .extend e => do
    let v ← expr w inner e none
    match v.asText? with
    | some name =>
      fail e.lastLine (if name == templateName then .extendsItself name else .noTemplate name)
    | none => fail e.lastLine .nameNotText
  | .missing block line => fail line (.missingBlock block)
  | .leave => return .leave
  | .next => return .next
  termination_by structural s => s

/-- Runs statements in order until one of them leaves. -/
def statements : List Statement → Eval Flow
  | [] => return .normal
  | s :: rest => do
    match ← statement s with
    | .normal => statements rest
    | flow => return flow
  termination_by structural ss => ss

end

end Statements

/-- How statements of a template run with some levels below. -/
def innerTo (w : World) (d : Document) : (levels : Nat) → Inner
  | 0 => ⟨fun _ => fail 0 .tooDeep, d⟩
  | levels + 1 => ⟨statements w (innerTo w d levels), d⟩

end Eval

/-- The output of a template that sees some names. -/
def Document.run (d : Document) (w : World) (context : List (String × Value)) :
    Except Fault String := do
  let start : Store := { context, blocks := d.blocks, frames := [{ backing := .context }] }
  let inner := Eval.innerTo w d (Store.deepest + 2)
  let (_, s) ← (Eval.statements w inner d.statements).run start
  return s.out

/-- The output of a template that sees the surroundings of a run and a flag. No command ran before. -/
def World.render (w : World) (template : String) (debug : Bool) : Except Fault String := do
  (← Document.ofText template).run w (w.snapshot.globalContext debug)

end Stencil.Template
