import Stencil.Function.Text

/-! Arguments of filters, tests and functions.

A callee reads its positional arguments one by one and says what it wants: any value, a text (which
everything has), a size. Named arguments are one value more behind the positional ones, unless the
callee asks for them by name; then it must know all of them. -/
namespace Stencil.Template

/-- Arguments of a call. -/
structure Args where
  positional : List Value := []
  named : Option (List (String × Value)) := none
  deriving Inhabited

/-- An argument: a value, or all named ones together. -/
inductive Argument where
  | value (v : Value)
  | named (entries : List (String × Value))

/-- Named arguments as a map. -/
def namedMap (entries : List (String × Value)) : Value :=
  .map (entries.map fun e => (.ofString e.1, e.2))

/-- An argument as a value. -/
def Argument.toValue : Argument → Value
  | .value v => v
  | .named entries => namedMap entries

/-- All arguments in order. -/
def Args.all (a : Args) : List Argument := a.positional.map .value ++ (a.named.map .named).toList

/-- All arguments as values. -/
def Args.values (a : Args) : List Value := a.all.map Argument.toValue

/-- Puts a value before the arguments. -/
def Args.behind (v : Value) (a : Args) : Args := { a with positional := v :: a.positional }

/-- Reads arguments one by one. -/
abbrev Params := StateT (List Argument) (Except Problem)

namespace Params

/-- The next argument, if there is one. -/
def next? : Params (Option Argument) := do
  match ← get with
  | [] => return none
  | a :: rest =>
    set rest
    return some a

/-- The next argument. -/
def next : Params Argument := do
  match ← next? with
  | some a => return a
  | none => throw .missingArgument

/-- A value. -/
def value : Params Value := do return (← next).toValue

/-- The text of an argument; named arguments have none. -/
def textOf : Argument → Except Problem String
  | .value v => .ok (Function.textOf v)
  | .named _ => .error .namedAsText

/-- A text. -/
def text : Params String := do
  match textOf (← next) with
  | .ok s => return s
  | .error p => throw p

/-- The size that an argument means. -/
def sizeOf (a : Argument) : Except Problem Nat :=
  match a.toValue.toSize? with
  | some n => .ok n
  | none => .error (.notConvertible a.toValue.kind "usize")

/-- A size. -/
def size : Params Nat := do
  match sizeOf (← next) with
  | .ok n => return n
  | .error p => throw p

/-- An argument that may be left out; a missing value counts as left out. -/
def optional {α : Type} (read : Argument → Except Problem α) : Params (Option α) := do
  match ← next? with
  | none => return none
  | some a =>
    let v := a.toValue
    if v.isUndefined || v.isNone then return none
    else
      match read a with
      | .ok x => return some x
      | .error p => throw p

/-- Any value that may be left out. -/
def value? : Params (Option Value) := optional fun a => .ok a.toValue

/-- A text that may be left out. -/
def text? : Params (Option String) := optional textOf

/-- A size that may be left out. -/
def size? : Params (Option Nat) := optional sizeOf

/-- The truth value that an argument is. -/
def flagOf (v : Value) : Except Problem Bool :=
  match v with
  | .bool b => .ok b
  | _ => .error (.notConvertible v.kind "bool")

/-- A truth value that may be left out. -/
def flag? : Params (Option Bool) := optional fun a => flagOf a.toValue

/-- An integer in a range. -/
def intOf (low high : Int) (target : String) (v : Value) : Except Problem Int :=
  match v.toIntIn? low high with
  | some n => .ok n
  | none => .error (.notConvertible v.kind target)

/-- An integer in a range that may be left out. -/
def int? (low high : Int) (target : String) : Params (Option Int) :=
  optional fun a => intOf low high target a.toValue

/-- All arguments that are left. -/
def rest : Params (List Argument) := do
  let all ← get
  set ([] : List Argument)
  return all

/-- Reads all arguments. -/
def run {α : Type} (p : Params α) (all : List Argument) : Except Problem α := do
  let (x, left) ← StateT.run p all
  if left.isEmpty then return x else throw .tooManyArguments

end Params

/-- Reads arguments of which the named ones are a value more. -/
def Args.read {α : Type} (a : Args) (p : Params α) : Except Problem α := p.run a.all

/-- Reads the positional arguments, and gives the named ones beside. -/
def Args.readNamed {α : Type} (a : Args) (p : Params α) :
    Except Problem (α × List (String × Value)) := do
  return (← p.run (a.positional.map .value), a.named.getD [])

namespace Named

/-- The named argument of a name; a missing value counts as left out. -/
def get? (entries : List (String × Value)) (name : String) : Option Value :=
  match entries.lookup name with
  | some v => if v.isUndefined || v.isNone then none else some v
  | none => none

/-- A truth value of a name. -/
def flag (entries : List (String × Value)) (name : String) : Except Problem Bool :=
  match get? entries name with
  | some v => Params.flagOf v
  | none => .ok false

/-- A text of a name. -/
def text? (entries : List (String × Value)) (name : String) : Except Problem (Option String) :=
  match get? entries name with
  | some v =>
    match v.asText? with
    | some s => .ok (some s)
    | none => .error .notText
  | none => .ok none

/-- Refuses named arguments of other names. -/
def only (entries : List (String × Value)) (names : List String) : Except Problem Unit :=
  match entries.find? fun e => !names.contains e.1 with
  | some (name, _) => .error (.unknownNamed name)
  | none => .ok ()

end Named
end Stencil.Template
