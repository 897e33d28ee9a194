import Stencil.Template.Cause

/-! Templates as trees.

Expressions keep the lines of their words, because a failure is reported at the line of the last
part that was looked at before it; `Expr.lastLine` says which that is. -/
namespace Stencil.Template

/-- Comparisons. -/
inductive Comparison where
  | equal
  | unequal
  | less
  | lessEqual
  | greater
  | greaterEqual
  | within
  | outside
  deriving DecidableEq, Repr

mutual

/-- An expression. -/
inductive Expr where
  | const (v : Value) (line : Nat)
  | var (name : String) (line : Nat)
  | arithmetic (op : Arithmetic) (a b : Expr)
  | concat (a b : Expr)
  | compare (first : Expr) (rest : List (Comparison × Expr))
  | both (a b : Expr)
  | either (a b : Expr)
  | negation (a : Expr)
  | minus (a : Expr) (line : Nat)
  | choice (condition yes : Expr) (no : Option Expr)
  | filter (name : String) (subject : Expr) (args : List Arg) (line : Nat)
  | test (name : String) (subject : Expr) (args : List Arg) (line : Nat)
  | field (base : Expr) (name : String) (line : Nat)
  | item (base key : Expr)
  | slice (base start stop step : Expr)
  | call (callee : Expr) (args : List Arg) (line : Nat)
  | list (items : List Expr) (line : Nat)
  | map (entries : List (Expr × Expr)) (line : Nat)

/-- An argument of a call. -/
inductive Arg where
  | positional (e : Expr)
  | named (name : String) (e : Expr)
  | spread (e : Expr)
  | spreadNamed (e : Expr)

end

instance : Inhabited Expr := ⟨.const .none 0⟩

/-- The expression of an argument. -/
def Arg.expr : Arg → Expr
  | .positional e | .named _ e | .spread e | .spreadNamed e => e

namespace Expr

/-- What messages call an expression. -/
def title : Expr → String
  | .const .. => "constant"
  | .var .. => "variable"
  | .filter .. => "filter expression"
  | .test .. => "test expression"
  | .call .. => "call"
  | .list .. => "list literal"
  | .map .. => "map literal"
  | _ => "expression"

/-- The expression is a value as it stands. -/
def isConst : Expr → Bool
  | .const .. => true
  | _ => false

/-- The expression makes its value if that is an object: a list, for instance, that is made on the spot
is the same as no other. -/
def makesObject : Expr → Bool
  | .list .. | .map .. | .slice .. | .arithmetic .. | .call .. => true
  | _ => false

/-- The named arguments are values as they stand. -/
def namesAreConst (args : List Arg) : Bool :=
  args.all fun a => match a with
    | .named _ e => e.isConst
    | .spreadNamed _ => false
    | .positional _ | .spread _ => true

/-- The expression runs the loop around it over other items. -/
def repeatsLoop : Expr → Bool
  | .call (.var "loop" _) [_] _ => true
  | _ => false

mutual

/-- The line of the last part of an expression that is looked at. A list or a map of values is looked
at as a whole. Of arguments those without names are looked at first, and those with names only if there
is more to them than values. -/
def lastLine : Expr → Nat
  | .const _ line => line
  | .var _ line => line
  | .arithmetic _ _ b => lastLine b
  | .concat _ b => lastLine b
  | .compare first rest => lastCompared (lastLine first) rest
  | .both _ b => lastLine b
  | .either _ b => lastLine b
  | .negation a => lastLine a
  | .minus a _ => lastLine a
  | .choice _ yes no => lastOptional (lastLine yes) no
  | .filter _ subject args _ =>
    if namesAreConst args then lastOf true (lastLine subject) args
    else lastOf false (lastOf true (lastLine subject) args) args
  | .test _ subject args _ =>
    if namesAreConst args then lastOf true (lastLine subject) args
    else lastOf false (lastOf true (lastLine subject) args) args
  | .field base _ _ => lastLine base
  | .item _ key => lastLine key
  | .slice _ _ _ step => lastLine step
  | .call _ args line =>
    if namesAreConst args then lastOf true line args
    else lastOf false (lastOf true line args) args
  | .list items line => if items.all isConst then line else lastItem line items
  | .map entries line =>
    if entries.all fun e => e.1.isConst && e.2.isConst then line else lastEntry line entries
  termination_by structural e => e

/-- The line of the last of some compared expressions. -/
def lastCompared (line : Nat) : List (Comparison × Expr) → Nat
  | [] => line
  | (_, e) :: rest => lastCompared (lastLine e) rest
  termination_by structural es => es

/-- The line of the last of some items. -/
def lastItem (line : Nat) : List Expr → Nat
  | [] => line
  | e :: rest => lastItem (lastLine e) rest
  termination_by structural es => es

/-- The line of the last of some entries. -/
def lastEntry (line : Nat) : List (Expr × Expr) → Nat
  | [] => line
  | (_, v) :: rest => lastEntry (lastLine v) rest
  termination_by structural es => es

/-- The line of an expression that may be missing. -/
def lastOptional (line : Nat) : Option Expr → Nat
  | none => line
  | some e => lastLine e
  termination_by structural e => e

/-- The line of the last argument of those without names, or of those with names. -/
def lastOf (unnamed : Bool) (line : Nat) : List Arg → Nat
  | [] => line
  | a :: rest => lastOf unnamed (lineOf unnamed line a) rest
  termination_by structural as => as

/-- The line of an argument of that sort, or else the line before. -/
def lineOf (unnamed : Bool) (line : Nat) : Arg → Nat
  | .positional e => if unnamed then lastLine e else line
  | .spread e => if unnamed then lastLine e else line
  | .named _ e => if unnamed then line else lastLine e
  | .spreadNamed e => if unnamed then line else lastLine e
  termination_by structural a => a

end

/-- The line of the last argument that is looked at. -/
def lastArgument (line : Nat) (args : List Arg) : Nat :=
  if namesAreConst args then lastOf true line args
  else lastOf false (lastOf true line args) args

end Expr

/-- A filter that a block of output goes through. -/
structure FilterCall where
  name : String
  args : List Arg
  line : Nat

/-- The line of the first of some filters. -/
def FilterCall.firstLine (fs : List FilterCall) : Nat := (fs.head?.map (·.line)).getD 0

/-- The line of the last part of some filters that is looked at: the name of the first of them, then the
arguments of all. -/
def FilterCall.lastLine (fs : List FilterCall) : Nat :=
  fs.foldl (fun line f => Expr.lastArgument line f.args) (firstLine fs)

/-- What a value is assigned to. A list knows the line where it starts. -/
inductive Assignee where
  | name (s : String)
  | field (base : Expr) (name : String)
  | list (parts : List Assignee) (line : Nat)

/-- A statement. `missing` stands in for the content of a block that only another template could
give. `take` and `takeNames` give names to what another template leaves behind, as a whole or name by
name; each name that is taken has the one that it gets beside it. -/
inductive Statement where
  | data (text : String)
  | emit (e : Expr)
  | loop (target : Assignee) (source : Expr) (condition : Option Expr) (isRecursive : Bool)
      (body otherwise : List Statement)
  | conditional (condition : Expr) (yes no : List Statement)
  | scoped (bindings : List (Assignee × Expr)) (body : List Statement) (line : Nat)
  | assign (target : Assignee) (e : Expr)
  | capture (target : Assignee) (filters : List FilterCall) (body : List Statement)
  | escaping (e : Expr) (body : List Statement)
  | filtered (filters : List FilterCall) (body : List Statement)
  | block (name : String) (body : List Statement) (line : Nat)
  | missing (block : String) (line : Nat)
  | define (name : String) (parameters : List String) (defaults : List Expr)
      (body : List Statement)
  | callWith (call : Expr) (parameters : List String) (defaults : List Expr)
      (body : List Statement)
  | perform (e : Expr)
  | include (e : Expr) (ignoreMissing : Bool)
  | take (e : Expr) (name : String) (line : Nat)
  | takeNames (e : Expr) (names : List (String × String)) (line : Nat)
  | extend (e : Expr)
  | leave
  | next

instance : Inhabited Statement := ⟨.leave⟩

/-- A template: its statements, and the blocks in it by name. -/
structure Document where
  statements : List Statement
  blocks : List (String × List Statement)

/-- A statement that is nothing but white space. -/
def Statement.isBlank : Statement → Bool
  | .data text => text.all Text.isBlank
  | _ => false

end Stencil.Template
