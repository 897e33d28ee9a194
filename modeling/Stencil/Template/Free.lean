import Stencil.Template.Tree

/-! The names that a macro takes from outside.

A name is free where it is used without having been assigned before in the same block or around it. -/
namespace Stencil.Template.Free

mutual

/-- The free names of an expression. -/
def ofExpr (bound : List String) : Expr → List String
  | .const .. => []
  | .var name _ => if bound.contains name then [] else [name]
  | .arithmetic _ a b => ofExpr bound a ++ ofExpr bound b
  | .concat a b => ofExpr bound a ++ ofExpr bound b
  | .compare first rest => ofExpr bound first ++ ofCompared bound rest
  | .both a b => ofExpr bound a ++ ofExpr bound b
  | .either a b => ofExpr bound a ++ ofExpr bound b
  | .negation a => ofExpr bound a
  | .minus a _ => ofExpr bound a
  | .choice condition yes no => ofExpr bound condition ++ ofExpr bound yes ++ ofOption bound no
  | .filter _ subject args _ => ofExpr bound subject ++ ofArgs bound args
  | .test _ subject args _ => ofExpr bound subject ++ ofArgs bound args
  | .field base _ _ => ofExpr bound base
  | .item base key => ofExpr bound base ++ ofExpr bound key
  | .slice base start stop step =>
    ofExpr bound base ++ ofExpr bound start ++ ofExpr bound stop ++ ofExpr bound step
  | .call callee args _ => ofExpr bound callee ++ ofArgs bound args
  | .list items _ => ofItems bound items
  | .map entries _ => ofEntries bound entries
  termination_by structural e => e

/-- The free names of compared expressions. -/
def ofCompared (bound : List String) : List (Comparison × Expr) → List String
  | [] => []
  | (_, e) :: rest => ofExpr bound e ++ ofCompared bound rest
  termination_by structural es => es

/-- The free names of an expression that may be missing. -/
def ofOption (bound : List String) : Option Expr → List String
  | none => []
  | some e => ofExpr bound e
  termination_by structural e => e

/-- The free names of arguments. -/
def ofArgs (bound : List String) : List Arg → List String
  | [] => []
  | a :: rest => ofArg bound a ++ ofArgs bound rest
  termination_by structural as => as

/-- The free names of an argument. -/
def ofArg (bound : List String) : Arg → List String
  | .positional e => ofExpr bound e
  | .named _ e => ofExpr bound e
  | .spread e => ofExpr bound e
  | .spreadNamed e => ofExpr bound e
  termination_by structural a => a

/-- The free names of items. -/
def ofItems (bound : List String) : List Expr → List String
  | [] => []
  | e :: rest => ofExpr bound e ++ ofItems bound rest
  termination_by structural es => es

/-- The free names of entries. -/
def ofEntries (bound : List String) : List (Expr × Expr) → List String
  | [] => []
  | (k, v) :: rest => ofExpr bound k ++ ofExpr bound v ++ ofEntries bound rest
  termination_by structural es => es

end

mutual

/-- The names that are assigned to, and the free names of what holds attributes. -/
def ofAssignee (bound : List String) : Assignee → List String × List String
  | .name s => ([s], [])
  | .field base _ => ([], ofExpr bound base)
  | .list parts _ => ofAssignees bound parts
  termination_by structural t => t

/-- The names that several are. -/
def ofAssignees (bound : List String) : List Assignee → List String × List String
  | [] => ([], [])
  | t :: rest =>
    let (names, free) := ofAssignee bound t
    let (moreNames, moreFree) := ofAssignees bound rest
    (names ++ moreNames, free ++ moreFree)
  termination_by structural ts => ts

end

/-- The free names of filters. -/
def ofFilters (bound : List String) (fs : List FilterCall) : List String :=
  fs.flatMap fun f => ofArgs bound f.args

/-- The names that assignments of a block assign to, and their free names. -/
def ofBindings (bound : List String) : List (Assignee × Expr) → List String × List String
  | [] => (bound, [])
  | (t, e) :: rest =>
    let (names, free) := ofAssignee bound t
    let (bound, more) := ofBindings (names ++ bound) rest
    (bound, free ++ ofExpr bound e ++ more)

mutual

/-- The free names of a statement, and the names that are assigned behind it. -/
def ofStatement (bound : List String) : Statement → List String × List String
  | .data _ => ([], bound)
  | .emit e => (ofExpr bound e, bound)
  | .loop target source condition _ body otherwise =>
    let (names, free) := ofAssignee bound target
    let inside := "loop" :: names ++ bound
    (ofExpr bound source ++ free ++ ofOption inside condition ++ (ofBody inside body) ++
      ofBody bound otherwise, bound)
  | .conditional condition yes no =>
    (ofExpr bound condition ++ ofBody bound yes ++ ofBody bound no, bound)
  | .scoped bindings body _ =>
    let (inside, free) := ofBindings bound bindings
    (free ++ ofBody inside body, bound)
  | .assign target e =>
    let (names, free) := ofAssignee bound target
    (ofExpr bound e ++ free, names ++ bound)
  | .capture target filters body =>
    let (names, free) := ofAssignee bound target
    (ofBody bound body ++ ofFilters bound filters ++ free, names ++ bound)
  | .escaping e body => (ofExpr bound e ++ ofBody bound body, bound)
  | .filtered filters body => (ofBody bound body ++ ofFilters bound filters, bound)
  | .block _ body _ => (ofBody bound body, bound)
  | .define name parameters defaults body =>
    let inside := parameters ++ name :: bound
    (ofItems inside defaults ++ ofBody inside body, name :: bound)
  | .callWith call parameters defaults body =>
    let inside := parameters ++ bound
    (ofExpr bound call ++ ofItems inside defaults ++ ofBody inside body, bound)
  | .perform e => (ofExpr bound e, bound)
  | .include e _ => (ofExpr bound e, bound)
  | .take e name _ => (ofExpr bound e, name :: bound)
  | .takeNames e names _ => (ofExpr bound e, names.map Prod.snd ++ bound)
  | .extend e => (ofExpr bound e, bound)
  | .missing .. => ([], bound)
  | .leave => ([], bound)
  | .next => ([], bound)
  termination_by structural s => s

/-- The free names of statements in a block of their own. -/
def ofBody (bound : List String) : List Statement → List String
  | [] => []
  | s :: rest =>
    let (free, after) := ofStatement bound s
    free ++ ofBody after rest
  termination_by structural ss => ss

end

/-- The free names of a macro, each of them once. -/
def ofMacro (parameters : List String) (defaults : List Expr) (body : List Statement) :
    List String :=
  (ofItems parameters defaults ++ ofBody parameters body).eraseDups

end Stencil.Template.Free
