import Mathlib
import Stencil.Proofs.Environment
import Stencil.Proofs.Function.Dict
import Stencil.Proofs.Template.Path
import Stencil.Template.Run

/-! What paths come to, and paths that lead nowhere.

A path finds its value part by part (`Follows.run`) and is written as it shows (`World.render_path`). What is
not there is undefined, and so is every part of it. `Missing` names the paths of which the context
alone tells this: they are written as nothing, and a function that requires a value refuses them
(`World.render_missing`). -/
namespace Stencil.Template
open Value (ofString)

namespace Access

/-- What a part asks for: the name of an attribute or the key of an item. -/
def key : Access → String
  | .field name => name
  | .item key => key

/-- What a part finds in a value. -/
def of (v : Value) : Access → Value
  | .field name => v.field name
  | .item key => v.item (ofString key)

theorem of_undefined (access : Access) : of .undefined access = .undefined := by
  cases access <;> rfl

theorem of_map (entries : List (Value × Value)) (access : Access) :
    of (.map entries) access = (Value.lookup? (ofString access.key) entries).getD .undefined := by
  cases access <;> rfl

theorem foldl_of_undefined (accesses : List Access) :
    accesses.foldl of .undefined = .undefined := by
  induction accesses with
  | nil => rfl
  | cons access accesses ih => rw [List.foldl_cons, of_undefined, ih]

end Access

/-! ### The value of a path -/

/-- The state in which a template without blocks starts. -/
def Store.start (context : List (String × Value)) : Store :=
  { context, blocks := [], frames := [{ backing := .context }] }

theorem Store.lookup?_start (context : List (String × Value)) (name : String) :
    (Store.start context).lookup? name =
      match context.lookup name with
      | some v => some ((Store.start context).current v)
      | none => if functionNames.contains name then some (.function name) else none := by
  have hframe : (Store.start context).inFrame? { backing := .context } name = context.lookup name := by
    simp [Store.inFrame?, Store.start]
  have hframes : (Store.start context).frames = [{ backing := .context }] := rfl
  rw [Store.lookup?, hframes, List.findSome?_cons, hframe]
  cases context.lookup name <;> rfl

/-- The value of a path at the start of a template. -/
def pathValue (context : List (String × Value)) (start : String) (accesses : List Access) : Value :=
  accesses.foldl Access.of ((Store.start context).lookup start)

section Values
variable {w : World} {context : List (String × Value)} {start : String} {line : Nat} {inner : Inner} {s : Store} {base e : Expr} {accesses : List Access} {v : Value}

/-- A path finds its parts one behind the other, and changes nothing. -/
theorem Follows.run (h : Follows base accesses e)
    (hbase : (Eval.expr w inner base none).run s = .ok (v, s)) :
    (Eval.expr w inner e none).run s = .ok (accesses.foldl Access.of v, s) := by
  induction h generalizing v with
  | nil e => exact hbase
  | @field base e name line accesses h ih =>
    refine ih (v := v.field name) ?_
    rw [Eval.expr, StateT.run_bind, hbase]
    rfl
  | @item base e key line accesses h ih =>
    refine ih (v := v.item (ofString key)) ?_
    rw [Eval.expr, StateT.run_bind, hbase]
    rw [Eval.expr]
    rfl

/-- A path comes to its value at the start of a template. -/
theorem run_path (h : Follows (.var start line) accesses e) :
    (Eval.expr w inner e none).run (.start context) =
      .ok (pathValue context start accesses, .start context) := by
  refine h.run ?_
  rw [Eval.expr]
  rfl

theorem Follows.repeatsLoop_eq (h : Follows base accesses e) (hbase : base.repeatsLoop = false) :
    e.repeatsLoop = false := by
  induction h with
  | nil e => exact hbase
  | field h ih => exact ih rfl
  | item h ih => exact ih rfl

end Values

/-! ### Documents of one expression -/

/-- A document of one expression writes its value. -/
theorem Document.run_emit (w : World) (context : List (String × Value)) {e : Expr}
    (hloop : e.repeatsLoop = false) :
    Document.run ⟨[.emit e], []⟩ w context = (do
      let p ← (Eval.expr w (Eval.innerTo w ⟨[.emit e], []⟩ (Store.deepest + 2)) e none).run
        (.start context)
      let q ← (Eval.emit e.lastLine p.1).run p.2
      return q.2.out) := by
  have hstatements (inner : Inner) (s : Store) : (Eval.statements w inner [.emit e]).run s = (do
      let p ← (Eval.expr w inner e none).run s
      let q ← (Eval.emit e.lastLine p.1).run p.2
      return (.normal, q.2)) := by
    rw [Eval.statements, Eval.statement, hloop]
    simp [StateT.run_bind, Eval.statements]
  change (do let q ← (Eval.statements w _ [.emit e]).run (.start context); return q.2.out) = _
  rw [hstatements]
  simp only [bind_assoc, pure_bind]

/-- A value is written as it shows, unless output is escaped. -/
theorem run_emit_off (line : Nat) (v : Value) {s : Store} (h : s.escaping = .off) :
    (Eval.emit line v).run s = .ok ((), s.write v.display) := by
  have hwrite : Escaping.off.write v = .ok v.display := by
    cases v with
    | text s safe => cases safe <;> rfl
    | _ => rfl
  rw [Eval.emit, StateT.run_bind, StateT.run_get, pure_bind, h, hwrite]
  rfl

/-- A value that is required but empty is refused by what it shows. -/
theorem run_requiredVals {w : World} {debug : Bool} {inner : Inner} {e : Expr} {v : Value}
    (here there : Nat) (hempty : v.isEmpty = true)
    (he : (Eval.expr w inner e none).run (.start (w.snapshot.globalContext debug)) =
      .ok (v, .start (w.snapshot.globalContext debug))) :
    (Eval.expr w inner (.call (.var "required_vals" here) [.positional e] there) none).run
        (.start (w.snapshot.globalContext debug)) =
      .error ⟨.problem (.emptyValue v.display), some (Expr.lastArgument there [.positional e])⟩ := by
  set s := Store.start (w.snapshot.globalContext debug)
  set line := Expr.lastArgument there [.positional e]
  have hfunction : s.lookup? "required_vals" = some (.function "required_vals") := by
    rw [Store.lookup?_start]
    rfl
  have hargs : (Eval.together line (Eval.handed w inner true [.positional e])
      (Eval.handed w inner false [.positional e])).run s = .ok ({ positional := [v] }, s) := by
    simp only [Eval.together, Eval.handed, Eval.handedOne]
    simp [he]
    rfl
  have hrefused (commands : List String) :
      (w.call "required_vals" { positional := [v] }).run commands = .error (.emptyValue v.display) := by
    change (do let u ← textResult (Function.requiredVals [v]); return (u, commands)) = _
    simp [Function.requiredVals, hempty]
    rfl
  have hfailed : (Eval.callFunction w "required_vals" { positional := [v] } line).run s =
      .error ⟨.problem (.emptyValue v.display), some line⟩ := by
    rw [Eval.callFunction, StateT.run_bind, StateT.run_get, pure_bind, hrefused]
    rfl
  have hcall : (Eval.callNamed w inner "required_vals" { positional := [v] } line).run s =
      .error ⟨.problem (.emptyValue v.display), some line⟩ := by
    rw [Eval.callNamed, if_neg (by decide), StateT.run_bind, StateT.run_get, pure_bind]
    simp only [hfunction, Eval.callValue]
    rw [if_neg (by decide), hfailed]
  rw [Eval.expr, StateT.run_bind, hargs]
  exact hcall

/-- The names that mean something by themselves at the start of an expression: a negation and the
constants. -/
def expressionWords : List String := ["not", "true", "True", "false", "False", "none", "None"]

theorem constant?_eq_none {name : String} (h : name ∉ expressionWords) :
    Parser.constant? name = none := by
  unfold Parser.constant?
  split <;> first | rfl | exact absurd h (by decide)

/-- **A path is written as its value shows.** -/
theorem World.render_path (w : World) (debug : Bool) {start text : String} {accesses : List Access}
    (hspells : Spells (pathWords start accesses) text.toList) (hstart : start ∉ expressionWords) :
    w.render ("\x7b\x7b " ++ text ++ " \x7d\x7d") debug =
      .ok (pathValue (w.snapshot.globalContext debug) start accesses).display := by
  have hnot : start ≠ "not" := fun h => hstart (h ▸ by decide)
  obtain ⟨e, line, he, hdocument⟩ := document_path hspells hnot (constant?_eq_none hstart)
  rw [World.render, hdocument]
  change Document.run _ w _ = _
  rw [Document.run_emit w _ (he.repeatsLoop_eq rfl), run_path he]
  simp only [bind, Except.bind, run_emit_off _ _ (rfl : (Store.start _).escaping = .off)]
  show Except.ok ("" ++ _) = _
  rw [String.empty_append]

/-- A call that requires the value of a path fails if that is empty. -/
theorem World.render_required (w : World) (debug : Bool) {start text : String} {accesses : List Access}
    (hspells : Spells (pathWords start accesses) text.toList) (hstart : start ∉ expressionWords)
    (hempty : (pathValue (w.snapshot.globalContext debug) start accesses).isEmpty = true) :
    ∃ line, w.render ("\x7b\x7b required_vals(" ++ text ++ ") \x7d\x7d") debug =
      .error ⟨.problem (.emptyValue (pathValue (w.snapshot.globalContext debug) start accesses).display),
        some line⟩ := by
  have hnot : start ≠ "not" := fun h => hstart (h ▸ by decide)
  have hname : (Token.name "required_vals").WrittenAs "required_vals".toList := by
    have hletters : "required_vals".toList = 'r' :: "equired_vals".toList := by simp
    exact .name hletters rfl rfl
  obtain ⟨e, line, here, there, he, hdocument⟩ :=
    document_call hspells hnot (constant?_eq_none hstart) hname (by decide) rfl
  have htext : "\x7b\x7b required_vals(" ++ text ++ ") \x7d\x7d" =
      "\x7b\x7b " ++ ("required_vals" ++ "(" ++ text ++ ")") ++ " \x7d\x7d" := by
    rw [← String.toList_inj]
    simp
  rw [htext, World.render, hdocument]
  refine ⟨Expr.lastArgument there [.positional e], ?_⟩
  change Document.run _ w _ = _
  rw [Document.run_emit w _ rfl, run_requiredVals here there hempty (run_path he)]
  rfl

/-! ### Missing paths -/

/-- Nothing is known under a path: its first name stands for nothing, or its first part is a variable
that is not set. What follows makes no difference. -/
inductive Missing (snapshot : Snapshot) (debug : Bool) : String → List Access → Prop
  | unbound {start : String} {accesses : List Access} (hword : start ∉ expressionWords)
      (hcontext : start ∉ (snapshot.globalContext debug).map Prod.fst)
      (hfunction : start ∉ functionNames) : Missing snapshot debug start accesses
  | unset {first : Access} {rest : List Access} (hfirst : snapshot.lookupEnv first.key = none) :
      Missing snapshot debug "env" (first :: rest)

/-- The variables of a snapshot are found under their names. -/
theorem lookup?_variables (environment : Environment) (name : String) :
    Value.lookup? (ofString name) (environment.map fun v => (ofString v.1, ofString v.2)) =
      (environment.get? name).map ofString := by
  induction environment with
  | nil => rfl
  | cons entry rest ih =>
    obtain ⟨n, v⟩ := entry
    rw [List.map_cons, Value.lookup?, Value.sameKey_ofString, Environment.get?_cons, ih]
    by_cases h : n = name
    · simp [h]
    · simp [h, Ne.symm h]

namespace Missing
variable {snapshot : Snapshot} {debug : Bool} {start : String} {accesses : List Access}

theorem start_not_mem (h : Missing snapshot debug start accesses) : start ∉ expressionWords := by
  cases h with
  | unbound hword hcontext hfunction => exact hword
  | unset hfirst => decide

/-- The value of a missing path is undefined. -/
theorem value (h : Missing snapshot debug start accesses) :
    pathValue (snapshot.globalContext debug) start accesses = .undefined := by
  cases h with
  | unbound hword hcontext hfunction =>
    have hlookup : (snapshot.globalContext debug).lookup start = none := by
      refine List.lookup_eq_none_iff.mpr fun entry hentry => ?_
      rw [bne_iff_ne]
      rintro rfl
      exact hcontext (List.mem_map_of_mem hentry)
    have hnone : (Store.start (snapshot.globalContext debug)).lookup start = .undefined := by
      rw [Store.lookup, Store.lookup?_start, hlookup]
      simp [hfunction]
    rw [pathValue, hnone, Access.foldl_of_undefined]
  | @unset first rest hfirst =>
    have henv : (Store.start (snapshot.globalContext debug)).lookup "env" =
        .map (snapshot.environment.map fun v => (ofString v.1, ofString v.2)) := rfl
    have hnone : (snapshot.environment.get? first.key).map ofString = none := by
      rw [Snapshot.lookupEnv] at hfirst
      rw [hfirst]
      rfl
    rw [pathValue, List.foldl_cons, henv, Access.of_map, lookup?_variables, hnone]
    exact Access.foldl_of_undefined rest

end Missing

/-- **A path that leads nowhere is written as nothing**, however far it goes, and a function that
requires its value says that it is empty. -/
theorem World.render_missing (w : World) (debug : Bool) {start text : String} {accesses : List Access}
    (hspells : Spells (pathWords start accesses) text.toList)
    (hmissing : Missing w.snapshot debug start accesses) :
    w.render ("\x7b\x7b " ++ text ++ " \x7d\x7d") debug = .ok "" ∧
      ∃ fault, w.render ("\x7b\x7b required_vals(" ++ text ++ ") \x7d\x7d") debug = .error fault ∧
        fault.cause.sort = .invalidOperation ∧
        fault.cause.detail? = some "required value is empty: " := by
  have hstart := hmissing.start_not_mem
  constructor
  · rw [World.render_path w debug hspells hstart, hmissing.value]
    rfl
  · have hempty : (pathValue (w.snapshot.globalContext debug) start accesses).isEmpty = true := by
      rw [hmissing.value]
      rfl
    obtain ⟨line, hfailed⟩ := World.render_required w debug hspells hstart hempty
    rw [hmissing.value] at hfailed
    exact ⟨_, hfailed, rfl, rfl⟩

/-- Both kinds of parts behind each other, with blanks and an escape between quotes. -/
theorem World.render_missing_quoted :
    let w : World := { snapshot := { environment := [("HOME", "/home")] } }
    let unbound := "x[ \"'\\x41\"].not"
    let unset := "env.NO[ \"'\\x41\"].not"
    (Spells (pathWords "x" [.item "'A", .field "not"]) unbound.toList ∧
      Missing w.snapshot true "x" [.item "'A", .field "not"] ∧
      w.render ("\x7b\x7b " ++ unbound ++ " \x7d\x7d") true = .ok "") ∧
    Spells (pathWords "env" [.field "NO", .item "'A", .field "not"]) unset.toList ∧
      Missing w.snapshot true "env" [.field "NO", .item "'A", .field "not"] ∧
      ∃ fault, w.render ("\x7b\x7b required_vals(" ++ unset ++ ") \x7d\x7d") true = .error fault ∧
        fault.cause.sort = .invalidOperation ∧
        fault.cause.detail? = some "required value is empty: " := by
  intro w unbound unset
  have hunbound : Missing w.snapshot true "x" [.item "'A", .field "not"] :=
    .unbound (by decide) (by decide) (by decide)
  have hunset : Missing w.snapshot true "env" [.field "NO", .item "'A", .field "not"] := .unset rfl
  have hno : Blanks [] := rfl
  have hone : Blanks [' '] := rfl
  have hquoted : Enclosed '"' ['\'', '\\', 'x', '4', '1'] :=
    .plain (by decide) (by decide) (.escape (.plain (by decide) (by decide)
      (.plain (by decide) (by decide) .nil)))
  have hnot : Spells [.name "not"] ([] ++ ("not".toList ++ [])) :=
    .cons hno (.name (by simp : "not".toList = ['n', 'o', 't']) rfl rfl) (by simp [Token.EndsBefore]) .nil
  have hrest : Spells [.sign .openBracket, .text "'A", .sign .closeBracket, .sign .dot, .name "not"]
      ('[' :: " \"'\\x41\"].not".toList) := by
    have h := Spells.cons hno (.sign (s := .openBracket) (by decide)) trivial <|
      .cons hone (.text (.inr rfl) hquoted (s := "'A") (by decide)) trivial <|
      .cons hno (.sign (s := .closeBracket) (by decide)) trivial <|
      .cons hno (.sign (s := .dot) (by decide)) trivial hnot
    simpa [Sign.text] using h
  have hx : Spells (pathWords "x" [.item "'A", .field "not"]) unbound.toList := by
    have h := Spells.cons hno (.name (by simp : "x".toList = ['x']) rfl rfl)
      (Token.endsBefore_cons _ rfl _) hrest
    simpa [pathWords, Access.words, unbound] using h
  have henv : Spells (pathWords "env" [.field "NO", .item "'A", .field "not"]) unset.toList := by
    have hfirst : Spells (.name "NO" :: _) _ :=
      .cons hno (.name (by simp : "NO".toList = ['N', 'O']) rfl rfl) (Token.endsBefore_cons _ rfl _) hrest
    have h := Spells.cons hno (.name (by simp : "env".toList = ['e', 'n', 'v']) rfl rfl)
      (Token.endsBefore_cons _ (c := '.') rfl _) <| .cons hno (.sign (s := .dot) (by decide)) trivial hfirst
    simpa [pathWords, Access.words, unset, Sign.text] using h
  exact ⟨⟨hx, hunbound, (World.render_missing w true hx hunbound).1⟩, henv, hunset,
    (World.render_missing w true henv hunset).2⟩

end Stencil.Template
