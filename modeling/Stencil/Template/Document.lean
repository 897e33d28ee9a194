import Stencil.Template.Parsing

/-! Reading the statements of a template.

A statement that holds others goes on to the statement that closes it. A template that ends before
that fails where the closing statement should end. -/
namespace Stencil.Template

namespace Parser

/-- Refuses a name that nothing may be assigned to. -/
def freeName : Parser String := do
  let s ← name
  if reservedNames.contains s then fail (.reservedName s) else return s

/-- A word ends a list of names to assign to. Where attributes may stand among them, the sign of an
assignment follows. -/
def endsTargets (dotted : Bool) (token : Option Token) : Bool :=
  isSign .closeParen token || isWord "in" token || endsStatement token ||
    (dotted && isSign .assign token) ||
    match token with
    | some .expressionEnd => true
    | _ => false

/-- Attributes of a namespace to assign to, behind its name. -/
def targetParts : (fuel : Nat) → Assignee → Expr → Parser Assignee
  | 0, _, _ => fail .tooDeep
  | fuel + 1, t, base => do
    let line ← nextLine
    if ← skipSign .dot then
      let part ← name
      targetParts fuel (.field base part) (.field base part line)
    else return t

mutual

/-- What is assigned to: one name, or several with commas behind them. Where `dotted`, attributes of
namespaces may stand for names. -/
def targets (dotted : Bool) : (fuel line : Nat) → Parser Assignee
  | 0, _ => fail .tooDeep
  | fuel + 1, line => do
    let (parts, isTuple) ← targetsFrom dotted fuel true
    match parts with
    | [one] => if isTuple then return .list parts line else return one
    | _ => return .list parts line

/-- Names to assign to behind others, and whether commas stand among them. -/
def targetsFrom (dotted : Bool) : (fuel : Nat) → (isFirst : Bool) → Parser (List Assignee × Bool)
  | 0, _ => fail .tooDeep
  | fuel + 1, isFirst => do
    if !isFirst then expectSign .comma
    if endsTargets dotted (← peek) then return ([], false)
    let part ← target dotted fuel
    if isSign .comma (← peek) then
      let (more, _) ← targetsFrom dotted fuel false
      return (part :: more, true)
    else return ([part], false)

/-- One name to assign to, or names in parentheses. -/
def target (dotted : Bool) : (fuel : Nat) → Parser Assignee
  | 0 => fail .tooDeep
  | fuel + 1 => do
    if ← skipSign .openParen then
      let inside ← targets dotted fuel (← get).line
      expectSign .closeParen
      return inside
    else
      let s ← freeName
      if dotted then targetParts fuel (.name s) (.var s (← get).line) else return .name s

end

/-- Takes the sign of an assignment. -/
def expectAssign : Parser Unit := expect "assignment operator" (isSign .assign)

/-- The filters that a block of output goes through. -/
def filterChain : (fuel : Nat) → (isFirst : Bool) → Parser (List FilterCall)
  | 0, _ => fail .tooDeep
  | fuel + 1, isFirst => do
    if endsStatement (← peek) then
      if isFirst then fail .noFilter else return []
    if !isFirst then expectSign .pipe
    let line ← nextLine
    let called ← dottedName
    let args ← optionalArguments fuel
    return ⟨called, args, line⟩ :: (← filterChain fuel false)

/-- The values that a list of names is given: one expression, or several with commas. -/
def assigned : (fuel : Nat) → Parser Expr
  | 0 => fail .tooDeep
  | fuel + 1 => do
    let line ← nextLine
    let first ← expr fuel
    if isSign .comma (← peek) then return .list (first :: (← more fuel)) line else return first
where
  /-- Values behind commas. -/
  more : (fuel : Nat) → Parser (List Expr)
    | 0 => fail .tooDeep
    | fuel + 1 => do
      if ← skipSign .comma then
        if endsStatement (← peek) then return []
        let e ← expr fuel
        return e :: (← more fuel)
      else return []

/-- Parameters up to the closing parenthesis, and the values of those that may be left out. -/
def parameters : (fuel : Nat) → (isFirst hasDefault : Bool) → Parser (List String × List Expr)
  | 0, _, _ => fail .tooDeep
  | fuel + 1, isFirst, hasDefault => do
    if ← skipSign .closeParen then return ([], [])
    if !isFirst then
      expectSign .comma
      if ← skipSign .closeParen then return ([], [])
    let s ← freeName
    if ← skipSign .assign then
      let e ← expr fuel
      let (names, defaults) ← parameters fuel false true
      return (s :: names, e :: defaults)
    else
      if hasDefault then expectSign .assign
      let (names, defaults) ← parameters fuel false false
      return (s :: names, defaults)

/-- Reads something inside or outside of a loop. -/
def withLoop (inLoop : Bool) (p : Parser α) : Parser α := do
  let before := (← get).inLoop
  modify fun s => { s with inLoop }
  let result ← p
  modify fun s => { s with inLoop := before }
  return result

/-- Assignments up to the end of a statement. -/
def bindings : (fuel : Nat) → (isFirst : Bool) → Parser (List (Assignee × Expr))
  | 0, _ => fail .tooDeep
  | fuel + 1, isFirst => do
    if endsStatement (← peek) then return []
    if !isFirst then expect "comma" (isSign .comma)
    let t ← target false fuel
    expectAssign
    let e ← expr fuel
    return (t, e) :: (← bindings fuel false)

/-- A statement that only loops can hold. -/
def inLoopOnly (called : String) (s : Statement) : Parser Statement := do
  if (← get).inLoop then return s else fail (.notInLoop called)

/-- Passes over the words that say what a template that is put in can see. -/
def contextMarker : Parser Unit := do
  if ← skipWord "with" then expect "context" (isWord "context")
  else if ← skipWord "without" then expect "context" (isWord "context")

/-- A list of names to take from a template ends, at the latest before the words that say what that can
see. -/
def endsNames (token : Option Token) : Bool :=
  endsStatement token || isWord "with" token || isWord "without" token

/-- Names to take from a template, each with the name that it gets. -/
def takenNames : (fuel : Nat) → (isFirst : Bool) → Parser (List (String × String))
  | 0, _ => fail .tooDeep
  | fuel + 1, isFirst => do
    if endsNames (← peek) then return []
    if !isFirst then
      expect "comma" (isSign .comma)
      if endsNames (← peek) then return []
    let taken ← freeName
    let called ← if ← skipWord "as" then freeName else pure taken
    return (taken, called) :: (← takenNames fuel false)

mutual

/-- Statements up to one of some closing names, which is not taken, or up to the end. -/
def statements : (fuel : Nat) → (ends : List String) → Parser (List Statement)
  | 0, _ => fail .tooDeep
  | fuel + 1, ends => do
    match ← next with
    | none => return []
    | some (.data cs) => return .data (String.ofList cs) :: (← statements fuel ends)
    | some .expressionStart =>
      let e ← expr fuel
      expect "end of variable block" fun token => match token with
        | some .expressionEnd => true
        | _ => false
      return .emit e :: (← statements fuel ends)
    | some .statementStart =>
      match ← peek with
      | none => fail (.expected "end of input" "keyword")
      | some token =>
        let closes := match token with
          | .name s => ends.contains s
          | _ => false
        if closes then return []
        else
          let s ← deeper (statement fuel)
          expectStatementEnd
          return s :: (← statements fuel ends)
    | some token => fail (.unexpected token.title)

/-- The statements that a statement holds, and the name that closes it. -/
def body : (fuel : Nat) → (ends : List String) → Parser (List Statement)
  | 0, _ => fail .tooDeep
  | fuel + 1, ends => do
    expectStatementEnd
    statements fuel ends

/-- A statement between its opening and its end. -/
def statement : (fuel : Nat) → Parser Statement
  | 0 => fail .tooDeep
  | fuel + 1 => do
    let token ← next
    match token with
    | some (.name "for") => withLoop true (loop fuel)
    | some (.name "if") => conditional fuel
    | some (.name "with") =>
      let line := (← get).line
      let bs ← bindings fuel true
      let inside ← body fuel ["endwith"]
      let _ ← next
      return .scoped bs inside line
    | some (.name "set") => assignment fuel
    | some (.name "autoescape") =>
      let e ← expr fuel
      let inside ← body fuel ["endautoescape"]
      let _ ← next
      return .escaping e inside
    | some (.name "filter") =>
      let chain ← filterChain fuel true
      let inside ← body fuel ["endfilter"]
      let _ ← next
      return .filtered chain inside
    | some (.name "block") => withLoop false (block fuel)
    | some (.name "macro") =>
      let called ← name
      expectSign .openParen
      let (names, defaults) ← parameters fuel true false
      let inside ← macroBody fuel "endmacro"
      return .define called names defaults inside
    | some (.name "call") =>
      let (names, defaults) ←
        if ← skipSign .openParen then parameters fuel true false else pure ([], [])
      let e ← call fuel
      let inside ← macroBody fuel "endcall"
      return .callWith e names defaults inside
    | some (.name "do") => return .perform (← call fuel)
    | some (.name "include") =>
      let e ← expr fuel
      if ← skipWord "ignore" then
        expect "missing keyword" (isWord "missing")
        let _ ← contextMarker
        return .include e true
      else
        let _ ← contextMarker
        return .include e false
    | some (.name "import") =>
      let line := (← get).line
      let e ← expr fuel
      expect "as" (isWord "as")
      let called ← freeName
      let _ ← contextMarker
      return .take e called line
    | some (.name "from") =>
      let line := (← get).line
      let e ← expr fuel
      expect "import" (isWord "import")
      let names ← takenNames fuel true
      let _ ← contextMarker
      return .takeNames e names line
    | some (.name "extends") => return .extend (← expr fuel)
    | some (.name "break") => inLoopOnly "break" .leave
    | some (.name "continue") => inLoopOnly "continue" .next
    | some (.name s) => fail (.unknownStatement s)
    | some token => fail (.noStatement token.title)
    | none => fail (.expected "end of input" "block keyword")

/-- A loop. -/
def loop : (fuel : Nat) → Parser Statement
  | 0 => fail .tooDeep
  | fuel + 1 => do
    let t ← targets false fuel (← get).line
    expect "in" (isWord "in")
    let source ← operand fuel .either
    let condition ← optionalCondition fuel
    let isRecursive ← skipWord "recursive"
    let inside ← body fuel ["endfor", "else"]
    if ← skipWord "else" then
      let otherwise ← body fuel ["endfor"]
      let _ ← next
      return .loop t source condition isRecursive inside otherwise
    else
      let _ ← next
      return .loop t source condition isRecursive inside []

/-- The condition of a loop, if it has one. -/
def optionalCondition : (fuel : Nat) → Parser (Option Expr)
  | 0 => fail .tooDeep
  | fuel + 1 => do
    if ← skipWord "if" then return some (← expr fuel) else return none

/-- What follows `if` or `elif`. -/
def conditional : (fuel : Nat) → Parser Statement
  | 0 => fail .tooDeep
  | fuel + 1 => do
    let condition ← expr fuel
    let yes ← body fuel ["endif", "else", "elif"]
    let token ← next
    if isWord "else" token then
      let no ← body fuel ["endif"]
      let _ ← next
      return .conditional condition yes no
    else if isWord "elif" token then
      let no ← conditional fuel
      return .conditional condition yes [no]
    else return .conditional condition yes []

/-- What follows `set`. -/
def assignment : (fuel : Nat) → Parser Statement
  | 0 => fail .tooDeep
  | fuel + 1 => do
    let inParens := isSign .openParen (← peek)
    let t ← targets true fuel (← nextLine)
    let token ← peek
    if !inParens && endsStatement token then
      let inside ← body fuel ["endset"]
      let _ ← next
      return .capture t [] inside
    else if !inParens && isSign .pipe token then
      let _ ← next
      let chain ← filterChain fuel true
      let inside ← body fuel ["endset"]
      let _ ← next
      return .capture t chain inside
    else
      expectAssign
      return .assign t (← assigned fuel)

/-- What follows `block`. -/
def block : (fuel : Nat) → Parser Statement
  | 0 => fail .tooDeep
  | fuel + 1 => do
    if (← get).inMacro then fail .blockInMacro
    let line := (← get).line
    let called ← name
    if (← get).blocks.contains called then fail (.repeatedBlock called)
    modify fun s => { s with blocks := called :: s.blocks }
    let isRequired ← skipWord "required"
    let inside ← body fuel ["endblock"]
    if isRequired && !inside.all Statement.isBlank then fail .requiredContent
    let _ ← next
    let shown := if isRequired then [.missing called line] else inside
    match ← peek with
    | some (.name s) =>
      if s != called then fail (.blockMismatch s called)
      let _ ← next
      return .block called shown line
    | _ => return .block called shown line

/-- The statements of a macro. -/
def macroBody : (fuel : Nat) → (ends : String) → Parser (List Statement)
  | 0, _ => fail .tooDeep
  | fuel + 1, ends => do
    let before ← get
    modify fun s => { s with inLoop := false, inMacro := true }
    let inside ← body fuel [ends]
    modify fun s => { s with inLoop := before.inLoop, inMacro := before.inMacro }
    let _ ← next
    return inside

/-- An expression that is a call. -/
def call : (fuel : Nat) → Parser Expr
  | 0 => fail .tooDeep
  | fuel + 1 => do
    match ← expr fuel with
    | .call callee args line => return .call callee args line
    | e => fail (.notCall e.title)

end

end Parser

namespace Document

mutual

/-- The blocks in a statement. -/
def blocksIn : Statement → List (String × List Statement)
  | .block name body _ => (name, body) :: blocksOf body
  | .loop _ _ _ _ body otherwise => blocksOf body ++ blocksOf otherwise
  | .conditional _ yes no => blocksOf yes ++ blocksOf no
  | .scoped _ body _ => blocksOf body
  | .capture _ _ body => blocksOf body
  | .escaping _ body => blocksOf body
  | .filtered _ body => blocksOf body
  | _ => []
  termination_by structural s => s

/-- The blocks in statements. -/
def blocksOf : List Statement → List (String × List Statement)
  | [] => []
  | s :: rest => blocksIn s ++ blocksOf rest
  termination_by structural ss => ss

end

/-- Reads a template. -/
def ofText (s : String) : Except Fault Document := do
  let l := Lexemes.ofText s
  let fuel := 32 * (l.words.length + 16)
  let (found, _) ← (Parser.statements fuel []).run { rest := l.words, fault := l.fault }
  return ⟨found, blocksOf found⟩

end Document
end Stencil.Template
