import Stencil.Shell.Tree

/-! Reading shell commands.

Commands are read one line at a time, so that those before a line that cannot be read still run.
The text of a here-document follows the line that asks for it. `fuel` bounds the depth of the
reading; every level of it has a character of its own. -/
namespace Stencil.Shell

/-- A here-document whose text is still to come. -/
structure Awaited where
  id : Nat
  ending : Chars
  stripTabs : Bool
  literal : Bool

/-- How far a text is read. -/
structure Reading where
  rest : Chars
  awaited : List Awaited := []
  documents : Documents := []
  next : Nat := 0

/-- A reader fails on a text that is no command. -/
abbrev Reader := StateT Reading Option

namespace Reader

/-- The next character. -/
def peek : Reader (Option Char) := do return (← get).rest.head?

/-- Passes over `n` characters. -/
def drop (n : Nat) : Reader Unit := modify fun r => { r with rest := r.rest.drop n }

/-- Passes over a text if it stands here. -/
def take? (s : String) : Reader Bool := do
  let r ← get
  if s.toList.isPrefixOf r.rest then
    set { r with rest := r.rest.drop s.length }
    return true
  else return false

/-- Passes over blanks, continued lines and comments. -/
def blanks : Reader Unit := modify fun r => { r with rest := go r.rest }
where
  /-- The text behind blanks. -/
  go : Chars → Chars
    | ' ' :: rest => go rest
    | '\t' :: rest => go rest
    | '\\' :: '\n' :: rest => go rest
    | '#' :: rest => rest.dropWhile (· != '\n')
    | rest => rest

/-- A character that ends a word. -/
def endsWord (c : Char) : Bool := " \t\n;&|<>()".toList.contains c

/-- A character of a name. -/
def isNameChar (c : Char) : Bool := c.isAlphanum || c == '_'

/-- A name of a variable. -/
def isName (cs : Chars) : Bool :=
  cs.head?.any (fun c => c.isAlpha || c == '_') && cs.all isNameChar

/-- A parameter that is spelled with one sign. -/
def isSpecialName (c : Char) : Bool := "*@#?-$!".toList.contains c || c.isDigit

/-- Takes characters as long as they satisfy `p`. -/
def span (p : Char → Bool) : Reader Chars := do
  let r ← get
  set { r with rest := r.rest.dropWhile p }
  return r.rest.takeWhile p

/-- Characters inside backquotes, up to the closing one, and what follows it. -/
def backquoted : Chars → Option (Chars × Chars)
  | [] => none
  | '\x60' :: rest => some ([], rest)
  | '\\' :: c :: rest =>
    (backquoted rest).map fun (inside, after) =>
      if c == '\x60' || c == '\\' || c == '$' then (c :: inside, after)
      else ('\\' :: c :: inside, after)
  | c :: rest => (backquoted rest).map fun (inside, after) => (c :: inside, after)

/-- The words that mean something at the start of a command. -/
def reserved : List String :=
  ["if", "then", "elif", "else", "fi", "while", "until", "do", "done", "for", "in", "case", "esac",
    "\x7b", "\x7d", "!"]

/-- The reserved word that stands here, if there is one. -/
def reservedHere : Reader (Option String) := do
  blanks
  let r ← get
  let w := String.ofList (r.rest.takeWhile fun c => !endsWord c)
  return if reserved.contains w then some w else none

/-- Passes over a reserved word. -/
def keyword (w : String) : Reader Unit := do
  if (← reservedHere) == some w then drop w.length else failure

/-- The lines up to the one that ends a here-document, and what follows it. -/
def hereLines (a : Awaited) : (fuel : Nat) → Chars → Chars × Chars
  | 0, rest => ([], rest)
  | _ + 1, [] => ([], [])
  | fuel + 1, rest =>
    let line := rest.takeWhile (· != '\n')
    let after := (rest.dropWhile (· != '\n')).drop 1
    let line := if a.stripTabs then line.dropWhile (· == '\t') else line
    if line == a.ending then ([], after)
    else
      let (more, behind) := hereLines a fuel after
      (line ++ '\n' :: more, behind)

/-- Notes that the text of a here-document will follow. -/
def awaitText (stripTabs : Bool) (w : Word) : Reader Nat := do
  let text := w.flatMap fun part => match part with
    | .literal t _ => t
    | _ => []
  let quoted := w.any fun part => match part with
    | .literal _ q => q
    | _ => false
  let r ← get
  set { r with
    next := r.next + 1
    awaited := r.awaited ++ [Awaited.mk r.next text stripTabs quoted] }
  return r.next

/-- Where parts of a word stand: inside `$((…))` with some open parentheses, inside a parameter's
braces, between double quotes, or in a here-document. -/
inductive Surrounding where
  | arithmetic (depth : Nat)
  | brace (quoted : Bool)
  | double
  | here
  deriving Repr

namespace Surrounding

/-- Whether characters here stand for themselves. -/
def isQuoted : Surrounding → Bool
  | .brace quoted => quoted
  | _ => true

/-- Whether a double quote opens a quoted part here. -/
def opensDouble : Surrounding → Bool
  | .brace _ => true
  | _ => false

/-- Whether the end of the text closes the surroundings. -/
def endsAtEnd : Surrounding → Bool
  | .here => true
  | _ => false

/-- How many characters close the surroundings here, if they do. -/
def closing (c : Char) (rest : Chars) : Surrounding → Option Nat
  | .arithmetic 0 => if c == ')' && rest.head? == some ')' then some 2 else none
  | .brace _ => if c == '\x7d' then some 1 else none
  | .double => if c == '"' then some 1 else none
  | _ => none

/-- The surroundings behind a character. -/
def past (c : Char) : Surrounding → Surrounding
  | .arithmetic depth =>
    .arithmetic (if c == '(' then depth + 1 else if c == ')' then depth - 1 else depth)
  | other => other

/-- Whether a backslash takes the meaning from a character. -/
def escapes (c : Char) (s : Surrounding) : Bool :=
  !s.isQuoted || "$\x60\\".toList.contains c ||
    match s with
    | .here => false
    | .brace _ => c == '"' || c == '\x7d'
    | _ => c == '"'

end Surrounding

/-- The sign behind the name of a parameter. -/
def parameterUse : Reader ParameterUse := do
  if ← take? "%%" then return .cutEnd true
  if ← take? "%" then return .cutEnd false
  if ← take? "##" then return .cutStart true
  if ← take? "#" then return .cutStart false
  let colon ← take? ":"
  if ← take? "-" then return .orElse colon
  if ← take? "=" then return .orAssign colon
  if ← take? "?" then return .orFail colon
  if ← take? "+" then return .ifSet colon
  failure

mutual

/-- What follows a dollar sign. -/
def dollar (quoted : Bool) : (fuel : Nat) → Reader Part
  | 0 => failure
  | fuel + 1 => do
    if ← take? "((" then
      let body ← quotedParts (.arithmetic 0) fuel
      return .arithmetic body quoted
    else if ← take? "(" then
      let body ← list fuel
      blanks
      if ← take? ")" then return .command body quoted else failure
    else if ← take? "\x7b" then
      let length ← do
        match (← get).rest with
        | '#' :: c :: _ => if c != '\x7d' then do drop 1; pure true else pure false
        | _ => pure false
      let name ← do
        match ← peek with
        | some c =>
          if isSpecialName c && !c.isDigit then do drop 1; pure [c]
          else span isNameChar
        | none => failure
      if name.isEmpty then failure
      if length then
        let _ ← quotedParts (.brace quoted) fuel
        return .parameter name .length [] quoted
      if ← take? "\x7d" then return .parameter name .value [] quoted
      let use ← parameterUse
      let word ← quotedParts (.brace quoted) fuel
      return .parameter name use word quoted
    else
      match ← peek with
      | some c =>
        if isSpecialName c then
          drop 1
          return .parameter [c] .value [] quoted
        else
          let name ← span isNameChar
          if name.isEmpty then return .literal ['$'] quoted
          else return .parameter name .value [] quoted
      | none => return .literal ['$'] quoted

/-- Parts up to what ends the surroundings, which is passed over. -/
def quotedParts (around : Surrounding) : (fuel : Nat) → Reader (List Part)
  | 0 => failure
  | fuel + 1 => do
    let quoted := around.isQuoted
    match (← get).rest with
    | [] => if around.endsAtEnd then return [] else failure
    | c :: rest =>
      match around.closing c rest with
      | some n => do drop n; return []
      | none =>
        let around := around.past c
        if c == '\\' then
          match rest with
          | [] => failure
          | '\n' :: _ => do
            drop 2
            quotedParts around fuel
          | d :: _ => do
            drop 2
            let part :=
              if around.escapes d then Part.literal [d] true else .literal ['\\', d] true
            return part :: (← quotedParts around fuel)
        else if c == '$' then do
          drop 1
          let part ← dollar quoted fuel
          return part :: (← quotedParts around fuel)
        else if c == '\x60' then do
          let part ← backquotes quoted fuel
          return part :: (← quotedParts around fuel)
        else if c == '"' && around.opensDouble then do
          drop 1
          let parts ← quotedParts .double fuel
          return .literal [] true :: parts ++ (← quotedParts around fuel)
        else if c == '\'' && !quoted then do
          drop 1
          let text ← span (· != '\'')
          if !(← take? "'") then failure
          return .literal text true :: (← quotedParts around fuel)
        else do
          drop 1
          return .literal [c] quoted :: (← quotedParts around fuel)

/-- A command in backquotes. -/
def backquotes (quoted : Bool) : (fuel : Nat) → Reader Part
  | 0 => failure
  | fuel + 1 => do
    drop 1
    let r ← get
    match backquoted r.rest with
    | none => failure
    | some (inside, after) =>
      set { r with rest := inside }
      let body ← list fuel
      blanks
      if !(← get).rest.isEmpty then failure
      modify fun s => { s with rest := after }
      return .command body quoted

/-- A word, which ends before a blank or an operator. -/
def word : (fuel : Nat) → Reader Word
  | 0 => failure
  | fuel + 1 => do
    match (← get).rest with
    | [] => return []
    | c :: rest =>
      if endsWord c then return []
      else if c == '\\' then
        match rest with
        | [] => do
          drop 1
          return [.literal ['\\'] true]
        | '\n' :: _ => do
          drop 2
          word fuel
        | d :: _ => do
          drop 2
          return .literal [d] true :: (← word fuel)
      else if c == '\'' then do
        drop 1
        let text ← span (· != '\'')
        if !(← take? "'") then failure
        return .literal text true :: (← word fuel)
      else if c == '"' then do
        drop 1
        let parts ← quotedParts .double fuel
        return .literal [] true :: parts ++ (← word fuel)
      else if c == '$' then do
        drop 1
        let part ← dollar false fuel
        return part :: (← word fuel)
      else if c == '\x60' then do
        let part ← backquotes false fuel
        return part :: (← word fuel)
      else do
        drop 1
        return .literal [c] false :: (← word fuel)

/-- A redirection, if one stands here. -/
def redirect? : (fuel : Nat) → Reader (Option Redirect)
  | 0 => failure
  | fuel + 1 => do
    blanks
    let start ← get
    let digits ← span Char.isDigit
    let stream? : Option Nat :=
      if digits.length == 1 then digits.head?.map (fun c => c.toNat - '0'.toNat) else none
    let plain := digits.isEmpty
    if !plain && stream?.isNone then
      set start
      return none
    let target : Reader Word := do
      blanks
      let w ← word fuel
      if w.isEmpty then failure else return w
    if ← take? "<<-" then return some (.mk (stream?.getD 0) (.here (← awaitText true (← target))) [])
    else if ← take? "<<" then
      return some (.mk (stream?.getD 0) (.here (← awaitText false (← target))) [])
    else if ← take? "<&" then return some (.mk (stream?.getD 0) .duplicate (← target))
    else if ← take? "<" then return some (.mk (stream?.getD 0) .input (← target))
    else if ← take? ">>" then return some (.mk (stream?.getD 1) .append (← target))
    else if ← take? ">&" then return some (.mk (stream?.getD 1) .duplicate (← target))
    else if ← take? ">|" then return some (.mk (stream?.getD 1) .output (← target))
    else if ← take? ">" then return some (.mk (stream?.getD 1) .output (← target))
    else
      set start
      return none

/-- Redirections behind a compound command. -/
def redirects : (fuel : Nat) → Reader (List Redirect)
  | 0 => failure
  | fuel + 1 => do
    match ← redirect? fuel with
    | some r => return r :: (← redirects fuel)
    | none => return []

/-- Assignments, words and redirections of a simple command. -/
def simple : (fuel : Nat) → (assignments : List (Chars × Word)) → (words : List Word) →
    (given : List Redirect) → Reader Command
  | 0, _, _, _ => failure
  | fuel + 1, assignments, words, given => do
    match ← redirect? fuel with
    | some r => simple fuel assignments words (given ++ [r])
    | none =>
      blanks
      let r ← get
      let name := r.rest.takeWhile isNameChar
      let after := r.rest.drop name.length
      if words.isEmpty && isName name && after.head? == some '=' then
        drop (name.length + 1)
        let value ← word fuel
        simple fuel (assignments ++ [(name, value)]) words given
      else
        let before := (← get).rest
        let w ← word fuel
        if (← get).rest.length == before.length then return .simple assignments words given
        else if w.isEmpty then simple fuel assignments words given
        else simple fuel assignments (words ++ [w]) given

/-- A command that may be a part of a pipeline. -/
def command : (fuel : Nat) → Reader Command
  | 0 => failure
  | fuel + 1 => do
    match ← reservedHere with
    | some "if" =>
      drop 2
      let body ← conditional fuel
      match body with
      | .conditional c y n _ => return .conditional c y n (← redirects fuel)
      | other => return other
    | some "while" =>
      drop 5
      loop true fuel
    | some "until" =>
      drop 5
      loop false fuel
    | some "for" =>
      drop 3
      each fuel
    | some "case" =>
      drop 4
      choose fuel
    | some "\x7b" =>
      drop 1
      let body ← list fuel
      keyword "\x7d"
      if body.isEmpty then failure
      return .group body (← redirects fuel)
    | some _ => failure
    | none =>
      blanks
      if ← take? "(" then
        let body ← list fuel
        blanks
        if body.isEmpty || !(← take? ")") then failure
        return .subshell body (← redirects fuel)
      else
        let r ← get
        let name := r.rest.takeWhile isNameChar
        let after := blanks.go (r.rest.drop name.length)
        if isName name && after.head? == some '(' then
          set { r with rest := after.drop 1 }
          blanks
          if !(← take? ")") then failure
          newlines fuel
          return .define name (← command fuel)
        else
          match ← simple fuel [] [] [] with
          | .simple [] [] [] => failure
          | c => return c

/-- What follows `if` or `elif`. -/
def conditional : (fuel : Nat) → Reader Command
  | 0 => failure
  | fuel + 1 => do
    let condition ← list fuel
    keyword "then"
    let yes ← list fuel
    if condition.isEmpty || yes.isEmpty then failure
    match ← reservedHere with
    | some "elif" =>
      drop 4
      return .conditional condition yes [← conditional fuel] []
    | some "else" =>
      drop 4
      let no ← list fuel
      keyword "fi"
      if no.isEmpty then failure
      return .conditional condition yes no []
    | _ =>
      keyword "fi"
      return .conditional condition yes [] []

/-- What follows `while` or `until`. -/
def loop (whileTrue : Bool) : (fuel : Nat) → Reader Command
  | 0 => failure
  | fuel + 1 => do
    let condition ← list fuel
    keyword "do"
    let body ← list fuel
    keyword "done"
    if condition.isEmpty || body.isEmpty then failure
    return .loop whileTrue condition body (← redirects fuel)

/-- Words up to the end of a line or a semicolon. -/
def wordsUntilEnd : (fuel : Nat) → Reader (List Word)
  | 0 => failure
  | fuel + 1 => do
    blanks
    match ← peek with
    | some c =>
      if c == ';' || c == '\n' then return []
      let w ← word fuel
      if w.isEmpty then failure
      return w :: (← wordsUntilEnd fuel)
    | none => return []

/-- What follows `for`. -/
def each : (fuel : Nat) → Reader Command
  | 0 => failure
  | fuel + 1 => do
    blanks
    let name ← span isNameChar
    if !isName name then failure
    newlines fuel
    let words ←
      if (← reservedHere) == some "in" then do
        drop 2
        let ws ← wordsUntilEnd fuel
        pure (some ws)
      else pure none
    blanks
    let _ ← take? ";"
    newlines fuel
    keyword "do"
    let body ← list fuel
    keyword "done"
    if body.isEmpty then failure
    return .each name words body (← redirects fuel)

/-- What follows `case`. -/
def choose : (fuel : Nat) → Reader Command
  | 0 => failure
  | fuel + 1 => do
    blanks
    let subject ← word fuel
    newlines fuel
    keyword "in"
    let cases ← caseItems fuel
    keyword "esac"
    return .choose subject cases (← redirects fuel)

/-- The items of a `case`. -/
def caseItems : (fuel : Nat) → Reader (List (List Word × List Command))
  | 0 => failure
  | fuel + 1 => do
    newlines fuel
    if (← reservedHere) == some "esac" then return []
    let _ ← take? "("
    let patterns ← casePatterns fuel
    let body ← list fuel
    blanks
    if ← take? ";;" then return (patterns, body) :: (← caseItems fuel)
    else
      newlines fuel
      return [(patterns, body)]

/-- The patterns of an item, up to the closing parenthesis. -/
def casePatterns : (fuel : Nat) → Reader (List Word)
  | 0 => failure
  | fuel + 1 => do
    blanks
    let w ← word fuel
    if w.isEmpty then failure
    blanks
    if ← take? "|" then return w :: (← casePatterns fuel)
    else if ← take? ")" then return [w]
    else failure

/-- A pipeline. -/
def pipeline : (fuel : Nat) → Reader Command
  | 0 => failure
  | fuel + 1 => do
    let negated := (← reservedHere) == some "!"
    if negated then drop 1
    let stages ← stagesFrom fuel
    match stages with
    | [c] => if negated then return .pipeline true [c] else return c
    | _ => return .pipeline negated stages

/-- The stages of a pipeline. -/
def stagesFrom : (fuel : Nat) → Reader (List Command)
  | 0 => failure
  | fuel + 1 => do
    let c ← command fuel
    blanks
    let r ← get
    match r.rest with
    | '|' :: '|' :: _ => return [c]
    | '|' :: rest =>
      set { r with rest }
      newlines fuel
      return c :: (← stagesFrom fuel)
    | _ => return [c]

/-- Pipelines that depend on each other's success, behind a first one. -/
def chain (first : Command) : (fuel : Nat) → Reader Command
  | 0 => failure
  | fuel + 1 => do
    blanks
    if ← take? "&&" then
      newlines fuel
      let second ← pipeline fuel
      chain (.both first second) fuel
    else if ← take? "||" then
      newlines fuel
      let second ← pipeline fuel
      chain (.either first second) fuel
    else return first

/-- Passes over empty lines, and takes in the here-documents that have been asked for. -/
def newlines : (fuel : Nat) → Reader Unit
  | 0 => failure
  | fuel + 1 => do
    blanks
    if ← take? "\n" then
      documents (← get).awaited fuel
      newlines fuel

/-- Takes in here-documents. -/
def documents : List Awaited → (fuel : Nat) → Reader Unit
  | _, 0 => failure
  | [], _ => modify fun r => { r with awaited := [] }
  | a :: more, fuel + 1 => do
    let r ← get
    let (text, after) := hereLines a (r.rest.length + 1) r.rest
    let word ←
      if a.literal then pure [Part.literal text true]
      else do
        set { r with rest := text, awaited := [] }
        quotedParts .here fuel
    modify fun s => { s with rest := after, documents := (a.id, word) :: s.documents }
    documents more fuel

/-- The commands up to a closing sign, a reserved word or the end. -/
def list : (fuel : Nat) → Reader (List Command)
  | 0 => failure
  | fuel + 1 => do
    newlines fuel
    match (← get).rest with
    | [] => return []
    | ')' :: _ => return []
    | ';' :: ';' :: _ => return []
    | _ =>
      match ← reservedHere with
      | some w =>
        if ["then", "elif", "else", "fi", "do", "done", "esac", "in", "\x7d"].contains w then return []
        else item fuel
      | none => item fuel

/-- A command and those behind it. -/
def item : (fuel : Nat) → Reader (List Command)
  | 0 => failure
  | fuel + 1 => do
    let c ← chain (← pipeline fuel) fuel
    blanks
    match (← get).rest with
    | ';' :: ';' :: _ => return [c]
    | ';' :: rest => do
      modify fun r => { r with rest }
      return c :: (← list fuel)
    | '&' :: rest => do
      modify fun r => { r with rest }
      return .background c :: (← list fuel)
    | '\n' :: _ => return c :: (← list fuel)
    | _ => return [c]

end

/-- The commands of one line, up to its end. -/
def line : (fuel : Nat) → Reader (List Command)
  | 0 => failure
  | fuel + 1 => do
    let c ← chain (← pipeline fuel) fuel
    blanks
    let (c, goesOn) ← do
      match (← get).rest with
      | [] => pure (c, false)
      | '\n' :: _ => pure (c, false)
      | ';' :: _ => do drop 1; pure (c, true)
      | '&' :: _ => do drop 1; pure (Command.background c, true)
      | _ => failure
    if !goesOn then return [c]
    blanks
    match ← peek with
    | none => return [c]
    | some '\n' => return [c]
    | _ => return c :: (← line fuel)

end Reader

/-- Commands that were read, line by line, and whether all of the text is commands. -/
structure Script where
  lines : List (List Command)
  documents : Documents
  isWhole : Bool

namespace Script

/-- The lines of a script. -/
def readLines : (fuel : Nat) → Reading → Script
  | 0, r => ⟨[], r.documents, false⟩
  | fuel + 1, r =>
    let depth := 16 * (r.rest.length + 8)
    let read : Reader (List Command) := do
      Reader.newlines depth
      if (← get).rest.isEmpty then return []
      let commands ← Reader.line depth
      Reader.newlines depth
      return commands
    match read.run r with
    | none => ⟨[], r.documents, false⟩
    | some (commands, after) =>
      if after.rest.isEmpty then ⟨[commands], after.documents, true⟩
      else
        let more := readLines fuel after
        { more with lines := commands :: more.lines }

/-- A text's lines up to the first that cannot be read. Its here-documents are numbered from
`first` on. -/
def ofText (first : Nat) (text : Chars) : Script :=
  readLines (text.length + 1) ⟨text, [], [], first⟩

end Script
end Stencil.Shell
