import Stencil.Pattern.Flaw
import Stencil.Pattern.Node
import Stencil.Text.Pieces

/-! Reading patterns.

The reader goes through the characters of a pattern once and notes a flaw at the first place that
cannot be read. Flags hold from where they are set to the end of the group around them. Some
flaws concern the meaning of a part that can be read; they come second, so the first of them is
kept aside until the end of the pattern. `fuel` bounds the number of parts and is the length of
the pattern, each part having a character of its own. -/
namespace Stencil.Pattern

/-- What can be switched in a pattern. -/
structure Flags where
  ignoreCase : Bool := false
  manyLines : Bool := false
  dotAll : Bool := false
  swapGreed : Bool := false
  unicode : Bool := true
  crlf : Bool := false
  spaced : Bool := false
  deriving DecidableEq, Repr

/-- How far a pattern is read. -/
structure Reading where
  pos : Nat := 0
  flags : Flags := {}
  groups : Nat := 0
  names : List (String × Nat × Span) := []
  late : Option Flaw := none
  deriving Repr

/-- Reads from the characters of a pattern. -/
abbrev Reader := ReaderT (Array Char) (StateT Reading (Except Flaw))

namespace Reader

/-! ### Characters -/

/-- The character at the place of the reader, or a space behind the end. -/
def current : Reader Char := do return (← read).getD (← get).pos ' '

/-- The reader is behind the end. -/
def atEnd : Reader Bool := do return (← get).pos ≥ (← read).size

/-- The place of the reader. -/
def place : Reader Nat := do return (← get).pos

/-- The character behind the current one. -/
def peek : Reader (Option Char) := do return (← read)[(← get).pos + 1]?

/-- Goes on by one character; says whether there is another one. -/
def advance : Reader Bool := do
  if ← atEnd then return false
  modify fun r => { r with pos := r.pos + 1 }
  return !(← atEnd)

/-- The place behind blanks and comments, from `pos` on. -/
def skipSpace (source : Array Char) : (fuel : Nat) → (comment : Bool) → (pos : Nat) → Nat
  | 0, _, pos => pos
  | fuel + 1, comment, pos =>
    match source[pos]? with
    | none => pos
    | some c =>
      if comment then skipSpace source fuel (c != '\n') (pos + 1)
      else if Text.isBlank c then skipSpace source fuel false (pos + 1)
      else if c == '#' then skipSpace source fuel true (pos + 1)
      else pos

/-- Passes over blanks and comments, where they are ignored. -/
def pastSpace : Reader Unit := do
  if (← get).flags.spaced then
    let source ← read
    modify fun r => { r with pos := skipSpace source (source.size + 1) false r.pos }

/-- Goes on by one character and passes over blanks; says whether there is another one. -/
def advancePastSpace : Reader Bool := do
  if !(← advance) then return false
  pastSpace
  return !(← atEnd)

/-- The character behind the current one and blanks. -/
def peekPastSpace : Reader (Option Char) := do
  let source ← read
  let r ← get
  if r.flags.spaced then return source[skipSpace source (source.size + 1) false (r.pos + 1)]?
  else return source[r.pos + 1]?

/-- Passes over a text if it stands here. -/
def take? (s : String) : Reader Bool := do
  let source ← read
  let r ← get
  let n := s.length
  if (source.extract r.pos (r.pos + n)).toList == s.toList then
    set { r with pos := r.pos + n }
    return true
  else return false

/-- Passes over the first of several texts that stands here. -/
def takeAny? : List String → Reader Bool
  | [] => return false
  | s :: rest => do
    if ← take? s then return true
    takeAny? rest

/-! ### Flaws -/

/-- Ends the reading at a span. -/
def refuse {α : Type} (kind : FlawKind) (start stop : Nat) : Reader α :=
  throw ⟨kind, ⟨start, stop⟩, none⟩

/-- Ends the reading at the current character. -/
def refuseHere {α : Type} (kind : FlawKind) : Reader α := do
  let p ← place
  refuse kind p (p + 1)

/-- Notes a flaw for the end of the pattern. -/
def noteLate (kind : FlawKind) (start : Nat) : Reader Unit := do
  let stop ← place
  modify fun r => { r with late := r.late <|> some ⟨kind, ⟨start, stop⟩, none⟩ }

/-! ### Numbers and escapes -/

/-- What an escape or a single character stands for. -/
inductive Part where
  | literal (c : Char)
  | byte (c : Char)
  | set (s : CharSet)
  | condition (l : Look)
  | dot

/-- Passes over characters as long as they satisfy `p`, and collects them. -/
def collect (p : Char → Bool) (step : Reader Bool) : (fuel : Nat) → Reader (List Char)
  | 0 => return []
  | fuel + 1 => do
    if ← atEnd then return []
    let c ← current
    if p c then
      let _ ← step
      return c :: (← collect p step fuel)
    else return []

/-- A bound on the number of characters. -/
def bound : Reader Nat := do return (← read).size + 1

/-- A decimal number. -/
def decimal : Reader Nat := do
  let n ← bound
  let _ ← collect Text.isBlank advance n
  let start ← place
  let digits ← collect Char.isDigit advancePastSpace n
  let stop ← place
  let _ ← collect Text.isBlank advancePastSpace n
  if digits.isEmpty then refuse .countEmpty start stop
  else
    let value := digits.foldl (fun v c => v * 10 + (c.toNat - '0'.toNat)) 0
    if value < Nat.pow 2 32 then return value else refuse .decimalInvalid start stop

/-- A digit of base sixteen. -/
def isHex (c : Char) : Bool := c.isDigit || ('a' ≤ c && c ≤ 'f') || ('A' ≤ c && c ≤ 'F')

/-- The value of a digit of base sixteen. -/
def hexValue (c : Char) : Nat :=
  if c.isDigit then c.toNat - '0'.toNat
  else if 'a' ≤ c && c ≤ 'f' then c.toNat - 'a'.toNat + 10
  else c.toNat - 'A'.toNat + 10

/-- The character with a number, if there is one. -/
def charOf? (n : Nat) : Option Char :=
  if h : n.isValidChar then some (Char.ofNatAux n h) else none

/-- The character that digits of base sixteen name. -/
def hexChar (digits : List Char) (start stop : Nat) : Reader Char :=
  match charOf? (digits.foldl (fun v c => v * 16 + hexValue c) 0) with
  | some c => return c
  | none => refuse .hexInvalid start stop

/-- A fixed number of digits of base sixteen; `first` says that none has been read. -/
def hexDigits : (count : Nat) → (first : Bool) → Reader (List Char)
  | 0, _ => return []
  | count + 1, first => do
    if !first then
      if !(← advancePastSpace) then
        let p ← place
        refuse .escapeCut p p
    let c ← current
    if !isHex c then refuseHere .hexDigit
    return c :: (← hexDigits count false)

/-- The digits of base sixteen up to a closing brace. -/
def hexUntilBrace : (fuel : Nat) → Reader (List Char)
  | 0 => return []
  | fuel + 1 => do
    if !(← advancePastSpace) then return []
    let c ← current
    if c == '\x7d' then return []
    if !isHex c then refuseHere .hexDigit
    return c :: (← hexUntilBrace fuel)

/-- A character by its number, behind the letter that says how long the number is. -/
def hexEscape : Reader Part := do
  let letter ← current
  if !(← advancePastSpace) then
    let p ← place
    refuse .escapeCut p p
  if (← current) == '\x7b' then
    let brace ← place
    let digits ← hexUntilBrace (← bound)
    if ← atEnd then refuse .escapeCut brace (← place)
    let stop ← place
    let _ ← advancePastSpace
    if digits.isEmpty then refuse .hexEmpty brace (← place)
    let c ← hexChar digits (brace + 1) stop
    return .literal c
  else
    let start ← place
    let digits ← hexDigits (if letter == 'x' then 2 else if letter == 'u' then 4 else 8) true
    let _ ← advancePastSpace
    let c ← hexChar digits start (← place)
    return if letter == 'x' then .byte c else .literal c

/-- A set, in either case if case is ignored, and negated. -/
def finished (negated : Bool) (s : CharSet) : Reader CharSet := do
  let flags := (← get).flags
  let s := if flags.ignoreCase then (if flags.unicode then s.folded else s.foldedAscii) else s
  return s.negatedIf negated

/-- The characters up to a closing brace. -/
def untilBrace : (fuel : Nat) → Reader (List Char)
  | 0 => return []
  | fuel + 1 => do
    if !(← advancePastSpace) then return []
    let c ← current
    if c == '\x7d' then return []
    return c :: (← untilBrace fuel)

/-- The set of a property, for a name that may hold a value. -/
def propertySet (name : List Char) : Except FlawKind (Bool × CharSet) :=
  let valued := fun (negated : Bool) (property value : List Char) =>
    match propertyKind? (String.ofList property) with
    | none => Except.error FlawKind.propertyUnknown
    | some kind =>
      match kind.valued? (String.ofList value) with
      | some s => .ok (negated, s)
      | none => .error .propertyValueUnknown
  match Text.cut? ['!', '='] name with
  | some (property, value) => valued true property value
  | none =>
    match Text.cut? [':'] name, Text.cut? ['='] name with
    | some (property, value), _ => valued false property value
    | none, some (property, value) => valued false property value
    | none, none =>
      match named? (String.ofList name) with
      | some s => .ok (false, s)
      | none => .error .propertyUnknown

/-- A set of characters by a property, behind the backslash at `start`. -/
def property (start : Nat) : Reader Part := do
  let negated := (← current) == 'P'
  if !(← advancePastSpace) then
    let p ← place
    refuse .escapeCut p p
  let name ←
    if (← current) == '\x7b' then do
      let name ← untilBrace (← bound)
      if ← atEnd then
        let p ← place
        refuse .escapeCut p p
      let _ ← advance
      pure name
    else do
      let c ← current
      if c == '\\' then refuseHere .propertyInvalid
      let _ ← advancePastSpace
      pure [c]
  if !(← get).flags.unicode then
    noteLate .unicodeNotAllowed start
    return .set .empty
  match propertySet name with
  | .error kind =>
    noteLate kind start
    return .set .empty
  | .ok (other, s) => return .set (← finished (negated != other) s)

/-- A set with a letter of its own. -/
def lettered (start : Nat) (c : Char) : Reader Part := do
  let _ ← advance
  let unicode := (← get).flags.unicode
  let s :=
    match c.toLower with
    | 'd' => if unicode then CharSet.digit else .ascii Char.isDigit
    | 's' => if unicode then .space else .ascii CharSet.isAsciiSpace
    | _ => if unicode then .word else .ascii CharSet.isAsciiWordChar
  if !unicode && c.isUpper then noteLate .notUtf8 start
  return .set (s.negatedIf c.isUpper)

/-- A named boundary of a word behind `\b`, or none if a counted repetition stands there. -/
def namedBoundary (start : Nat) : Reader (Option Look) := do
  let isNameChar := fun c : Char => c.isAlpha || c == '-'
  let brace ← place
  if !(← advancePastSpace) then refuse .boundaryCut start (← place)
  let inside ← place
  if !isNameChar (← current) then
    modify fun r => { r with pos := brace }
    return none
  let name ← collect isNameChar advancePastSpace (← bound)
  if (← atEnd) || (← current) != '\x7d' then refuse .boundaryUnclosed brace (← place)
  let stop ← place
  let _ ← advance
  let ascii := !(← get).flags.unicode
  match String.ofList name with
  | "start" => return some (.wordStart ascii)
  | "end" => return some (.wordEnd ascii)
  | "start-half" => return some (.wordStartHalf ascii)
  | "end-half" => return some (.wordEndHalf ascii)
  | _ => refuse .boundaryUnknown inside stop

/-- Signs that mean something in a pattern. -/
def isMeta (c : Char) : Bool := "\\.+*?()|[]\x7b\x7d^$#&-~".toList.contains c

/-- What a backslash and what follows it stand for. -/
def escape : Reader Part := do
  let start ← place
  if !(← advance) then refuse .escapeCut start (← place)
  let c ← current
  if c.isDigit then refuse .backreference start ((← place) + 1)
  if c == 'x' || c == 'u' || c == 'U' then return ← hexEscape
  if c == 'p' || c == 'P' then return ← property start
  if "dswDSW".toList.contains c then return ← lettered start c
  let _ ← advance
  let ascii := !(← get).flags.unicode
  if isMeta c || (c.toNat < 128 && !c.isAlphanum && c != '<' && c != '>') then return .literal c
  match c with
  | 'a' => return .literal '\x07'
  | 'f' => return .literal '\x0c'
  | 't' => return .literal '\t'
  | 'n' => return .literal '\n'
  | 'r' => return .literal '\r'
  | 'v' => return .literal '\x0b'
  | 'A' => return .condition .textStart
  | 'z' => return .condition .textEnd
  | 'B' => return .condition (.notBoundary ascii)
  | '<' => return .condition (.wordStart ascii)
  | '>' => return .condition (.wordEnd ascii)
  | 'b' =>
    if !(← atEnd) && (← current) == '\x7b' then
      match ← namedBoundary start with
      | some l => return .condition l
      | none => return .condition (.boundary ascii)
    else return .condition (.boundary ascii)
  | _ => refuse .escapeUnknown start (← place)

/-! ### Sets in brackets -/

/-- A single character or an escape inside brackets. -/
def bracketPart : Reader Part := do
  let c ← current
  if c == '\\' then escape
  else
    let _ ← advance
    return .literal c

/-- The set of a part inside brackets. -/
def partSet (start : Nat) : Part → Reader CharSet
  | .literal c => do
    if !(← get).flags.unicode && c.toNat ≥ 128 then noteLate .unicodeNotAllowed start
    return .one c
  | .byte c => do
    if !(← get).flags.unicode && c.toNat ≥ 128 then noteLate .notUtf8 start
    return .one c
  | .set s => return s
  | .condition _ | .dot => do refuse .classEscape start (← place)

/-- The character of a part that is an end of a range. -/
def rangeEnd (start stop : Nat) : Part → Reader Char
  | .literal c | .byte c => return c
  | .set _ | .condition _ | .dot => refuse .classRangeEnd start stop

/-- A range, a character or an escape inside the brackets that were opened as `opened`. -/
def bracketRange (opened : Span) : Reader CharSet := do
  let start ← place
  let first ← bracketPart
  let stop ← place
  pastSpace
  if ← atEnd then refuse .classUnclosed opened.start opened.stop
  let next ← peekPastSpace
  if (← current) != '-' || next == some ']' || next == some '-' then
    let here ← place
    modify fun r => { r with pos := stop }
    let s ← partSet start first
    modify fun r => { r with pos := here }
    return s
  if !(← advancePastSpace) then refuse .classUnclosed opened.start opened.stop
  let second ← place
  let last ← bracketPart
  let low ← rangeEnd start stop first
  let high ← rangeEnd second (← place) last
  if low.toNat > high.toNat then refuse .classRange start (← place)
  if !(← get).flags.unicode && high.toNat ≥ 128 then noteLate .unicodeNotAllowed start
  return .range low high

/-- A named ASCII set such as `[:alpha:]`, if one stands here. -/
def asciiSet? : Reader (Option CharSet) := do
  let start ← get
  let giveUp : Reader (Option CharSet) := do
    set start
    return none
  if !(← advance) || (← current) != ':' then return ← giveUp
  if !(← advance) then return ← giveUp
  let negated := (← current) == '^'
  if negated then
    if !(← advance) then return ← giveUp
  let name ← collect (· != ':') advance (← bound)
  if !(← take? ":]") then return ← giveUp
  match CharSet.asciiNamed? (String.ofList name) with
  | none => giveUp
  | some s =>
    if negated && !(← get).flags.unicode then noteLate .notUtf8 start.pos
    return some (← finished negated s)

/-- Operators between sets. -/
inductive SetOperator where
  | inter
  | diff
  | symmDiff

/-- What an operator makes of two sets. -/
def SetOperator.apply : SetOperator → CharSet → CharSet → CharSet
  | .inter => .inter
  | .diff => .diff
  | .symmDiff => .symmDiff

/-- The set that is left of an operator: what came before it, put together. -/
def operand (left : Option (SetOperator × CharSet)) (s : CharSet) : Reader CharSet := do
  match left with
  | none => return s
  | some (op, before) => return op.apply (← finished false before) (← finished false s)

/-- Hyphens at the start of brackets. -/
def leadingHyphens (start : Nat) (s : CharSet) (found : Bool) : (fuel : Nat) → Reader (CharSet × Bool)
  | 0 => return (s, found)
  | fuel + 1 => do
    if (← current) == '-' then
      if !(← advancePastSpace) then refuse .classUnclosed start start
      leadingHyphens start (s.union (.one '-')) true fuel
    else return (s, found)

/-- An opening bracket with what has a meaning of its own there: whether the set is negated, its
first characters, and the span of the opening. -/
def bracketOpening : Reader (Bool × CharSet × Span) := do
  let start ← place
  if !(← advancePastSpace) then refuse .classUnclosed start (← place)
  let negated := (← current) == '^'
  if negated then
    if !(← advancePastSpace) then refuse .classUnclosed start (← place)
  let (s, found) ← leadingHyphens start .empty false (← bound)
  if !found && (← current) == ']' then
    if !(← advancePastSpace) then refuse .classUnclosed start (← place)
    return (negated, s.union (.one ']'), ⟨start, ← place⟩)
  return (negated, s, ⟨start, ← place⟩)

/-- What stands inside brackets up to the closing one. -/
def bracketItems (opened : Span) : (fuel : Nat) → (left : Option (SetOperator × CharSet)) →
    (s : CharSet) → Reader CharSet
  | 0, _, s => return s
  | fuel + 1, left, s => do
    pastSpace
    if ← atEnd then refuse .classUnclosed opened.start opened.stop
    let c ← current
    let next ← peek
    if c == '[' then
      match ← asciiSet? with
      | some t => bracketItems opened fuel left (s.union t)
      | none =>
        let (negated, first, span) ← bracketOpening
        let inner ← bracketItems span fuel none first
        let t ← finished negated inner
        if negated && !(← get).flags.unicode then noteLate .notUtf8 span.start
        bracketItems opened fuel left (s.union t)
    else if c == ']' then
      let t ← operand left s
      let _ ← advance
      return t
    else if c == '&' && next == some '&' then
      let _ ← take? "&&"
      bracketItems opened fuel (some (.inter, ← operand left s)) .empty
    else if c == '-' && next == some '-' then
      let _ ← take? "--"
      bracketItems opened fuel (some (.diff, ← operand left s)) .empty
    else if c == '~' && next == some '~' then
      let _ ← take? "~~"
      bracketItems opened fuel (some (.symmDiff, ← operand left s)) .empty
    else
      let t ← bracketRange opened
      bracketItems opened fuel left (s.union t)

/-- A set in brackets. -/
def bracketed : Reader CharSet := do
  let (negated, first, span) ← bracketOpening
  let inner ← bracketItems span (← bound) none first
  let s ← finished negated inner
  if negated && !(← get).flags.unicode then noteLate .notUtf8 span.start
  return s

/-! ### Flags and groups -/

/-- The flags with the one of a letter set, if there is such a flag. -/
def Flags.put? (f : Flags) (c : Char) (on : Bool) : Option Flags :=
  match c with
  | 'i' => some { f with ignoreCase := on }
  | 'm' => some { f with manyLines := on }
  | 's' => some { f with dotAll := on }
  | 'U' => some { f with swapGreed := on }
  | 'u' => some { f with unicode := on }
  | 'R' => some { f with crlf := on }
  | 'x' => some { f with spaced := on }
  | _ => none

/-- Letters of flags up to a colon or a closing parenthesis: the flags they leave, and whether
there were any. `seen` holds the letters before with their places. -/
def flagLetters : (fuel : Nat) → (flags : Flags) → (on : Bool) → (seen : List (Char × Nat)) →
    Reader (Flags × Bool)
  | 0, flags, _, seen => return (flags, !seen.isEmpty)
  | fuel + 1, flags, on, seen => do
    let c ← current
    let here ← place
    if c == ':' || c == ')' then
      match seen with
      | ('-', p) :: _ => refuse .flagDangling p (p + 1)
      | _ => return (flags, !seen.isEmpty)
    else
      let twice (kind : FlawKind) : Reader Unit :=
        match seen.find? (·.1 == c) with
        | some (_, p) => throw ⟨kind, ⟨here, here + 1⟩, some ⟨p, p + 1⟩⟩
        | none => return
      let next ←
        if c == '-' then do
          twice .flagNegatedTwice
          pure (flags, false)
        else
          match Flags.put? flags c on with
          | none => refuse .flagUnknown here (here + 1)
          | some changed => do
            twice .flagTwice
            pure (changed, on)
      if !(← advance) then
        let p ← place
        refuse .flagCut p p
      flagLetters fuel next.1 next.2 ((c, here) :: seen)

/-- The name of a group. -/
def groupName (index : Nat) : Reader Unit := do
  if ← atEnd then
    let p ← place
    refuse .nameCut p p
  let start ← place
  let rec letters : (fuel : Nat) → Reader Unit
    | 0 => return
    | fuel + 1 => do
      if ← atEnd then return
      let c ← current
      if c == '>' then return
      let first := (← place) == start
      let good :=
        if first then c == '_' || Text.isAlphabetic c
        else c == '_' || c == '.' || c == '[' || c == ']' || Text.isAlphanumeric c
      if !good then refuseHere .nameInvalid
      let _ ← advance
      letters fuel
  letters (← bound)
  let stop ← place
  if ← atEnd then refuse .nameCut stop stop
  let _ ← advance
  if start == stop then refuse .nameEmpty start start
  let name := String.ofList ((← read).extract start stop).toList
  match (← get).names.find? (·.1 == name) with
  | some (_, _, other) => throw ⟨.nameTwice, ⟨start, stop⟩, some other⟩
  | none => modify fun r => { r with names := (name, index, ⟨start, stop⟩) :: r.names }

/-- What an opening parenthesis opens: a numbered group, a group without a number, or nothing but
a change of flags. -/
inductive Opening where
  | numbered (index : Nat)
  | plain
  | flagsOnly

/-- Reads from an opening parenthesis up to the content of the group. -/
def groupOpening : Reader Opening := do
  let start ← place
  let _ ← advance
  pastSpace
  if ← takeAny? ["?=", "?!", "?<=", "?<!"] then
    refuse .lookAround start (← place)
  let inside ← place
  let numbered : Reader Nat := do
    modify fun r => { r with groups := r.groups + 1 }
    return (← get).groups
  if ← takeAny? ["?P<", "?<"] then
    let index ← numbered
    groupName index
    return .numbered index
  else if ← take? "?" then
    if ← atEnd then refuse .groupUnclosed start (start + 1)
    let (flags, given) ← flagLetters (← bound) (← get).flags true []
    let c ← current
    let _ ← advance
    if c == ')' then
      if !given then refuse .nothingToRepeat inside inside
      modify fun r => { r with flags }
      return .flagsOnly
    else
      modify fun r => { r with flags }
      return .plain
  else
    return .numbered (← numbered)

/-! ### Patterns -/

/-- The node of a single character or an escape. -/
def partNode (start : Nat) : Part → Reader Node
  | .literal c => return .chars (← finished false (.one c))
  | .byte c => do
    if !(← get).flags.unicode && c.toNat ≥ 128 then noteLate .notUtf8 start
    return .chars (← finished false (.one c))
  | .set s => return .chars s
  | .condition l => return .look l
  | .dot => do
    let flags := (← get).flags
    if !flags.unicode then noteLate .notUtf8 start
    if flags.dotAll then return .chars ⟨fun _ => true, 10⟩
    else if flags.crlf then return .chars ⟨fun c => c != '\n' && c != '\r', 10⟩
    else return .chars ⟨fun c => c != '\n', 10⟩

/-- A single character or an escape outside of brackets. -/
def primitive : Reader Node := do
  let start ← place
  let c ← current
  let flags := (← get).flags
  if c == '\\' then
    let part ← escape
    partNode start part
  else
    let _ ← advance
    if c == '.' then partNode start .dot
    else if c == '^' then
      return .look (if flags.manyLines then (if flags.crlf then .lineStartCrlf else .lineStart)
        else .textStart)
    else if c == '$' then
      return .look (if flags.manyLines then (if flags.crlf then .lineEndCrlf else .lineEnd)
        else .textEnd)
    else partNode start (.literal c)

/-- The node that an operator repeats: the last one, if it can be repeated. -/
def repeated (items : List (Option Node)) : Reader (Node × List (Option Node)) := do
  match items with
  | some n :: rest => return (n, rest)
  | _ => do
    let p ← place
    refuse .nothingToRepeat p p

/-- A repetition by one sign. -/
def signRepetition (items : List (Option Node)) : Reader (List (Option Node)) := do
  let (n, rest) ← repeated items
  let c ← current
  let lazy := (← advance) && (← current) == '?'
  if lazy then
    let _ ← advance
  let greedy := !lazy != (← get).flags.swapGreed
  let (least, most) : Nat × Option Nat :=
    if c == '?' then (0, some 1) else if c == '*' then (0, none) else (1, none)
  return some (.repetition least most greedy n) :: rest

/-- A repetition by numbers in braces. -/
def countRepetition (items : List (Option Node)) : Reader (List (Option Node)) := do
  let start ← place
  let (n, rest) ← repeated items
  if !(← advancePastSpace) then refuse .countUnclosed start (← place)
  let least ← decimal
  if ← atEnd then refuse .countUnclosed start (← place)
  let most ←
    if (← current) == ',' then do
      if !(← advancePastSpace) then refuse .countUnclosed start (← place)
      if (← current) != '\x7d' then
        let m ← decimal
        pure (some m)
      else pure none
    else pure (some least)
  if (← atEnd) || (← current) != '\x7d' then refuse .countUnclosed start (← place)
  let lazy := (← advancePastSpace) && (← current) == '?'
  if lazy then
    let _ ← advance
  if most.any (· < least) then refuse .countOrder start (← place)
  let greedy := !lazy != (← get).flags.swapGreed
  return some (.repetition least most greedy n) :: rest

/-- Nodes in a row, given last first. -/
def inRow (items : List (Option Node)) : Node :=
  items.foldl (fun after n =>
    match n, after with
    | none, _ => after
    | some n, .empty => n
    | some n, _ => .seq n after) .empty

/-- The branches before this one, and this one. -/
def withBranch (done : List Node) (items : List (Option Node)) : List Node := inRow items :: done

/-- Branches, given last first. -/
def branches : List Node → Node
  | [] => .empty
  | n :: rest => rest.foldl (fun after b => .alt b after) n

/-- Reads up to the end of the group that was opened at `opened`, or of the pattern. -/
def body (opened : Option Nat) : (fuel : Nat) → (done : List Node) →
    (items : List (Option Node)) → Reader Node
  | 0, done, items => return branches (withBranch done items)
  | fuel + 1, done, items => do
    pastSpace
    if ← atEnd then
      match opened with
      | some start => refuse .groupUnclosed start (start + 1)
      | none => return branches (withBranch done items)
    let c ← current
    match c with
    | '(' =>
      let start ← place
      let flags := (← get).flags
      match ← groupOpening with
      | .flagsOnly => body opened fuel done (none :: items)
      | .plain =>
        let n ← body (some start) fuel [] []
        modify fun r => { r with flags }
        body opened fuel done (some n :: items)
      | .numbered index =>
        let n ← body (some start) fuel [] []
        modify fun r => { r with flags }
        body opened fuel done (some (.capture index n) :: items)
    | ')' =>
      match opened with
      | none => refuseHere .groupUnopened
      | some _ =>
        let _ ← advance
        return branches (withBranch done items)
    | '|' =>
      let _ ← advance
      body opened fuel (withBranch done items) []
    | '[' =>
      let s ← bracketed
      body opened fuel done (some (.chars s) :: items)
    | '?' | '*' | '+' => body opened fuel done (← signRepetition items)
    | '\x7b' => body opened fuel done (← countRepetition items)
    | _ => body opened fuel done (some (← primitive) :: items)

end Reader

/-- A pattern that has been read: its tree, the number of its groups, and their names. -/
structure Parsed where
  node : Node
  groups : Nat
  names : List (String × Nat)

/-- Reads a pattern. -/
def parse (pattern : String) : Except Flaw Parsed := do
  let source := pattern.toList.toArray
  let (node, r) ← ((Reader.body none (source.size + 1) [] []).run source).run {}
  match r.late with
  | some flaw => throw flaw
  | none => return ⟨node, r.groups, r.names.map fun (name, index, _) => (name, index)⟩

end Stencil.Pattern
