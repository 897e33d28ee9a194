import Stencil.Shell.Session

/-! Running shell commands.

The stages of a pipeline run one after the other, each on what the one before it wrote; commands
that only read and write cannot tell. `fuel` bounds how deep commands, words and rounds of loops
are nested. -/
namespace Stencil.Shell

/-- Sets the status. -/
def setStatus (n : Nat) : Run Unit := modify fun s => { s with status := n }

/-- Ends the shell because of an error. -/
def fail (status : Nat) : Run α := do
  setStatus status
  throw (.exit status)

/-- Runs commands with a changed state of which only files, input and output are kept, and gives
their status. A kill goes through. -/
def isolated (change : Session → Session) (body : Run Unit) : Run Nat := do
  let s ← get
  let (result, after) := (body.run (change s)).run
  set { s with written := after.written, buffers := after.buffers, nextBuffer := after.nextBuffer }
  match result with
  | .ok () => return after.status
  | .error (.exit n) => return n
  | .error (.done n) => return n
  | .error (.killed n) => throw (.killed n)
  | .error _ => return 0

/-- Runs commands with the first stream led into a buffer of its own, and gives what they wrote. -/
def collected (body : Run Unit) : Run Chars := do
  let s ← get
  let id := s.nextBuffer
  let status ← isolated (fun s =>
    { s with
      nextBuffer := id + 1, buffers := (id, []) :: s.buffers, traps := []
      streams := (1, .buffer id) :: s.streams.filter (·.1 != 1) }) body
  modify fun s => { s with status }
  return ((← get).buffers.lookup id).getD []

/-- Runs commands with streams and input changed for the time. -/
def during (start : Run Bool) (body : Run Unit) : Run Unit := do
  let s ← get
  let restore : Run Unit := modify fun t =>
    { t with streams := s.streams, input := if t.input.length ≤ s.input.length then t.input else s.input }
  let restoreInput : Run Unit := modify fun t => { t with streams := s.streams, input := s.input }
  let fine ← start
  let changed := (← get).input.length != s.input.length
  let back := if changed then restoreInput else restore
  if fine then
    try body catch h => do
      back
      throw h
    back
  else
    back
    setStatus 2

/-- A field of the first line of its input, for each name; the last takes what is left. -/
def readFields : List Chars → Chars → List (Chars × Chars)
  | [], _ => []
  | [name], line => [(name, Text.trimEnds (fun c => c == ' ' || c == '\t') line)]
  | name :: names, line =>
    let line := line.dropWhile (fun c => c == ' ' || c == '\t')
    let field := line.takeWhile (fun c => c != ' ' && c != '\t')
    (name, field) :: readFields names (line.drop field.length)

/-- The directory that a path leads to. -/
def tidy (path : Chars) : Chars :=
  let pieces := (Text.split ['/'] none path).foldl (fun (done : List Chars) p =>
    if p.isEmpty || p == ['.'] then done
    else if p == ['.', '.'] then done.tail
    else p :: done) []
  '/' :: Text.joinWith ['/'] pieces.reverse

/-- Divides an argument at its first equals sign. -/
def assignment? (arg : Chars) : Option (Chars × Chars) :=
  let name := arg.takeWhile (· != '=')
  if name.length < arg.length && Reader.isName name then some (name, arg.drop (name.length + 1))
  else none

/-- Whether commands are looked for where utilities are. -/
def findsUtilities (s : Session) : Bool :=
  match s.value? "PATH".toList with
  | none => true
  | some path => (Text.split [':'] none path).any fun d =>
    let d := String.ofList (Text.trimEnd (· == '/') d)
    d == "/bin" || d == "/usr/bin"

/-- Options of `set`. -/
def setOptions (args : List Chars) : Run Unit := do
  match args with
  | [] => return
  | first :: rest =>
    match first with
    | ['-', '-'] => modify fun s => { s with arguments := rest }
    | sign :: letters =>
      if sign == '-' || sign == '+' then
        let on := sign == '-'
        let named := letters == ['o']
        let has (c : Char) (name : String) : Bool :=
          letters.contains c || (named && rest.head? == some name.toList)
        if has 'e' "errexit" then modify fun s => { s with stopsOnFailure := on }
        if has 'u' "nounset" then modify fun s => { s with needsValues := on }
        let more := if named then rest.tail else rest
        if !more.isEmpty then
          match more with
          | ['-', '-'] :: values => modify fun s => { s with arguments := values }
          | _ => modify fun s => { s with arguments := more }
      else modify fun s => { s with arguments := args }
    | [] => modify fun s => { s with arguments := args }

/-- The loops that `break` and `continue` name. -/
def loopCount (args : List Chars) : Nat :=
  match args with
  | n :: _ => max 1 (Decimal.natOfDigits (n.takeWhile Char.isDigit))
  | [] => 1

/-- The status that `exit` and `return` name. -/
def statusOf (args : List Chars) : Run Nat := do
  match args with
  | [] => return (← get).status
  | n :: _ =>
    if !n.isEmpty && n.all Char.isDigit then return Decimal.natOfDigits n % 256 else fail 2

/-- Runs a round of a loop, and tells whether the loop goes on. -/
def oneRound (body : Run Unit) : Run Bool :=
  try
    body
    return true
  catch
    | .leave n => do
      setStatus 0
      if n > 1 then throw (.leave (n - 1)) else return false
    | .next n => do
      setStatus 0
      if n > 1 then throw (.next (n - 1)) else return true
    | h => throw h

/-- Sets the variables that are given values. -/
def assignAll (args : List Chars) : Run Unit := do
  for arg in args do
    match assignment? arg with
    | some (name, value) => modify fun s => s.assign name value
    | none => pure ()
  setStatus 0

/-- Exports variables. -/
def exportAll (args : List Chars) : Run Unit := do
  assignAll args
  modify fun s => args.foldl (fun t a => t.mark (a.takeWhile (· != '='))) s

/-- Writes to the first stream. -/
def say (cs : Chars) : Run Unit := modify fun s => { s.write 1 cs with status := 0 }

/-- Runs a utility. -/
def external (name : String) (args : List Chars) : Run Unit := do
  let s ← get
  match Utility.run? s.supply name args with
  | some outcome =>
    set { s.write 1 outcome.output with
      status := outcome.status
      input := if ["cat", "wc", "tr", "sort", "head"].contains name then [] else s.input }
  | none => setStatus 127

mutual

/-- What a part of a word expands to. -/
def part : (fuel : Nat) → Part → Run (List Shard)
  | 0, _ => fail 2
  | fuel + 1, p => do
    match p with
    | .literal text quoted =>
      if quoted && text.isEmpty then return [.mark]
      else return text.map fun c => .glyph ⟨c, quoted, false⟩
    | .command body quoted =>
      let out ← collected (commands fuel body)
      let out := (out.reverse.dropWhile (· == '\n')).reverse
      return shards quoted (out.filter (· != '\x00'))
    | .arithmetic expression quoted =>
      let text := textOf (← word fuel expression)
      match Formula.ofText text with
      | none => fail 2
      | some f =>
        match (f.compute (fun name (s : Session) => s.value? name)
            (fun name value s => s.assign name value)).run (← get) with
        | some (n, s) => do
          set s
          return shards quoted (toString n).toList
        | none => fail 2
    | .parameter name use argument quoted =>
      let s ← get
      let isAll := name == ['@'] || name == ['*']
      let value? :=
        if isAll then (if s.arguments.isEmpty then none else some (Text.joinWith [' '] s.arguments))
        else s.special? name
      let known (colon : Bool) : Bool := match value? with
        | some v => !colon || !v.isEmpty
        | none => false
      let plain : Run (List Shard) := do
        if isAll && !(name == ['*'] && quoted) then
          let pieces := s.arguments.map fun a =>
            (if quoted then [Shard.mark] else []) ++ shards quoted a
          return (pieces.intersperse [Shard.gap]).flatten
        else
          match value? with
          | some v => return (if quoted && v.isEmpty then [.mark] else []) ++ shards quoted v
          | none =>
            if s.needsValues && !isAll && use matches .value | .length then fail 2
            else return (if quoted then [.mark] else [])
      match use with
      | .value => plain
      | .length =>
        if value?.isNone && s.needsValues then fail 2
        else return shards quoted (toString (value?.getD []).length).toList
      | .orElse colon => if known colon then plain else word fuel argument
      | .orAssign colon =>
        if known colon then plain
        else
          let v := textOf (← word fuel argument)
          modify fun s => s.assign name v
          return shards quoted v
      | .orFail colon => if known colon then plain else fail 2
      | .ifSet colon => if known colon then word fuel argument else return []
      | .cutStart longest =>
        let glyphs := glyphsOf (← word fuel argument)
        return shards quoted (Mold.cutStart (Mold.ofGlyphs (glyphs.length + 1) glyphs) longest (value?.getD []))
      | .cutEnd longest =>
        let glyphs := glyphsOf (← word fuel argument)
        return shards quoted (Mold.cutEnd (Mold.ofGlyphs (glyphs.length + 1) glyphs) longest (value?.getD []))

/-- What a word expands to. -/
def word : (fuel : Nat) → Word → Run (List Shard)
  | 0, _ => fail 2
  | _ + 1, [] => return []
  | fuel + 1, p :: rest => do
    let first ← part fuel p
    return first ++ (← word fuel rest)

/-- The text that a word expands to as a whole. A tilde at its start is the home directory. -/
def whole : (fuel : Nat) → Word → Run (List Glyph)
  | 0, _ => fail 2
  | fuel + 1, w => do
    let all ← word fuel w
    match all with
    | .glyph ⟨'~', false, false⟩ :: rest =>
      let home := ((← get).value? "HOME".toList).map (shards true)
      match home, rest with
      | some home, [] => return glyphsOf home
      | some home, .glyph ⟨'/', _, _⟩ :: _ => return glyphsOf (home ++ rest)
      | _, _ => return glyphsOf all
    | _ => return glyphsOf all

/-- The fields that words expand to. -/
def fields : (fuel : Nat) → List Word → Run (List Chars)
  | 0, _ => fail 2
  | _ + 1, [] => return []
  | fuel + 1, w :: rest => do
    let separators := ((← get).value? "IFS".toList).getD " \t\n".toList
    let all ← word fuel w
    let first ← match all with
      | .glyph ⟨'~', false, false⟩ :: _ => do
        let text ← whole fuel w
        pure [text.map Glyph.char]
      | _ => pure ((fieldsOf separators none all).map fun glyphs => glyphs.map Glyph.char)
    return first ++ (← fields fuel rest)

/-- Opens what redirections name, and tells whether all could be opened. -/
def redirect : (fuel : Nat) → List Redirect → Run Bool
  | 0, _ => fail 2
  | _ + 1, [] => return true
  | fuel + 1, .mk stream kind target :: rest => do
    let fine ← match kind with
      | .here id => do
        let text ← word fuel (((← get).documents.lookup id).getD [])
        modify fun s => { s with input := textOf text }
        pure true
      | .duplicate => do
        let name := (← whole fuel target).map Glyph.char
        if name == ['-'] then
          modify fun s => s.lead stream .nowhere
          pure true
        else if !name.isEmpty && name.all Char.isDigit then
          modify fun s => s.lead stream ((s.streams.lookup (Decimal.natOfDigits name)).getD .nowhere)
          pure true
        else fail 2
      | .input => do
        let path := (← whole fuel target).map Glyph.char
        let s ← get
        match s.contents? path with
        | some cs => do
          set { s with input := cs }
          pure true
        | none => pure (s.kind? path).isSome
      | .output => do
        let path := (← whole fuel target).map Glyph.char
        match (← get).openFile? path false with
        | some (s, target) => do
          set (s.lead stream target)
          pure true
        | none => pure false
      | .append => do
        let path := (← whole fuel target).map Glyph.char
        match (← get).openFile? path true with
        | some (s, target) => do
          set (s.lead stream target)
          pure true
        | none => pure false
    if fine then redirect fuel rest else return false

/-- Runs commands in order. -/
def commands : (fuel : Nat) → List Command → Run Unit
  | 0, _ => fail 2
  | _ + 1, [] => return
  | fuel + 1, c :: rest => do
    command fuel false c
    commands fuel rest

/-- Runs commands whose failure is asked for. -/
def tested : (fuel : Nat) → List Command → Run Bool
  | 0, _ => fail 2
  | fuel + 1, body => do
    setStatus 0
    testedFrom fuel body
    return (← get).status == 0

/-- Runs commands in order, none of which ends the shell by its failure. -/
def testedFrom : (fuel : Nat) → List Command → Run Unit
  | 0, _ => fail 2
  | _ + 1, [] => return
  | fuel + 1, c :: rest => do
    command fuel true c
    testedFrom fuel rest

/-- Runs a command. Unless its failure is asked for, a failure may end the shell. -/
def command : (fuel : Nat) → (asked : Bool) → Command → Run Unit
  | 0, _, _ => fail 2
  | fuel + 1, asked, c => do
    let stop : Run Unit := do
      let s ← get
      if s.stopsOnFailure && !asked && s.status != 0 then throw (.exit s.status)
    let body (cs : List Command) : Run Unit :=
      if asked then testedFrom fuel cs else commands fuel cs
    match c with
    | .simple assignments words redirects =>
      simple fuel assignments words redirects
      stop
    | .pipeline negated stages =>
      match stages with
      | [one] => command fuel (asked || negated) one
      | _ => pipe fuel [] true stages
      if negated then
        modify fun s => { s with status := if s.status == 0 then 1 else 0 }
      else stop
    | .both first second =>
      command fuel true first
      if (← get).status == 0 then command fuel asked second
    | .either first second =>
      command fuel true first
      if (← get).status != 0 then command fuel asked second
    | .group cs redirects => during (redirect fuel redirects) (body cs)
    | .subshell cs redirects =>
      during (redirect fuel redirects) do
        let status ← isolated (fun s => { s with traps := [] }) (body cs)
        setStatus status
      stop
    | .conditional condition yes no redirects =>
      during (redirect fuel redirects) do
        if ← tested fuel condition then body yes
        else
          setStatus 0
          body no
    | .loop whileTrue condition cs redirects =>
      during (redirect fuel redirects) (rounds fuel whileTrue condition (body cs) 0)
    | .each name words cs redirects =>
      let values ← match words with
        | some ws => fields fuel ws
        | none => pure (← get).arguments
      setStatus 0
      during (redirect fuel redirects) (eachOf fuel name values (body cs))
    | .choose subject cases redirects =>
      let text := (← whole fuel subject).map Glyph.char
      setStatus 0
      during (redirect fuel redirects) (chooseFrom fuel text cases)
    | .define name body =>
      modify fun s => { s with functions := Session.put name body s.functions }
      setStatus 0
    | .background body =>
      let _ ← isolated (fun s => { s with traps := [], input := [] }) (command fuel false body)
      setStatus 0

/-- Runs the stages of a pipeline. -/
def pipe : (fuel : Nat) → (input : Chars) → (isFirst : Bool) → List Command → Run Unit
  | 0, _, _, _ => fail 2
  | _ + 1, _, _, [] => return
  | fuel + 1, input, isFirst, [last] => do
    let status ← isolated (fun s =>
      { s with traps := [], input := if isFirst then s.input else input }) (command fuel false last)
    setStatus status
  | fuel + 1, input, isFirst, c :: rest => do
    let out ← collected do
      if !isFirst then modify fun s => { s with input }
      command fuel false c
    pipe fuel out false rest

/-- Repeats commands as long as a condition holds, or until it does. -/
def rounds : (fuel : Nat) → (whileTrue : Bool) → List Command → Run Unit → (status : Nat) → Run Unit
  | 0, _, _, _, _ => fail 2
  | fuel + 1, whileTrue, condition, body, status => do
    if (← tested fuel condition) == whileTrue then
      let goesOn ← oneRound body
      if goesOn then rounds fuel whileTrue condition body (← get).status
    else setStatus status

/-- Runs commands for each of some values. -/
def eachOf : (fuel : Nat) → (name : Chars) → List Chars → Run Unit → Run Unit
  | 0, _, _, _ => fail 2
  | _ + 1, _, [], _ => return
  | fuel + 1, name, v :: rest, body => do
    modify fun s => s.assign name v
    if ← oneRound body then eachOf fuel name rest body

/-- Runs the commands of the first item that fits. -/
def chooseFrom : (fuel : Nat) → Chars → List (List Word × List Command) → Run Unit
  | 0, _, _ => fail 2
  | _ + 1, _, [] => return
  | fuel + 1, text, (patterns, body) :: rest => do
    if ← fitsAny fuel text patterns then commands fuel body else chooseFrom fuel text rest

/-- Whether one of some patterns takes a text. -/
def fitsAny : (fuel : Nat) → Chars → List Word → Run Bool
  | 0, _, _ => fail 2
  | _ + 1, _, [] => return false
  | fuel + 1, text, w :: rest => do
    let glyphs ← whole fuel w
    if Mold.fits (Mold.ofGlyphs (glyphs.length + 1) glyphs) text then return true
    else fitsAny fuel text rest

/-- Sets variables one after the other. -/
def assign : (fuel : Nat) → List (Chars × Word) → Run Unit
  | 0, _ => fail 2
  | _ + 1, [] => return
  | fuel + 1, (name, w) :: rest => do
    let value ← whole fuel w
    modify fun s => s.assign name (value.map Glyph.char)
    assign fuel rest

/-- Runs a simple command. -/
def simple : (fuel : Nat) → List (Chars × Word) → List Word → List Redirect → Run Unit
  | 0, _, _, _ => fail 2
  | fuel + 1, assignments, words, redirects => do
    let before := (← get).status
    setStatus 0
    let all ← (do
      setStatus before
      fields fuel words)
    match all with
    | [] =>
      let ran := words.any (fun w => w.any fun p => p matches .command _ _) ||
        assignments.any (fun a => a.2.any fun p => p matches .command _ _)
      if !ran then setStatus 0
      assign fuel assignments
      during (redirect fuel redirects) (return)
    | name :: args =>
      if name == "exec".toList then
        if !(← redirect fuel redirects) then fail 2
        match args with
        | [] => setStatus 0
        | name :: args =>
          run fuel false name args
          throw (.exit (← get).status)
      else
        let s ← get
        let lasts := [":", "export", "readonly", "eval", "set", "shift", "unset", "trap"].any
          (·.toList == name)
        let body : Run Unit := do
          assign fuel assignments
          if !lasts then modify fun t => (assignments.map (·.1)).foldl Session.mark t
          run fuel true name args
          if !assignments.isEmpty && !lasts then
            modify fun t =>
              { t with values := s.values, exported := s.exported }
        during (redirect fuel redirects) body

/-- Runs a command of a name: a function, a command of the shell or a utility. -/
def run : (fuel : Nat) → (functions : Bool) → (name : Chars) → (args : List Chars) → Run Unit
  | 0, _, _, _ => fail 2
  | fuel + 1, functions, name, args => do
    let s ← get
    match if functions then s.functions.lookup name else none with
    | some body =>
      set { s with arguments := args }
      let back : Run Unit := modify fun t => { t with arguments := s.arguments }
      try
        command fuel false body
      catch
        | .done n => setStatus n
        | h => do
          back
          throw h
      back
    | none =>
      match String.ofList name with
      | ":" => setStatus 0
      | "exit" => do throw (.exit (← statusOf args))
      | "return" => do throw (.done (← statusOf args))
      | "break" => throw (.leave (loopCount args))
      | "continue" => throw (.next (loopCount args))
      | "eval" => script fuel (Text.joinWith [' '] args)
      | "set" => do
        setOptions args
        setStatus 0
      | "shift" =>
        let n := loopCount args
        if n > s.arguments.length then fail 2
        else set { s with arguments := s.arguments.drop n, status := 0 }
      | "unset" =>
        let names := args.filter fun a => a.head? != some '-'
        if args.head? == some ['-', 'f'] then
          set { s with functions := s.functions.filter fun f => !names.contains f.1, status := 0 }
        else set { names.foldl Session.unset s with status := 0 }
      | "export" => exportAll args
      | "readonly" => exportAll []
      | "local" => assignAll args
      | "pwd" => say (s.directory ++ ['\n'])
      | "cd" =>
        let path := match args with
          | p :: _ => p
          | [] => (s.value? "HOME".toList).getD []
        let path := tidy (s.absolute path)
        if s.kind? path == some .directory then set { s with directory := path, status := 0 }
        else setStatus 2
      | "trap" =>
        match args with
        | action :: names =>
          if names.isEmpty then setStatus 0
          else
            let numbers := names.filterMap signal?
            let kept := s.traps.filter fun t => !numbers.contains t.1
            if action == ['-'] then set { s with traps := kept, status := 0 }
            else set { s with traps := numbers.map (fun n => (n, action)) ++ kept, status := 0 }
        | [] => setStatus 0
      | "kill" => do
        let (signal, targets) := match args with
          | ['-', 's'] :: name :: rest => (signal? name, rest)
          | ('-' :: name) :: rest => (signal? name, rest)
          | _ => (some 15, args)
        match signal with
        | none => setStatus 2
        | some 0 => setStatus 0
        | some n =>
          if targets.contains (toString s.process).toList || targets == [['0']] then
            match s.traps.lookup n with
            | some action =>
              if n == 9 then throw (.killed n)
              else if !action.isEmpty then script fuel action
            | none => if (signals.lookup n).isSome then throw (.killed n) else setStatus 0
          else setStatus 1
      | "read" => do
        let names := args.filter fun a => a.head? != some '-'
        let line := s.input.takeWhile (· != '\n')
        let found := line.length < s.input.length
        set { s with input := s.input.drop (line.length + 1) }
        for (name, value) in readFields names line do
          modify fun t => t.assign name value
        setStatus (if found then 0 else 1)
      | "command" =>
        match args with
        | ['-', 'v'] :: what :: _ =>
          let isKnown := (Utility.run? {} (String.ofList what) []).isSome ||
            (s.functions.lookup what).isSome
          if isKnown then say (what ++ ['\n']) else setStatus 127
        | name :: rest => run fuel false name rest
        | [] => setStatus 0
      | "wait" => setStatus 0
      | "umask" => setStatus 0
      | "[" =>
        if args.getLast? == some [']'] then external "test" args.dropLast else setStatus 2
      | _ => outside fuel name args

/-- Runs a program that is not a part of the shell. -/
def outside : (fuel : Nat) → (name : Chars) → (args : List Chars) → Run Unit
  | 0, _, _ => fail 2
  | fuel + 1, name, args => do
    let s ← get
    let isPath := name.contains '/'
    let place := (name.reverse.dropWhile (· != '/')).reverse
    let isUtility :=
      if isPath then place == "/bin/".toList || place == "/usr/bin/".toList else findsUtilities s
    let short := (name.reverse.takeWhile (· != '/')).reverse
    let missing : Run Unit :=
      setStatus (if isPath && (s.kind? name).isSome then 126 else 127)
    if !isUtility then
      -- A few utilities are parts of the shell as well.
      if ["echo", "printf", "test", "true", "false"].any (·.toList == name) then
        external (String.ofList name) args
      else missing
    else
      match String.ofList short with
      | "sh" => inner fuel args
      | "dash" => inner fuel args
      | "env" => do
        let clean := args.head? == some ['-', 'i'] || args.head? == some ['-']
        let rest := if clean then args.tail else args
        let given := (rest.takeWhile fun a => a.contains '=')
        let rest := rest.drop given.length
        let values := (if clean then [] else s.environment)
        let values := given.foldl (fun (vs : List (Chars × Chars)) a =>
          match assignment? a with
          | some (name, value) => Session.put name value vs
          | none => vs) values
        match rest with
        | [] =>
          say (Utility.unlines (values.map fun (name, value) => name ++ '=' :: value))
        | name :: rest =>
          let status ← isolated (fun t =>
            { t with values, exported := values.map (·.1), functions := [], traps := [] })
            (outside fuel name rest)
          setStatus status
      | "xargs" => do
        let operands := Text.words s.input
        let (name, given) := match args with
          | name :: given => (name, given)
          | [] => ("echo".toList, [])
        modify fun t => { t with input := [] }
        outside fuel name (given ++ operands)
      | other =>
        if (Utility.run? {} other []).isSome then external other args else missing

/-- Runs another shell. -/
def inner : (fuel : Nat) → (args : List Chars) → Run Unit
  | 0, _ => fail 2
  | fuel + 1, args => do
    let s ← get
    let (letters, rest) := match args with
      | ('-' :: letters) :: rest => (letters, rest)
      | _ => ([], args)
    let (text, operands, input) :=
      if letters.contains 'c' then (rest.headD [], rest.tail, s.input) else (s.input, [], [])
    let status ← isolated (fun t =>
      { t with
        values := t.environment, functions := [], traps := [], status := 0, input
        name := operands.headD "sh".toList, arguments := operands.tail
        stopsOnFailure := letters.contains 'e', needsValues := false, process := t.process + 1 })
      (try script fuel text catch
        | .killed n => throw (.exit (128 + n))
        | h => throw h)
    setStatus status

/-- Runs a text as commands: those of the lines before the first that cannot be read. -/
def script : (fuel : Nat) → (text : Chars) → Run Unit
  | 0, _ => fail 2
  | fuel + 1, text => do
    let old := (← get).documents
    let s := Script.ofText old.length text
    modify fun t => { t with documents := s.documents ++ old }
    scriptLines fuel s.lines
    if !s.isWhole then fail 2

/-- Runs the lines of a script. -/
def scriptLines : (fuel : Nat) → List (List Command) → Run Unit
  | 0, _ => fail 2
  | _ + 1, [] => return
  | fuel + 1, cs :: rest => do
    commands fuel cs
    scriptLines fuel rest

end

/-- How deep commands may be nested. -/
def depth : Nat := 100000

/-- Runs a text as a shell does that is given nothing else: its output, and its status or the
signal that killed it. At its end it carries out what was kept for that. -/
def runText (s : Session) (text : Chars) : Chars × Except Nat Nat :=
  let start := { s with buffers := [(0, [])] }
  let (result, after) := ((script depth text).run start).run
  let finish (status : Nat) : Chars × Except Nat Nat :=
    match after.traps.lookup 0 with
    | some action =>
      let (result, last) := ((script depth action).run { after with traps := [], status }).run
      let out := (last.buffers.lookup 0).getD []
      match result with
      | .error (.exit n) => (out, .ok n)
      | .error (.killed n) => (out, .error n)
      | _ => (out, .ok status)
    | none => ((after.buffers.lookup 0).getD [], .ok status)
  match result with
  | .ok () => finish after.status
  | .error (.exit n) => finish n
  | .error (.done n) => finish n
  | .error (.killed n) => ((after.buffers.lookup 0).getD [], .error n)
  | .error _ => finish after.status

end Stencil.Shell
