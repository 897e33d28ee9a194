import Stencil.Shell.Mold
import Stencil.Shell.Utility

/-! The state of a running shell.

Commands change a session and may halt: leave a loop or a function, end the shell or be killed.
What they wrote before that stays written, so a session survives every halt. A stream leads into a
buffer, into a file or nowhere. -/
namespace Stencil.Shell

/-- Where a stream leads. -/
inductive Target where
  | buffer (id : Nat)
  | file (path : Chars)
  | nowhere
  deriving DecidableEq, Repr

/-- What stops a list of commands. -/
inductive Halt where
  | exit (status : Nat)
  | killed (signal : Nat)
  | leave (loops : Nat)
  | next (loops : Nat)
  | done (status : Nat)
  deriving DecidableEq, Repr

/-- The state of a shell. -/
structure Session where
  values : List (Chars × Chars) := []
  exported : List Chars := []
  functions : List (Chars × Command) := []
  name : Chars := "sh".toList
  arguments : List Chars := []
  status : Nat := 0
  directory : Chars := ['/']
  stopsOnFailure : Bool := false
  needsValues : Bool := false
  /-- Actions by the number of a signal; nought stands for the end of the shell. -/
  traps : List (Nat × Chars) := []
  input : Chars := []
  buffers : List (Nat × Chars) := []
  nextBuffer : Nat := 1
  streams : List (Nat × Target) := [(1, .buffer 0), (2, .nowhere)]
  written : List (Chars × Chars) := []
  files : Files := Files.usual
  documents : Documents := []
  process : Nat := 2

/-- Commands, which change a session and may halt. -/
abbrev Run := ExceptT Halt (StateM Session)

/-- Signals that end a process. -/
def signals : List (Nat × String) :=
  [(1, "HUP"), (2, "INT"), (3, "QUIT"), (4, "ILL"), (5, "TRAP"), (6, "ABRT"), (7, "BUS"),
    (8, "FPE"), (9, "KILL"), (10, "USR1"), (11, "SEGV"), (12, "USR2"), (13, "PIPE"), (14, "ALRM"),
    (15, "TERM"), (16, "STKFLT"), (24, "XCPU"), (25, "XFSZ"), (26, "VTALRM"), (27, "PROF"),
    (29, "IO"), (30, "PWR"), (31, "SYS")]

/-- The signal that a number or a name means. -/
def signal? (cs : Chars) : Option Nat :=
  if !cs.isEmpty && cs.all Char.isDigit then some (Decimal.natOfDigits cs)
  else
    let name := String.ofList (cs.map Char.toUpper)
    if name == "EXIT" then some 0
    else (signals.find? fun s => s.2 == name || "SIG" ++ s.2 == name).map (·.1)

/-- The name of a signal. -/
def signalName (n : Nat) : String := "SIG" ++ (signals.lookup n).getD ""

namespace Session

/-- The value of a variable. -/
def value? (s : Session) (name : Chars) : Option Chars := s.values.lookup name

/-- A list of pairs with a value put at a key. -/
def put {β : Type} (key : Chars) (value : β) : List (Chars × β) → List (Chars × β)
  | [] => [(key, value)]
  | (k, v) :: rest => if k == key then (key, value) :: rest else (k, v) :: put key value rest

/-- Sets a variable. -/
def assign (s : Session) (name value : Chars) : Session :=
  { s with values := put name value s.values }

/-- Removes a variable. -/
def unset (s : Session) (name : Chars) : Session :=
  { s with
    values := s.values.filter (·.1 != name), exported := s.exported.filter (· != name) }

/-- Marks a variable for the environment of commands. -/
def mark (s : Session) (name : Chars) : Session :=
  if s.exported.contains name then s else { s with exported := s.exported ++ [name] }

/-- The environment of commands. -/
def environment (s : Session) : List (Chars × Chars) :=
  s.exported.filterMap fun name => (s.value? name).map fun v => (name, v)

/-- A path, started at the working directory. -/
def absolute (s : Session) (path : Chars) : Chars :=
  if path.head? == some '/' then path else s.directory ++ '/' :: path

/-- What stands at a path. -/
def kind? (s : Session) (path : Chars) : Option FileKind :=
  if path.isEmpty then none
  else if (s.written.lookup (s.absolute path)).isSome then some .plain
  else s.files.kindFrom? (Utility.text s.directory) (Utility.text path)

/-- The contents of a file. -/
def contents? (s : Session) (path : Chars) : Option Chars :=
  match s.written.lookup (s.absolute path) with
  | some cs => some cs
  | none => if s.kind? path == some .device then some [] else none

/-- What utilities have to work with. -/
def supply (s : Session) : Supply :=
  ⟨s.input, s.environment, s.kind?, s.contents?⟩

/-- Writes to a stream. -/
def write (s : Session) (stream : Nat) (cs : Chars) : Session :=
  match s.streams.lookup stream with
  | some (.buffer id) =>
    { s with buffers := s.buffers.map fun (n, old) => if n == id then (n, old ++ cs) else (n, old) }
  | some (.file path) =>
    { s with written := put path ((s.written.lookup path).getD [] ++ cs) s.written }
  | _ => s

/-- Leads a stream elsewhere. -/
def lead (s : Session) (stream : Nat) (target : Target) : Session :=
  { s with streams := (stream, target) :: s.streams.filter (·.1 != stream) }

/-- A file that is opened for writing; one that is not there is made in its directory. -/
def openFile? (s : Session) (path : Chars) (keep : Bool) : Option (Session × Target) :=
  let path := s.absolute path
  match s.kind? path with
  | some .device => some (s, .nowhere)
  | some .directory => none
  | some .plain =>
    if (s.written.lookup path).isSome then
      some (if keep then s else { s with written := put path [] s.written }, .file path)
    else none
  | none =>
    let parent := (path.reverse.dropWhile (· != '/')).reverse
    if s.kind? parent == some .directory then
      some ({ s with written := put path [] s.written }, .file path)
    else none

/-- A parameter that is spelled with one sign or a number. -/
def special? (s : Session) (name : Chars) : Option Chars :=
  match name with
  | ['?'] => some (toString s.status).toList
  | ['#'] => some (toString s.arguments.length).toList
  | ['$'] => some (toString s.process).toList
  | ['-'] => some ((if s.stopsOnFailure then ['e'] else []) ++ if s.needsValues then ['u'] else [])
  | ['!'] => none
  | _ =>
    if !name.isEmpty && name.all Char.isDigit then
      match Decimal.natOfDigits name with
      | 0 => some s.name
      | n + 1 => s.arguments[n]?
    else s.value? name

end Session

/-- A piece of an expanded word: a character, an end of a field, or a field that is there though
it may hold nothing. -/
inductive Shard where
  | glyph (g : Glyph)
  | gap
  | mark
  deriving DecidableEq, Repr

/-- The characters of an expansion. -/
def shards (quoted : Bool) (cs : Chars) : List Shard :=
  cs.map fun c => .glyph ⟨c, quoted, !quoted⟩

/-- The fields of an expanded word, which separators from expansions divide. -/
def fieldsOf (separators : Chars) : (current : Option (List Glyph)) → List Shard → List (List Glyph)
  | current, [] => current.toList
  | current, .gap :: rest => current.toList ++ fieldsOf separators none rest
  | current, .mark :: rest => fieldsOf separators (some (current.getD [])) rest
  | current, .glyph g :: rest =>
    if g.isSplit && separators.contains g.char then
      if g.char == ' ' || g.char == '\t' || g.char == '\n' then
        current.toList ++ fieldsOf separators none rest
      else current.getD [] :: fieldsOf separators none rest
    else fieldsOf separators (some (current.getD [] ++ [g])) rest

/-- The characters of an expanded word that is not divided. -/
def glyphsOf (all : List Shard) : List Glyph := all.filterMap fun s => match s with
  | .glyph g => some g
  | .gap => some ⟨' ', true, false⟩
  | .mark => none

/-- The text of an expanded word that is not divided. -/
def textOf (all : List Shard) : Chars := (glyphsOf all).map Glyph.char

end Stencil.Shell
