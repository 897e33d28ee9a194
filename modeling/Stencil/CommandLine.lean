import Stencil.Mode

/-! The command line.

Arguments are read from left to right. Asking for help or the version ends the reading, and so
does the first argument that is wrong, so of several such the first one counts. -/
namespace Stencil.CommandLine

/-- What an option asks for. -/
inductive Switch where
  | expandOnly
  | templateOnly
  | debug
  | verbose
  | help
  | version
  deriving DecidableEq, Repr

/-- An option, by its long name. -/
def Switch.ofName? : String → Option Switch
  | "expand-only" => some .expandOnly
  | "template-only" => some .templateOnly
  | "debug" => some .debug
  | "verbose" => some .verbose
  | "help" => some .help
  | "version" => some .version
  | _ => none

/-- An option, by its letter. -/
def Switch.ofLetter? : Char → Option Switch
  | 'e' => some .expandOnly
  | 't' => some .templateOnly
  | 'v' => some .verbose
  | 'h' => some .help
  | 'V' => some .version
  | _ => none

/-- The options of a run. -/
structure Options where
  expandOnly : Bool := false
  templateOnly : Bool := false
  debug : Bool := false
  verbose : Bool := false
  deriving DecidableEq, Repr

/-- The stages that the options select. -/
def Options.mode (o : Options) : Except Error Mode := Mode.of (!o.templateOnly) (!o.expandOnly)

/-- Ways to misuse the command line. -/
inductive Misuse where
  | unknown
  | repeated
  | unwantedValue
  deriving DecidableEq, Repr

/-- How reading the arguments ends early. -/
inductive Stop where
  | help
  | version (isLong : Bool)
  | misuse (m : Misuse)
  deriving DecidableEq, Repr

/-- Turns on an option, once. -/
def Options.turnOn (o : Options) (isLong : Bool) : Switch → Except Stop Options
  | .expandOnly => once o.expandOnly { o with expandOnly := true }
  | .templateOnly => once o.templateOnly { o with templateOnly := true }
  | .debug => once o.debug { o with debug := true }
  | .verbose => once o.verbose { o with verbose := true }
  | .help => .error .help
  | .version => .error (.version isLong)
where
  /-- The options, unless one was on before. -/
  once (before : Bool) (after : Options) : Except Stop Options :=
    if before then .error (.misuse .repeated) else .ok after

/-- Reads an option with a long name. -/
def readName (o : Options) (name : String) (hasValue : Bool) : Except Stop Options :=
  match Switch.ofName? name with
  | none => .error (.misuse .unknown)
  | some s => if hasValue then .error (.misuse .unwantedValue) else o.turnOn true s

/-- Reads letters that each are an option. -/
def readLetters (o : Options) : List Char → Except Stop Options
  | [] => .ok o
  | c :: rest =>
    match Switch.ofLetter? c with
    | none => .error (.misuse .unknown)
    | some s => o.turnOn false s >>= fun o => readLetters o rest

/-- Reads an argument: two dashes and a name, or one dash and letters. -/
def readArgument (o : Options) : List Char → Except Stop Options
  | '-' :: '-' :: cs =>
    readName o (String.ofList (cs.takeWhile (· != '='))) (cs.contains '=')
  | '-' :: c :: cs => readLetters o (c :: cs)
  | _ => .error (.misuse .unknown)

/-- Reads arguments. Nothing may follow two dashes that stand alone. -/
def readFrom (o : Options) : List String → Except Stop Options
  | [] => .ok o
  | "--" :: rest => if rest.isEmpty then .ok o else .error (.misuse .unknown)
  | a :: rest => readArgument o a.toList >>= fun o => readFrom o rest

/-- Reads a command line. -/
def read (arguments : List String) : Except Stop Options := readFrom {} arguments

/-- The name of the program and its version. -/
def programName : String := "subst"
/-- The version of the program. -/
def programVersion : String := "0.3.0"

/-- What is shown when the version is asked for. -/
def versionText (isLong : Bool) : String :=
  programName ++ " " ++ programVersion ++
    (if isLong then "\n  └ rendering with MiniJinja 2\n" else "\n")

/-- The lines that are shown when help is asked for. -/
def helpLines : List String :=
  ["Substitutes the values of environment variables, then renders a template",
    "",
    "Usage: subst [OPTIONS]",
    "",
    "Options:",
    "  -e, --expand-only    Skip templating (good for debugging expansion)",
    "  -t, --template-only  Skip environment variable expansion",
    "      --debug          Set \x60debug\x60 to true in the template context",
    "  -v, --verbose        Enable verbose logging output on stderr",
    "  -h, --help           Print help",
    "  -V, --version        Print version",
    "",
    "Standard input is copied to standard output, with references to environment",
    "variables of the form $\x7bVARIABLE\x7d replaced by their values first (as in",
    "\x60envsubst\x60), and the result then rendered as a MiniJinja template.",
    "Write $$\x7bVARIABLE\x7d to keep a literal $\x7bVARIABLE\x7d.",
    "",
    "Templates see the environment as \x60env\x60, details about the running process as",
    "\x60proc\x60 and the --debug flag as \x60debug\x60. Besides the usual filters, \x60sh()\x60",
    "runs its argument with \x60sh -c '...'\x60 and inserts what it prints (use at your",
    "own peril!), and required_envs(), required_vals() and required_files() stop",
    "rendering when something a template needs is missing."]

/-- What is shown when help is asked for. -/
def helpText : String := String.join (helpLines.map (· ++ "\n"))

/-- The words for a misuse. -/
def Misuse.message : Misuse → String
  | .unknown => "error: unexpected argument found"
  | .repeated => "error: an argument cannot be used multiple times"
  | .unwantedValue => "error: unexpected value for an argument found"

end Stencil.CommandLine
