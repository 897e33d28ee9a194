import Stencil.Problem

/-! What can go wrong in a template.

A `Flaw` lies in its text; a `Cause` is a flaw, a problem with values, or something that is not
there or cannot be done. A `Fault` is a cause with the line where it was met. -/
namespace Stencil.Template

/-- The name under which the only template is known. -/
def templateName : String := "<stdin>"

/-- What is wrong with the text of a template. -/
inductive Flaw where
  | unexpected (found : String)
  | expected (found wanted : String)
  | unknownStatement (name : String)
  | noStatement (found : String)
  | reservedName (name : String)
  | tooDeep
  | badCharacter
  | openText
  | openComment
  | openRaw
  | numberEnd
  | badFloat
  | badInteger
  | badEscape
  | positionalAfterNamed
  | tooManyArguments
  | notInLoop (statement : String)
  | blockInMacro
  | repeatedBlock (name : String)
  | blockMismatch (found wanted : String)
  | requiredContent
  | noFilter
  | notCall (found : String)
  deriving DecidableEq, Repr

/-- The words for a flaw, if there are any. -/
def Flaw.detail? : Flaw → Option String
  | .unexpected found => some ("unexpected " ++ found)
  | .expected found wanted => some ("unexpected " ++ found ++ ", expected " ++ wanted)
  | .unknownStatement name => some ("unknown statement " ++ name)
  | .noStatement found => some ("unknown " ++ found ++ ", expected statement")
  | .reservedName name => some ("cannot assign to reserved variable name " ++ name)
  | .tooDeep => some "template exceeds maximum recursion limits"
  | .badCharacter => some "unexpected character"
  | .openText => some "unexpected end of string"
  | .openComment => some "unexpected end of comment"
  | .openRaw => some "unexpected end of raw block"
  | .numberEnd => some "'_' may not occur at end of number"
  | .badFloat => some "invalid float"
  | .badInteger => some "invalid integer (too large)"
  | .badEscape => none
  | .positionalAfterNamed => some "non-keyword arg after keyword arg"
  | .tooManyArguments => some "Too many arguments in function call"
  | .notInLoop statement => some ("'" ++ statement ++ "' must be placed inside a loop")
  | .blockInMacro => some "block tags in macros are not allowed"
  | .repeatedBlock name => some ("block '" ++ name ++ "' defined twice")
  | .blockMismatch found wanted =>
    some ("mismatching name on block. Got \x60" ++ found ++ "\x60, expected \x60" ++ wanted ++ "\x60")
  | .requiredContent => some "required blocks can only contain comments or whitespace"
  | .noFilter => some "expected a filter"
  | .notCall found => some ("expected call expression in call block, got " ++ found)

/-- Causes of failure. -/
inductive Cause where
  | flaw (flaw : Flaw)
  | problem (problem : Problem)
  | unknownFilter (name : String)
  | unknownTest (name : String)
  | unknownFunction (name : String)
  | unknownMethod (kind : Kind) (name : String)
  | unknownBlock (name : String)
  | missingBlock (name : String)
  | notCallable (kind : Kind)
  | objectNotCallable
  | loopNotCallable
  | notUnpackable
  | wrongLength (wanted found : Nat)
  | notNamespace (kind : Kind)
  | tooDeep
  | notRecursive
  | notRepeatable
  | loopArguments (count : Nat)
  | superArguments
  | superOutside
  | noParent
  | nameNotText
  | badEscaping
  | noTemplate (name : String)
  | noInclude (name : String)
  | noIncludes (names : String)
  | brokenInclude (name : String)
  | extendsItself (name : String)
  | macroGone
  | spreadNotIterable (kind : Kind)
  | spreadNotMap (kind : Kind)

namespace Cause

/-- The sort of failure. -/
def sort : Cause → Failure
  | .flaw .badEscape => .badEscape
  | .flaw _ => .badGrammar
  | .problem p => p.sort
  | .unknownFilter _ => .unknownFilter
  | .unknownTest _ => .unknownTest
  | .unknownFunction _ => .unknownFunction
  | .unknownMethod .. => .unknownMethod
  | .unknownBlock _ => .unknownBlock
  | .notUnpackable | .wrongLength .. => .cannotUnpack
  | .noTemplate _ | .noInclude _ | .noIncludes _ => .templateNotFound
  | .brokenInclude _ => .brokenInclude
  | _ => .invalidOperation

/-- The words for a cause, if there are any. -/
def detail? : Cause → Option String
  | .flaw f => f.detail?
  | .problem p => p.detail?
  | .unknownFilter name => some s!"filter {name} is unknown"
  | .unknownTest name => some s!"test {name} is unknown"
  | .unknownFunction name => some s!"{name} is unknown"
  | .unknownMethod k name => some s!"{k.name} has no method named {name}"
  | .missingBlock name => some ("Required block '" ++ name ++ "' not found")
  | .unknownBlock name => some ("block '" ++ name ++ "' not found")
  | .notCallable k => some s!"value of type {k.name} is not callable"
  | .objectNotCallable => some "object is not callable"
  | .loopNotCallable => some "loop recursion cannot be called this way"
  | .notUnpackable => some "value is not iterable"
  | .wrongLength wanted found =>
    some s!"sequence of wrong length (expected {wanted}, got {found})"
  | .notNamespace k => some s!"can only assign to namespaces, not {k.name}"
  | .tooDeep => some "recursion limit exceeded"
  | .notRecursive => some "cannot recurse outside of recursive loop"
  | .notRepeatable => some "cannot recurse because of non-iterable value"
  | .loopArguments n => some s!"loop() takes one argument, got {n}"
  | .superArguments => some "super() takes no arguments"
  | .superOutside => some "cannot super outside of block"
  | .noParent => some "no parent block exists"
  | .nameNotText => some "template name was not a string"
  | .badEscaping => some "invalid value to autoescape tag"
  | .noTemplate name => some ("template " ++ Text.quoted name ++ " does not exist")
  | .noInclude name => some ("tried to include non-existing template " ++ Text.quoted name)
  | .noIncludes names =>
    some ("tried to include one of multiple templates, none of which existed " ++ names)
  | .brokenInclude name => some ("error in \"" ++ name ++ "\"")
  | .extendsItself name =>
    some ("cycle in template inheritance. " ++ Text.quoted name ++ " was referenced more than once")
  | .macroGone => some "cannot call this macro. template state went away."
  | .spreadNotIterable k => some s!"{k.name} is not iterable"
  | .spreadNotMap k => some s!"attempted to apply keyword arguments from non map (got {k.name})"

end Cause

/-- A cause of failure and the line where it was met, if it has one. Line zero stands before the
first word. -/
structure Fault where
  cause : Cause
  line : Option Nat := none

/-- The runtime ends the program where the fault occurs. -/
def Fault.aborts (f : Fault) : Bool :=
  match f.cause with
  | .problem p => p.aborts
  | _ => false

/-- The line of a fault that lies behind the first word. -/
def Fault.line? (f : Fault) : Option Nat := f.line.filter (0 < ·)

/-- The words for a fault: its sort, its detail and its place. -/
def Fault.message (f : Fault) : String :=
  let detail := match f.cause.detail? with
    | some d => ": " ++ d
    | none => ""
  let place := match f.line with
    | some n => " (in " ++ templateName ++ ":" ++ toString n ++ ")"
    | none => ""
  f.cause.sort.text ++ detail ++ place

end Stencil.Template
