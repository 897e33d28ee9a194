import Stencil.Value.Display
import Stencil.Encoding.Base64

/-! What can go wrong when values are computed with.

A `Problem` names the cause and keeps what its wording needs. `Problem.sort` says which
sort of failure it is, and `Problem.detail?` words it; some sorts speak for themselves.

One problem is no failure that the program could report: where a row of spaces would be longer than
any memory, the runtime ends the program (`Problem.aborts`). Apart from that, memory and the stack
are taken to suffice. -/
namespace Stencil

/-- Sorts of failure. -/
inductive Failure where
  | notPrimitive
  | notKey
  | invalidOperation
  | badGrammar
  | templateNotFound
  | tooManyArguments
  | missingArgument
  | unknownFilter
  | unknownTest
  | unknownFunction
  | unknownMethod
  | badEscape
  | undefinedValue
  | badSerialization
  | cannotUnpack
  | unknownBlock
  | brokenInclude
  deriving DecidableEq, Repr

/-- The words for a sort of failure. -/
def Failure.text : Failure → String
  | .notPrimitive => "not a primitive"
  | .notKey => "not a key type"
  | .invalidOperation => "invalid operation"
  | .badGrammar => "syntax error"
  | .templateNotFound => "template not found"
  | .tooManyArguments => "too many arguments"
  | .missingArgument => "missing argument"
  | .unknownFilter => "unknown filter"
  | .unknownTest => "unknown test"
  | .unknownFunction => "unknown function"
  | .unknownMethod => "unknown method"
  | .badEscape => "bad string escape"
  | .undefinedValue => "undefined value"
  | .badSerialization => "could not serialize to value"
  | .cannotUnpack => "cannot unpack"
  | .unknownBlock => "unknown block"
  | .brokenInclude => "could not render include"

/-- Operators of arithmetic. -/
inductive Arithmetic where
  | add
  | sub
  | mul
  | div
  | floorDiv
  | rem
  | pow
  deriving DecidableEq, Repr

/-- The sign of an operator. -/
def Arithmetic.sign : Arithmetic → String
  | .add => "+"
  | .sub => "-"
  | .mul => "*"
  | .div => "/"
  | .floorDiv => "//"
  | .rem => "%"
  | .pow => "**"

/-- What a command did instead of succeeding. -/
inductive CommandFlaw where
  | notStarted (reason : String)
  | exited (status : Nat)
  | killed (signal : Nat) (name : String)
  deriving DecidableEq, Repr

/-- Why a value has no form as a document. -/
inductive DocumentFlaw where
  | keyNotText
  | keyNotFinite
  | numberTooLarge
  | invalid (reason : String)
  deriving DecidableEq, Repr

/-- The words for a value without a form as a document. -/
def DocumentFlaw.message : DocumentFlaw → String
  | .keyNotText => "key must be a string"
  | .keyNotFinite => "float key must be finite"
  | .numberTooLarge => "number out of range"
  | .invalid reason => "invalid operation: " ++ reason

/-- Causes of failure. -/
inductive Problem where
  | unsupported (op : Arithmetic) (left right : Kind)
  | uncomputable (op : Arithmetic) (left right : Value)
  | textTimes
  | textTooLong
  | listTimes
  | endlessTimes
  | notNegatable
  | negationOverflow
  | zeroStep
  | notSliceable (kind : Kind)
  | noContainment
  | notIterable (kind : Kind)
  | noLength (kind : Kind)
  | notConvertible (kind : Kind) (target : String)
  | namedAsText
  | notText
  | notFloat (empty : Bool)
  | missingArgument
  | tooManyArguments
  | unknownNamed (name : String)
  | duplicateNamed (name : String)
  | unknownParameter (name : String)
  | notPairList
  | notPairs
  | badSortKey (key : String)
  | notList
  | notReversible (kind : Kind)
  | notJoinable (kind : Kind)
  | noFirst
  | noLast
  | notAddable (kind : Kind)
  | noAbsolute
  | absoluteOverflow
  | notRoundable (kind : Kind)
  | zeroCount
  | noFilterName
  | filterNameNotText
  | unnamedFilter
  | unnamedTest
  | noDocument
  | noEscapedDocument
  | formatShort
  | formatLeft
  | formatCut
  | formatSign (sign : Char)
  | formatNotNumber (kind : Kind)
  | rangeStep
  | rangeLength
  | namespaceKey (kind : Kind)
  | namespaceSource (kind : Kind)
  | undefinedPath
  | command (flaw : CommandFlaw)
  | missingEnvironment (name : String)
  | emptyValue (shown : String)
  | missingFile (path : String)
  | fileIsDirectory (path : String)
  | raised (message : String)
  | oddPairs
  | keyNotText
  | base64 (flaw : Encoding.Base64.Flaw)
  | decoded (flaw : Text.Utf8.Flaw)
  | document (flaw : DocumentFlaw)
  | pattern (source explanation : String)
  | notZippable (kind : Kind)
  | overCapacity
  deriving Inhabited

namespace Problem

/-- The sort of failure. -/
def sort : Problem → Failure
  | .missingArgument => .missingArgument
  | .tooManyArguments | .unknownNamed _ | .duplicateNamed _ | .unknownParameter _ =>
    .tooManyArguments
  | .unnamedFilter => .unknownFilter
  | .unnamedTest => .unknownTest
  | .noEscapedDocument => .badSerialization
  | .undefinedPath => .undefinedValue
  | _ => .invalidOperation

/-- What a command did. -/
def commandDetail : CommandFlaw → String
  | .notStarted reason => "cannot run sh: " ++ reason
  | .exited status => "exit status " ++ toString status
  | .killed signal name => "signal: " ++ toString signal ++ " (" ++ name ++ ")"

/-- The words for the cause. -/
def detail? : Problem → Option String
  | .unsupported op a b =>
    some s!"tried to use {op.sign} operator on unsupported types {a.name} and {b.name}"
  | .uncomputable op a b =>
    some s!"unable to calculate {a.display} {op.sign} {b.display}"
  | .textTimes => some "strings can only be multiplied with integers"
  | .textTooLong => some "repeated string is too large"
  | .listTimes => some "sequences and iterables can only be multiplied with integers"
  | .endlessTimes => some "cannot repeat unsized iterables"
  | .notNegatable => none
  | .negationOverflow => some "overflow"
  | .zeroStep => some "cannot slice by step size of 0"
  | .notSliceable k => some s!"value of type {k.name} cannot be sliced"
  | .noContainment => some "cannot perform a containment check on this value"
  | .notIterable k => some s!"{k.name} is not iterable"
  | .noLength k => some s!"cannot calculate length of value of type {k.name}"
  | .notConvertible k target => some s!"cannot convert {k.name} to {target}"
  | .namedAsText => some "cannot convert kwargs to string"
  | .notText => some "value is not a string"
  | .notFloat empty =>
    some (if empty then "cannot parse float from empty string" else "invalid float literal")
  | .missingArgument => none
  | .tooManyArguments => none
  | .unknownNamed name => some ("unknown keyword argument '" ++ name ++ "'")
  | .duplicateNamed name => some ("duplicate argument \x60" ++ name ++ "\x60")
  | .unknownParameter name => some ("unknown keyword argument \x60" ++ name ++ "\x60")
  | .notPairList => some "cannot convert value into pair list"
  | .notPairs => some "cannot convert value into pairs"
  | .badSortKey key => some ("invalid value '" ++ key ++ "' for 'by' parameter")
  | .notList => some "cannot convert value to list"
  | .notReversible k => some s!"cannot reverse values of type {k.name}"
  | .notJoinable k => some s!"cannot join value of type {k.name}"
  | .noFirst => some "cannot get first item from value"
  | .noLast => some "cannot get last item from value"
  | .notAddable k => some s!"can only sum numbers, got {k.name}"
  | .noAbsolute => some "cannot get absolute value"
  | .absoluteOverflow => some "overflow on abs"
  | .notRoundable k => some s!"cannot round value ({k.name})"
  | .zeroCount => some "count cannot be 0"
  | .noFilterName => some "filter name is required"
  | .filterNameNotText => some "filter name must be a string"
  | .unnamedFilter => none
  | .unnamedTest => none
  | .noDocument => some "cannot serialize to JSON"
  | .noEscapedDocument => some "unable to format to JSON"
  | .formatShort => some "not enough arguments for format string"
  | .formatLeft => some "not all arguments converted during string formatting"
  | .formatCut => some "incomplete format"
  | .formatSign c => some ("unsupported format character '" ++ c.toString ++ "'")
  | .formatNotNumber k => some s!"cannot convert {k.name} to number"
  | .rangeStep => some "cannot create range with step of 0"
  | .rangeLength => some "range has too many elements"
  | .namespaceKey k => some s!"expected string keys for namespace(), got {k.name}"
  | .namespaceSource k => some s!"expected object or keyword arguments, got {k.name}"
  | .undefinedPath => none
  | .command flaw => some (commandDetail flaw)
  | .missingEnvironment name =>
    some ("required environmental variable missing: $\x7b" ++ name ++ "\x7d")
  | .emptyValue shown => some ("required value is empty: " ++ shown)
  | .missingFile path => some ("required file missing: " ++ path)
  | .fileIsDirectory path =>
    some ("required file missing: " ++ Text.quoted path ++ " is a directory")
  | .raised message => some message
  | .oddPairs => some "dict requires an even number of arguments (key-value pairs)"
  | .keyNotText => some "dict keys must be strings"
  | .base64 flaw => some ("base64 decode error: " ++ flaw.message)
  | .decoded flaw => some ("UTF-8 decode error: " ++ flaw.message)
  | .document flaw => some flaw.message
  | .pattern source explanation =>
    some ("invalid regex " ++ Text.quoted source ++ ": " ++ explanation)
  | .notZippable k => some s!"zip filter argument must be iterable, got {k.name}"
  | .overCapacity => some "capacity overflow"

/-- The runtime ends the program where the problem occurs. -/
def aborts : Problem → Bool
  | .overCapacity => true
  | _ => false

end Problem
end Stencil
