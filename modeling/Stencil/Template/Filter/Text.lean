import Stencil.Template.Args
import Stencil.Template.Escaping
import Stencil.Text.CaseMap
import Stencil.Value.Format

/-! Filters that make texts of texts. -/
namespace Stencil.Template.Filter

/-- A result that is a text. -/
def asText (s : String) : Value := .ofString s

/-- A text with every word capitalized. -/
def titleFrom : (starts : Bool) → List Char → List Char
  | _, [] => []
  | starts, c :: rest =>
    let isPunctuation := '!' ≤ c && c ≤ '~' && !c.isAlphanum
    if isPunctuation || Text.isBlank c then c :: titleFrom true rest
    else (if starts then Text.upperChar c else Text.lowerChar c) ++ titleFrom false rest

/-- A text with its first character capitalized and all others small. -/
def capitalized (s : String) : String :=
  match s.toList with
  | [] => ""
  | c :: rest => String.ofList (Text.upperChar c) ++ Text.toLower (String.ofList rest)

/-- A text without the line feed, and the carriage return before it, at its end. -/
def withoutEnd (cs : List Char) : List Char :=
  let cs := if cs.getLast? == some '\n' then cs.dropLast else cs
  if cs.getLast? == some '\r' then cs.dropLast else cs

/-- A text whose lines are indented; the first line and empty lines only if that is asked for. -/
def indented (width : Nat) (first blank : Bool) (cs : List Char) : List Char :=
  let space := List.replicate width ' '
  let line (l : List Char) : List Char := if l.isEmpty && !blank then [] else space ++ l
  let all := Text.split ['\n'] none (withoutEnd cs)
  let all := match all with
    | l :: rest => (if first then line l else l) :: rest.map line
    | [] => []
  withoutEnd (all.flatMap fun l => l ++ ['\n'])

/-- A byte in an address. -/
def urlByte (b : UInt8) : List Char :=
  let c := Char.ofNat b.toNat
  if c.isAlphanum || "/.-_".toList.contains c then [c]
  else
    let ds := (Nat.toDigits 16 b.toNat).map Char.toUpper
    '%' :: if ds.length < 2 then '0' :: ds else ds

/-- A text in an address. -/
def urlText (s : String) : String := String.ofList ((Text.Utf8.encodeText s).flatMap urlByte)

/-- A value in an address; a map becomes pairs of names and values. -/
def urlEncoded (v : Value) : String :=
  match v with
  | .undefined | .none => ""
  | .bytes bs => String.ofList (bs.flatMap urlByte)
  | _ =>
    match v.entries? with
    | some es =>
      let pairs := es.filterMap fun (k, w) =>
        if w.isUndefined || w.isNone then none
        else some (urlText k.display ++ "=" ++ urlText w.display)
      "&".intercalate pairs
    | none => urlText v.display

/-- Filters that take a text and nothing else. -/
def onText? : String → Option (String → Except Problem Value)
  | "upper" => some fun s => .ok (asText (Text.toUpper s))
  | "lower" => some fun s => .ok (asText (Text.toLower s))
  | "title" => some fun s => .ok (asText (String.ofList (titleFrom true s.toList)))
  | "capitalize" => some fun s => .ok (asText (capitalized s))
  | "safe" => some fun s => .ok (.text s true)
  | "lines" => some fun s =>
    .ok (.list ((Text.lines s.toList).map fun l => asText (String.ofList l)))
  | "b64encode" => some fun s => .ok (asText (Function.b64Encode s))
  | "b64decode" => some fun s => (Function.b64Decode s).map asText
  | "snakecase" => some fun s => .ok (asText (Function.snakeCase s))
  | "kebabcase" => some fun s => .ok (asText (Function.kebabCase s))
  | "camelcase" => some fun s => .ok (asText (Function.camelCase s))
  | "sha256" => some fun s => .ok (asText (Encoding.Sha256.hexDigest s))
  | _ => none

/-- Filters that take any value and nothing else. -/
def onValue? (e : Escaping) : String → Option (Value → Except Problem Value)
  | "quote" => some fun v => .ok (asText (Function.quote v))
  | "squote" => some fun v => .ok (asText (Function.squote v))
  | "toyaml" => some fun v => (Function.toYaml v).map asText
  | "string" => some fun v =>
    match v with
    | .text .. => .ok v
    | _ => .ok (asText v.display)
  | "urlencode" => some fun v => .ok (asText (urlEncoded v))
  | "escape" | "e" => some fun v =>
    match v with
    | .text _ true => .ok v
    | _ => ((if e == .off then Escaping.html else e).write v).map fun s => .text s true
  | _ => none

/-- A text with one part replaced by another. -/
def replace : Params Value := do
  let s ← Params.text
  let part ← Params.text
  let other ← Params.text
  return asText (String.ofList (Text.replace part.toList other.toList s.toList))

/-- A text without blanks, or certain characters, at its ends. -/
def trim : Params Value := do
  let s ← Params.text
  match ← Params.text? with
  | none => return asText (String.ofList (Text.trimEnds Text.isBlank s.toList))
  | some cs => return asText (String.ofList (Text.trimEnds cs.toList.contains s.toList))

/-- The pieces of a text. -/
def split : Params Value := do
  let s ← Params.text
  let separator ← Params.text?
  let limit ← Params.int? (-Int.pow 2 63) (Int.pow 2 63 - 1) "i64"
  let most : Option Nat := limit.bind fun n => if 0 ≤ n then some n.toNat else none
  let pieces := match separator, most with
    | none, none => Text.words s.toList
    | none, some n => Text.splitBlanks n s.toList
    | some part, n => Text.split part.toList n s.toList
  return .list (pieces.map fun p => asText (String.ofList p))

/-- Filters that read several arguments and no names. -/
def onArguments? : String → Option (Params Value)
  | "replace" => some replace
  | "trim" => some trim
  | "split" => some split
  | "nindent" => some do
    let s ← Params.text
    let n ← Params.size
    match Function.nindent s n with
    | .ok t => return asText t
    | .error p => throw p
  | "trunc" => some do
    let s ← Params.text
    let n ← Params.size
    return asText (Function.trunc s n)
  | "trimprefix" => some do
    let s ← Params.text
    let part ← Params.text
    return asText (Function.trimPrefix s part)
  | "trimsuffix" => some do
    let s ← Params.text
    let part ← Params.text
    return asText (Function.trimSuffix s part)
  | "regex_match" => some do
    let s ← Params.text
    let pattern ← Params.text
    match Function.regexMatch s pattern with
    | .ok b => return .bool b
    | .error p => throw p
  | "regex_replace" => some do
    let s ← Params.text
    let pattern ← Params.text
    let replacement ← Params.text
    match Function.regexReplace s pattern replacement with
    | .ok t => return asText t
    | .error p => throw p
  | _ => none

/-- A text whose lines are indented. -/
def indent (a : Args) : Except Problem Value := do
  let ((s, width?, first?, blank?), named) ← a.readNamed (do
    let s ← Params.text
    let width? ← Params.size?
    let first? ← Params.flag?
    let blank? ← Params.flag?
    return (s, width?, first?, blank?))
  let width ← match width? with
    | some n => pure n
    | none =>
      match Named.get? named "width" with
      | some v => Params.sizeOf (.value v)
      | none => pure 4
  let first ← match first? with
    | some b => pure b
    | none => Named.flag named "first"
  let blank ← match blank? with
    | some b => pure b
    | none => Named.flag named "blank"
  Named.only named ["width", "first", "blank"]
  Function.room width
  return asText (String.ofList (indented width first blank s.toList))

/-- A value as a document between braces and brackets. -/
def toJson (a : Args) : Except Problem Value := do
  let ((v, indent?), named) ← a.readNamed (do
    let v ← Params.value
    let indent? ← Params.value?
    return (v, indent?))
  let step ← match indent? <|> Named.get? named "indent" with
    | none => pure none
    | some (.bool b) => pure (if b then some 2 else none)
    | some n => do pure (some (← Params.sizeOf (.value n)))
  Named.only named ["indent"]
  match Data.ofValue false v with
  | .error _ => throw .noDocument
  | .ok t =>
    Function.room (step.getD 0)
    let s := match step with
      | some n => Data.Json.pretty n 0 t
      | none => Data.Json.compact t
    return .text (Data.Json.escaped s) true

/-- A text with values in its places. -/
def format (a : Args) : Except Problem Value := do
  let ((s, values), named) ← a.readNamed (do
    let s ← Params.text
    let rest ← Params.rest
    return (s, rest.map Argument.toValue))
  return asText (← Format.format s values named)

end Stencil.Template.Filter
