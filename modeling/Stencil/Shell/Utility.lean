import Stencil.Decimal.Fixed
import Stencil.Decimal.Read
import Stencil.Encoding.Base64
import Stencil.Pattern.Search
import Stencil.Shell.Arithmetic
import Stencil.Shell.Files

/-! Utilities of the shell.

A utility takes its arguments and its input, and gives its output and its exit status. What it
says to the user beside its output is not kept. -/
namespace Stencil.Shell

/-- What a utility has to work with. -/
structure Supply where
  input : Chars := []
  environment : List (Chars × Chars) := []
  /-- What stands at a path. -/
  kind? : Chars → Option FileKind := fun _ => none
  /-- The contents of a file. -/
  contents? : Chars → Option Chars := fun _ => none

/-- What a utility leaves. -/
structure Outcome where
  output : Chars := []
  status : Nat := 0
  deriving DecidableEq, Repr

namespace Utility

/-- Text as bytes. -/
def bytes (s : String) : Chars := (Text.Utf8.encodeText s).map fun b => Char.ofNat b.toNat

/-- Bytes as text. -/
def text (cs : Chars) : String :=
  Text.Utf8.lossyText (cs.map fun c => UInt8.ofNat c.toNat)

/-- The lines of a text. -/
def lines (cs : Chars) : List Chars :=
  let pieces := Text.split ['\n'] none cs
  if pieces.getLast?.any List.isEmpty then pieces.dropLast else pieces

/-- Lines, each with its end. -/
def unlines (ls : List Chars) : Chars := ls.flatMap fun l => l ++ ['\n']

/-- The character that a letter behind a backslash stands for. -/
def control? : Char → Option Char
  | 'a' => some '\x07'
  | 'b' => some '\x08'
  | 'f' => some '\x0c'
  | 'n' => some '\n'
  | 'r' => some '\r'
  | 't' => some '\t'
  | 'v' => some '\x0b'
  | '\\' => some '\\'
  | _ => none

/-- A byte that is spelled with octal digits. -/
def octal (ds : Chars) : Char :=
  Char.ofNat (ds.foldl (fun n d => n * 8 + (d.toNat - '0'.toNat)) 0 % 256)

/-- The octal digits at the start of a text, at most `most` of them. -/
def octalDigits (most : Nat) (cs : Chars) : Chars :=
  (cs.take most).takeWhile fun c => '0' ≤ c && c ≤ '7'

/-- A text with its escapes replaced, and whether it is to end there. -/
def unescape : (fuel : Nat) → Chars → Chars × Bool
  | 0, _ => ([], false)
  | _ + 1, [] => ([], false)
  | fuel + 1, '\\' :: c :: rest =>
    let andThen (d : Char) (more : Chars) : Chars × Bool :=
      let (out, ends) := unescape fuel more
      (d :: out, ends)
    if c == 'c' then ([], true)
    else if c == '0' then
      let ds := octalDigits 3 rest
      andThen (octal ds) (rest.drop ds.length)
    else
      match control? c with
      | some d => andThen d rest
      | none => andThen '\\' (c :: rest)
  | fuel + 1, c :: rest =>
    let (out, ends) := unescape fuel rest
    (c :: out, ends)

/-- Writes its arguments with blanks between them. -/
def echo (args : List Chars) : Outcome :=
  let (hush, args) := match args with
    | ['-', 'n'] :: rest => (true, rest)
    | _ => (false, args)
  let whole := Text.joinWith [' '] args
  let (out, ends) := unescape (whole.length + 1) whole
  { output := if hush || ends then out else out ++ ['\n'] }

/-- A directive of `printf`: its flags, width and precision. -/
structure Directive where
  left : Bool := false
  zero : Bool := false
  plus : Bool := false
  blank : Bool := false
  alternate : Bool := false
  width : Nat := 0
  precision : Option Nat := none

/-- A text in a field. -/
def Directive.pad (d : Directive) (zeros : Bool) (sign body : Chars) : Chars :=
  let gap := d.width - (sign.length + body.length)
  if d.left then sign ++ body ++ List.replicate gap ' '
  else if zeros then sign ++ List.replicate gap '0' ++ body
  else List.replicate gap ' ' ++ sign ++ body

/-- Digits, at least as many as the precision asks for. -/
def Directive.digits (d : Directive) (ds : Chars) : Chars :=
  match d.precision with
  | some p => List.replicate (p - ds.length) '0' ++ ds
  | none => ds

/-- The number that an argument of `printf` spells, and whether all of it is one. -/
def numberOf (arg : Chars) : Int × Bool :=
  match arg with
  | [] => (0, true)
  | '\'' :: c :: _ => (c.toNat, true)
  | '"' :: c :: _ => (c.toNat, true)
  | _ =>
    match Formula.integer? arg with
    | some n => (n, true)
    | none =>
      let (negative, rest) := Decimal.signed arg
      let ds := rest.takeWhile Char.isDigit
      let n := Int.ofNat (Decimal.natOfDigits ds)
      (if negative then -n else n, false)

/-- One directive, carried out, and whether its argument was fine. -/
def Directive.write (d : Directive) (letter : Char) (arg : Chars) : Chars × Bool :=
  let signOf (negative : Bool) : Chars :=
    if negative then ['-'] else if d.plus then ['+'] else if d.blank then [' '] else []
  let cut (cs : Chars) : Chars := match d.precision with
    | some p => cs.take p
    | none => cs
  let numeric := d.zero && d.precision.isNone
  let (n, fine) := numberOf arg
  let unsigned := (n % Int.pow 2 64).toNat
  if letter == 's' then (d.pad false [] (cut arg), true)
  else if letter == 'b' then (d.pad false [] (cut (unescape (arg.length + 1) arg).1), true)
  else if letter == 'c' then (d.pad false [] (arg.take 1), true)
  else if letter == 'd' || letter == 'i' then
    (d.pad numeric (signOf (n < 0)) (d.digits (toString n.natAbs).toList), fine)
  else if letter == 'u' then (d.pad numeric [] (d.digits (toString unsigned).toList), fine)
  else if letter == 'o' then
    (d.pad numeric (if d.alternate then ['0'] else []) (d.digits (Nat.toDigits 8 unsigned)), fine)
  else if letter == 'x' then
    (d.pad numeric (if d.alternate then ['0', 'x'] else []) (d.digits (Nat.toDigits 16 unsigned)), fine)
  else if letter == 'X' then
    (d.pad numeric (if d.alternate then ['0', 'X'] else [])
      (d.digits ((Nat.toDigits 16 unsigned).map Char.toUpper)), fine)
  else
    match Decimal.float? (if arg.isEmpty then "0" else String.ofList arg) with
    | some x =>
      let (negative, body) := Decimal.fixed (d.precision.getD 6) x
      (d.pad d.zero (signOf negative) body, true)
    | none => (d.pad d.zero [] (Decimal.fixed (d.precision.getD 6) 0.0).2, false)

/-- What `printf` has done so far. -/
structure Printing where
  output : Chars := []
  args : List Chars
  used : Bool := false
  fine : Bool := true
  ended : Bool := false

/-- Reads flags of a directive. -/
def flags (d : Directive) : Chars → Directive × Chars
  | '-' :: rest => flags { d with left := true } rest
  | '0' :: rest => flags { d with zero := true } rest
  | '+' :: rest => flags { d with plus := true } rest
  | ' ' :: rest => flags { d with blank := true } rest
  | '#' :: rest => flags { d with alternate := true } rest
  | rest => (d, rest)

/-- Reads a number of a directive, which may stand among the arguments. -/
def amount (p : Printing) (cs : Chars) : Nat × Printing × Chars :=
  match cs with
  | '*' :: rest => ((numberOf (p.args.headD [])).1.toNat, { p with args := p.args.tail, used := true }, rest)
  | _ => (Decimal.natOfDigits (cs.takeWhile Char.isDigit), p, cs.dropWhile Char.isDigit)

/-- Goes through a format once. -/
def pass : (fuel : Nat) → Printing → Chars → Printing
  | 0, p, _ => p
  | _ + 1, p, [] => p
  | fuel + 1, p, '\\' :: c :: rest =>
    let andThen (d : Char) (more : Chars) : Printing :=
      pass fuel { p with output := p.output ++ [d] } more
    if c == 'c' then { p with ended := true }
    else
      let ds := octalDigits 3 (c :: rest)
      if !ds.isEmpty then andThen (octal ds) ((c :: rest).drop ds.length)
      else
        match control? c with
        | some d => andThen d rest
        | none => andThen '\\' (c :: rest)
  | fuel + 1, p, '%' :: '%' :: rest => pass fuel { p with output := p.output ++ ['%'] } rest
  | fuel + 1, p, '%' :: rest =>
    let (d, rest) := flags {} rest
    let (width, p, rest) := amount p rest
    let d := { d with width }
    let (d, p, rest) := match rest with
      | '.' :: rest =>
        let (precision, p, rest) := amount p rest
        ({ d with precision := some precision }, p, rest)
      | _ => (d, p, rest)
    match rest with
    | letter :: rest =>
      if "sbcdiuoxXfFeEgG".toList.contains letter then
        let arg := p.args.headD []
        let (out, fine) := d.write letter arg
        let ends := letter == 'b' && (unescape (arg.length + 1) arg).2
        let p := { p with
          output := p.output ++ out, args := p.args.tail, used := true, fine := p.fine && fine }
        if ends then { p with ended := true } else pass fuel p rest
      else { p with fine := false, ended := true }
    | [] => { p with fine := false, ended := true }
  | fuel + 1, p, c :: rest => pass fuel { p with output := p.output ++ [c] } rest

/-- Goes through a format as long as there are arguments. -/
def passes (format : Chars) : (fuel : Nat) → Printing → Printing
  | 0, p => p
  | fuel + 1, p =>
    let p := pass (format.length + 1) { p with used := false } format
    if p.ended || p.args.isEmpty || !p.used then p else passes format fuel p

/-- Writes its arguments as a format says. -/
def printf (args : List Chars) : Outcome :=
  let args := if args.head? == some ['-', '-'] then args.tail else args
  match args with
  | [] => { status := 2 }
  | format :: rest =>
    let p := passes format (rest.length + 1) { args := rest }
    { output := p.output, status := if p.fine then 0 else 1 }

/-- The inputs that a utility's operands name, and whether all of them are there. -/
def inputs (s : Supply) (operands : List Chars) : Chars × Bool :=
  if operands.isEmpty then (s.input, true)
  else
    let all := operands.map fun o => if o == ['-'] then some s.input else s.contents? o
    (all.flatMap fun cs? => cs?.getD [], all.all Option.isSome)

/-- Applies a function to the inputs of a utility. -/
def filter (s : Supply) (operands : List Chars) (f : Chars → Chars) : Outcome :=
  let (cs, fine) := inputs s operands
  { output := f cs, status := if fine then 0 else 1 }

/-- Options at the start of arguments (single letters, those in `valued` with a value), and the
operands behind them. -/
def options (valued : Chars) : (fuel : Nat) → List Chars → List (Char × Chars) × List Chars
  | 0, args => ([], args)
  | _ + 1, [] => ([], [])
  | fuel + 1, arg :: rest =>
    match arg with
    | '-' :: c :: more =>
      if c == '-' && more.isEmpty then ([], rest)
      else if valued.contains c then
        if more.isEmpty then
          let (os, operands) := options valued fuel rest.tail
          ((c, rest.headD []) :: os, operands)
        else
          let (os, operands) := options valued fuel rest
          ((c, more) :: os, operands)
      else
        let (os, operands) := options valued fuel (if more.isEmpty then rest else ('-' :: more) :: rest)
        ((c, []) :: os, operands)
    | _ =>
      let (os, operands) := options valued fuel rest
      (os, arg :: operands)

/-- Enough fuel to read the options among arguments. -/
def optionFuel (args : List Chars) : Nat := args.length + args.flatten.length + 1

/-- The value of an option. -/
def option? (os : List (Char × Chars)) (c : Char) : Option Chars := os.lookup c

/-- The characters that a set of `tr` names. -/
def characters : (fuel : Nat) → Chars → Chars
  | 0, _ => []
  | _ + 1, [] => []
  | fuel + 1, '\\' :: c :: rest =>
    let ds := octalDigits 3 (c :: rest)
    if !ds.isEmpty then octal ds :: characters fuel ((c :: rest).drop ds.length)
    else (control? c).getD c :: characters fuel rest
  | fuel + 1, '[' :: ':' :: rest =>
    let name := String.ofList (rest.takeWhile (· != ':'))
    let all := (List.range 256).map Char.ofNat
    let members := all.filter fun c => match name with
      | "lower" => c.isLower
      | "upper" => c.isUpper
      | "alpha" => c.isAlpha
      | "digit" => c.isDigit
      | "alnum" => c.isAlphanum
      | "space" => c == ' ' || ('\t' ≤ c && c ≤ '\r')
      | "blank" => c == ' ' || c == '\t'
      | "punct" => '!' ≤ c && c ≤ '~' && !c.isAlphanum
      | "print" => ' ' ≤ c && c ≤ '~'
      | "cntrl" => c < ' ' || c == '\x7f'
      | "xdigit" => c.isDigit || ('a' ≤ c && c ≤ 'f') || ('A' ≤ c && c ≤ 'F')
      | _ => false
    members ++ characters fuel (rest.drop (name.length + 2))
  | fuel + 1, a :: '-' :: b :: rest =>
    let range := ((List.range 256).map Char.ofNat).filter fun c => a ≤ c && c ≤ b
    range ++ characters fuel rest
  | fuel + 1, c :: rest => c :: characters fuel rest

/-- A text with runs of certain characters cut down to one. -/
def squeeze (p : Char → Bool) : Chars → Chars
  | [] => []
  | [c] => [c]
  | c :: d :: rest => if c == d && p c then squeeze p (d :: rest) else c :: squeeze p (d :: rest)

/-- Replaces, deletes or squeezes characters. -/
def tr (s : Supply) (args : List Chars) : Outcome :=
  let (os, sets) := options [] (optionFuel args) args
  let set (n : Nat) : Chars := match sets[n]? with
    | some cs => characters (cs.length + 1) cs
    | none => []
  let first := set 0
  let second := set 1
  let complement := (option? os 'c').isSome || (option? os 'C').isSome
  let inFirst (c : Char) : Bool := first.contains c != complement
  let deletes := (option? os 'd').isSome
  let squeezes := (option? os 's').isSome
  if sets.isEmpty || (!deletes && !squeezes && sets.length < 2) then { status := 1 }
  else if deletes then
    let kept := s.input.filter fun c => !inFirst c
    { output := if squeezes then squeeze second.contains kept else kept }
  else
    let last := second.getLast?
    let change (c : Char) : Char :=
      if !inFirst c || second.isEmpty then c
      else if complement then last.getD c
      else
        let place := first.length - 1 - (first.reverse.idxOf c)
        (second[place]?).getD (last.getD c)
    let out := s.input.map change
    { output :=
        if squeezes then squeeze (if second.isEmpty then inFirst else second.contains) out else out }

/-- A number at the right of a field. -/
def rightAligned (width n : Nat) : Chars :=
  let ds := (toString n).toList
  List.replicate (width - ds.length) ' ' ++ ds

/-- Counts lines, words and bytes. -/
def wc (s : Supply) (args : List Chars) : Outcome :=
  let (os, operands) := options [] (optionFuel args) args
  let (cs, fine) := inputs s operands
  let has (c : Char) : Bool := os.isEmpty && c != 'm' || (option? os c).isSome
  let words := (Text.words cs).length
  let counts :=
    (if has 'l' then [cs.count '\n'] else []) ++ (if has 'w' then [words] else []) ++
      (if has 'm' then [(text cs).length] else []) ++ (if has 'c' then [cs.length] else [])
  let width := if operands.isEmpty && counts.length > 1 then 7 else 1
  let name := match operands with
    | o :: _ => ' ' :: o
    | [] => []
  { output := Text.joinWith [' '] (counts.map (rightAligned width)) ++ name ++ ['\n'],
    status := if fine then 0 else 1 }

/-- The count that `head` and `tail` are given: a number of lines or of bytes. -/
def countOf (os : List (Char × Chars)) : Bool × Chars :=
  match option? os 'c' with
  | some n => (true, n)
  | none => (false, (option? os 'n').getD "10".toList)

/-- Arguments with a count such as `-5` written out. -/
def spelledCount (args : List Chars) : List Chars :=
  match args with
  | ('-' :: d :: more) :: rest => if d.isDigit then ['-', 'n'] :: (d :: more) :: rest else args
  | _ => args

/-- The start of its input. -/
def head (s : Supply) (args : List Chars) : Outcome :=
  let args := spelledCount args
  let (os, operands) := options ['n', 'c'] (optionFuel args) args
  let (inBytes, n) := countOf os
  let keep {α : Type} (xs : List α) : List α := match n with
    | '-' :: ds => xs.take (xs.length - Decimal.natOfDigits ds)
    | ds => xs.take (Decimal.natOfDigits ds)
  filter s operands fun cs =>
    if inBytes then keep cs
    else
      let ls := keep (lines cs)
      if ls.length == (lines cs).length then cs else unlines ls

/-- The end of its input. -/
def tail (s : Supply) (args : List Chars) : Outcome :=
  let args := spelledCount args
  let (os, operands) := options ['n', 'c'] (optionFuel args) args
  let (inBytes, n) := countOf os
  let keep {α : Type} (xs : List α) : List α := match n with
    | '+' :: ds => xs.drop (Decimal.natOfDigits ds - 1)
    | '-' :: ds => xs.drop (xs.length - Decimal.natOfDigits ds)
    | ds => xs.drop (xs.length - Decimal.natOfDigits ds)
  filter s operands fun cs =>
    if inBytes then keep cs
    else
      let out := unlines (keep (lines cs))
      if cs.getLast? == some '\n' then out else out.dropLast

/-- Its input's lines in order. -/
def sort (s : Supply) (args : List Chars) : Outcome :=
  let (os, operands) := options ['k', 't'] (optionFuel args) args
  let has (c : Char) : Bool := (option? os c).isSome
  let number (l : Chars) : Int := (numberOf (l.dropWhile (· == ' '))).1
  let before (a b : Chars) : Bool :=
    if has 'n' && number a != number b then number a ≤ number b else !List.lex b a
  filter s operands fun cs =>
    let sorted := (lines cs).mergeSort before
    let sorted := if has 'u' then sorted.eraseDups else sorted
    unlines (if has 'r' then sorted.reverse else sorted)

/-- Runs of equal lines, with their lengths. -/
def runs : List Chars → List (Nat × Chars)
  | [] => []
  | l :: ls =>
    match runs ls with
    | (n, m) :: more => if l == m then (n + 1, m) :: more else (1, l) :: (n, m) :: more
    | [] => [(1, l)]

/-- Its input's lines, runs of equal ones cut down to one. -/
def uniq (s : Supply) (args : List Chars) : Outcome :=
  let (os, operands) := options [] (optionFuel args) args
  let has (c : Char) : Bool := (option? os c).isSome
  filter s operands fun cs =>
    let rs := (runs (lines cs)).filter fun r =>
      (!has 'd' || r.1 > 1) && (!has 'u' || r.1 == 1)
    unlines (rs.map fun (n, l) => if has 'c' then rightAligned 7 n ++ ' ' :: l else l)

/-- The ranges that a list such as `1,3-5` names. -/
def ranges (cs : Chars) : List (Nat × Option Nat) :=
  (Text.split [','] none cs).map fun part =>
    let first := part.takeWhile Char.isDigit
    let rest := part.dropWhile Char.isDigit
    let low := if first.isEmpty then 1 else Decimal.natOfDigits first
    match rest with
    | '-' :: [] => (low, none)
    | '-' :: ds => (low, some (Decimal.natOfDigits ds))
    | _ => (low, some low)

/-- Parts of each line. -/
def cut (s : Supply) (args : List Chars) : Outcome :=
  let (os, operands) := options ['d', 'f', 'c', 'b'] (optionFuel args) args
  let chosen (rs : List (Nat × Option Nat)) (n : Nat) : Bool :=
    rs.any fun (low, high?) => low ≤ n && high?.all (n ≤ ·)
  let pick {α : Type} (rs : List (Nat × Option Nat)) (xs : List α) : List α :=
    (xs.zipIdx 1).filterMap fun (x, n) => if chosen rs n then some x else none
  let separator := ((option? os 'd').bind List.head?).getD '\t'
  filter s operands fun cs => unlines <| (lines cs).map fun l =>
    match option? os 'f' with
    | some f =>
      let fields := Text.split [separator] none l
      if fields.length == 1 then (if (option? os 's').isSome then [] else l)
      else Text.joinWith [separator] (pick (ranges f) fields)
    | none => pick (ranges ((option? os 'c' <|> option? os 'b').getD [])) l

/-- The numbers from a first to a last one, with a step. -/
def seq (args : List Chars) : Outcome :=
  let numbers := args.filterMap Formula.integer?
  if numbers.length != args.length then { status := 1 }
  else
    let (first, step, last) := match numbers with
      | [last] => (1, 1, last)
      | [first, last] => (first, 1, last)
      | first :: step :: last :: _ => (first, step, last)
      | [] => (1, 0, 0)
    if step == 0 then { status := 1 }
    else
      let count := ((last - first) / step + 1).toNat
      let terms := (List.range (min count 100000)).map fun i => first + step * Int.ofNat i
      { output := unlines (terms.map fun n => (toString n).toList) }

/-- A path without the slashes at its end. -/
def unslashed (cs : Chars) : Chars :=
  let cut := Text.trimEnd (· == '/') cs
  if cut.isEmpty && !cs.isEmpty then ['/'] else cut

/-- The last piece of a path. -/
def basename (args : List Chars) : Outcome :=
  match args with
  | [] => { status := 1 }
  | path :: more =>
    let path := unslashed path
    let name := if path == ['/'] then path else (path.reverse.takeWhile (· != '/')).reverse
    let ending := more.headD []
    let name :=
      if ending != name && ending.reverse.isPrefixOf name.reverse then
        name.take (name.length - ending.length)
      else name
    { output := name ++ ['\n'] }

/-- A path without its last piece. -/
def dirname (args : List Chars) : Outcome :=
  match args with
  | [] => { status := 1 }
  | path :: _ =>
    let path := unslashed path
    let start := (path.reverse.dropWhile (· != '/')).reverse
    let out := if start.isEmpty then ['.'] else unslashed start
    { output := out ++ ['\n'] }

/-- The environment, or values of it. -/
def printenv (s : Supply) (args : List Chars) : Outcome :=
  if args.isEmpty then
    { output := unlines (s.environment.map fun (name, value) => name ++ '=' :: value) }
  else
    let found := args.map fun name => s.environment.lookup name
    { output := unlines (found.filterMap id), status := if found.all Option.isSome then 0 else 1 }

/-- A basic regular expression, written as an extended one. -/
def extended : Chars → Chars
  | [] => []
  | '\\' :: c :: rest =>
    if "(){}+?|".toList.contains c then c :: extended rest else '\\' :: c :: extended rest
  | c :: rest => if "(){}+?|".toList.contains c then '\\' :: c :: extended rest else c :: extended rest

/-- A pattern of `grep` or `sed`. -/
def regex? (isExtended : Bool) (cs : Chars) : Option Pattern.Regex :=
  (Pattern.Regex.ofPattern (text (if isExtended then cs else extended cs))).toOption

/-- The lines that a pattern matches. -/
def grep (s : Supply) (args : List Chars) : Outcome :=
  let (os, operands) := options ['e'] (optionFuel args) args
  let has (c : Char) : Bool := (option? os c).isSome
  let (pattern?, operands) := match option? os 'e' with
    | some p => (some p, operands)
    | none => (operands.head?, operands.tail)
  match pattern? with
  | none => { status := 2 }
  | some pattern =>
    let pattern := if has 'i' then "(?i)".toList ++ (if has 'E' then pattern else extended pattern) else pattern
    match regex? (has 'E' || has 'i') pattern with
    | none => { status := 2 }
    | some r =>
      let (cs, fine) := inputs s operands
      let hits := (lines cs).filter fun l =>
        (if has 'F' then Text.holds pattern l else r.isMatch (text l)) != has 'v'
      let out :=
        if has 'q' then []
        else if has 'c' then (toString hits.length).toList ++ ['\n']
        else unlines hits
      { output := out, status := if !fine then 2 else if hits.isEmpty then 1 else 0 }

/-- The replacement of a `sed` command, in the notation of patterns. -/
def replacement : Chars → Chars
  | [] => []
  | '\\' :: c :: rest =>
    if c.isDigit then "$\x7b".toList ++ c :: '\x7d' :: replacement rest
    else if c == 'n' then '\n' :: replacement rest
    else c :: replacement rest
  | '&' :: rest => "$\x7b0\x7d".toList ++ replacement rest
  | '$' :: rest => "$$".toList ++ replacement rest
  | c :: rest => c :: replacement rest

/-- Substitutes in each line. -/
def sed (s : Supply) (args : List Chars) : Outcome :=
  let (os, operands) := options ['e'] (optionFuel args) args
  let isExtended := (option? os 'E').isSome || (option? os 'r').isSome
  let (script?, operands) := match option? os 'e' with
    | some p => (some p, operands)
    | none => (operands.head?, operands.tail)
  match script? with
  | some ('s' :: sign :: rest) =>
    match Text.split [sign] none rest with
    | [pattern, new, marks] =>
      match regex? isExtended pattern with
      | some r =>
        let everywhere := marks.contains 'g'
        filter s operands fun cs => unlines <| (lines cs).map fun l =>
          let line := text l
          let whole := line.toList.toArray
          let parts := Pattern.replacementParts (new.length * 4 + 8) (text (replacement new)).toList
          if everywhere then bytes (r.replaceAll line (text (replacement new)))
          else
            match r.find? whole 0 with
            | some slots =>
              let (start, stop) := Pattern.boundsOf slots
              bytes (String.ofList (line.toList.take start ++ r.expand whole slots parts ++
                line.toList.drop stop))
            | none => l
      | none => { status := 1 }
    | _ => { status := 1 }
  | _ => { status := 1 }

/-- The outcome of a test without connectives. -/
def holds? (s : Supply) : List Chars → Option Bool
  | [] => some false
  | [a] => some (!a.isEmpty)
  | [sign, a] =>
    match String.ofList sign with
    | "!" => some a.isEmpty
    | "-n" => some (!a.isEmpty)
    | "-z" => some a.isEmpty
    | "-e" => some (s.kind? a).isSome
    | "-f" => some (s.kind? a == some .plain)
    | "-d" => some (s.kind? a == some .directory)
    | "-c" => some (s.kind? a == some .device)
    | "-r" => some (s.kind? a).isSome
    | "-w" => some (s.kind? a).isSome
    | "-x" => some (s.kind? a == some .directory)
    | "-s" => some (s.kind? a == some .plain || s.kind? a == some .directory)
    | "-t" => some false
    | "-L" => some false
    | "-h" => some false
    | _ => none
  | [a, sign, b] =>
    let compare (p : Int → Int → Bool) : Option Bool := do
      some (p (← Formula.integer? a) (← Formula.integer? b))
    match String.ofList sign with
    | "=" => some (a == b)
    | "!=" => some (a != b)
    | "-eq" => compare (· == ·)
    | "-ne" => compare (· != ·)
    | "-lt" => compare (· < ·)
    | "-le" => compare (· ≤ ·)
    | "-gt" => compare (· > ·)
    | "-ge" => compare (· ≥ ·)
    | "-a" => some (!a.isEmpty && !b.isEmpty)
    | "-o" => some (!a.isEmpty || !b.isEmpty)
    | _ =>
      if a == ['!'] then (holds? s [sign, b]).map (!·)
      else if a == ['('] && b == [')'] then some (!sign.isEmpty)
      else none
  | _ => none

/-- The outcome of a test: alternatives, then conjunctions, then negations. -/
def verdict? (s : Supply) : (fuel : Nat) → List Chars → Option Bool
  | 0, _ => none
  | fuel + 1, args =>
    match holds? s args with
    | some b => some b
    | none =>
      let divide (sign : String) : Option (List Chars × List Chars) :=
        let before := args.takeWhile (· != sign.toList)
        if before.length < args.length then some (before, args.drop (before.length + 1)) else none
      match divide "-o" with
      | some (a, b) => do some ((← verdict? s fuel a) || (← verdict? s fuel b))
      | none =>
        match divide "-a" with
        | some (a, b) => do some ((← verdict? s fuel a) && (← verdict? s fuel b))
        | none =>
          match args with
          | ['!'] :: rest => (verdict? s fuel rest).map (!·)
          | ['('] :: rest => if rest.getLast? == some [')'] then verdict? s fuel rest.dropLast else none
          | _ => none

/-- Tells by its status whether a test holds. -/
def test (s : Supply) (args : List Chars) : Outcome :=
  match verdict? s (args.length + 1) args with
  | some b => { status := if b then 0 else 1 }
  | none => { status := 2 }

/-- Computes or compares its arguments. -/
def expr (args : List Chars) : Outcome :=
  let answer (cs : Chars) : Outcome :=
    { output := cs ++ ['\n'], status := if cs.isEmpty || cs == ['0'] then 1 else 0 }
  match args with
  | [a] => answer a
  | [a, sign, b] =>
    let sign := String.ofList sign
    match Formula.integer? a, Formula.integer? b with
    | some m, some n =>
      match Formula.operate (if sign == "=" then "==" else sign) m n with
      | some r => answer (toString r).toList
      | none => { status := 2 }
    | _, _ =>
      if sign == "=" then answer [if a == b then '1' else '0']
      else if sign == "!=" then answer [if a != b then '1' else '0']
      else { status := 2 }
  | [a, b] => if a == "length".toList then answer (toString b.length).toList else { status := 2 }
  | _ => { status := 2 }

/-- Carries out a utility, if there is one of that name. -/
def run? (s : Supply) (name : String) (args : List Chars) : Option Outcome :=
  let text1 (f : Chars → Chars) : Option Outcome :=
    let (_, operands) := options [] (optionFuel args) args
    some (filter s operands f)
  match name with
  | "echo" => some (echo args)
  | "printf" => some (printf args)
  | "cat" => text1 id
  | "tee" => some { output := s.input }
  | "tr" => some (tr s args)
  | "wc" => some (wc s args)
  | "head" => some (head s args)
  | "tail" => some (tail s args)
  | "sort" => some (sort s args)
  | "uniq" => some (uniq s args)
  | "cut" => some (cut s args)
  | "rev" => text1 fun cs => unlines ((lines cs).map List.reverse)
  | "tac" => text1 fun cs => unlines (lines cs).reverse
  | "seq" => some (seq args)
  | "basename" => some (basename args)
  | "dirname" => some (dirname args)
  | "printenv" => some (printenv s args)
  | "grep" => some (grep s args)
  | "sed" => some (sed s args)
  | "expr" => some (expr args)
  | "test" => some (test s args)
  | "true" => some {}
  | "false" => some { status := 1 }
  | "sleep" => some {}
  | "base64" =>
    some (filter s [] fun cs =>
      (Encoding.Base64.encode (cs.map fun (c : Char) => UInt8.ofNat c.toNat)).map
        (fun b => Char.ofNat b.toNat) ++ ['\n'])
  | _ => none

end Utility
end Stencil.Shell
