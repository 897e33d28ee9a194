import Stencil.Text.CaseMap
import Stencil.Text.Property
import Stencil.Text.Script

/-! Sets of characters in patterns.

A set is the question which characters are in it; `weight` estimates how much of a machine it takes
to answer. Sets have names: categories, scripts and properties of characters, in any spelling that
differs only in case, blanks, hyphens and underscores. -/
namespace Stencil.Pattern
open Text

/-- A set of characters. -/
structure CharSet where
  has : Char → Bool
  weight : Nat

namespace CharSet

/-- No character. -/
def empty : CharSet := ⟨fun _ => false, 1⟩

/-- One character. -/
def one (c : Char) : CharSet := ⟨fun d => d == c, c.utf8Size⟩

/-- The characters from `low` to `high`. -/
def range (low high : Char) : CharSet :=
  ⟨fun c => low.toNat ≤ c.toNat && c.toNat ≤ high.toNat, if high.toNat < 128 then 1 else 10⟩

/-- The characters of either set. -/
def union (a b : CharSet) : CharSet := ⟨fun c => a.has c || b.has c, max a.weight b.weight⟩

/-- The characters of both sets. -/
def inter (a b : CharSet) : CharSet := ⟨fun c => a.has c && b.has c, max a.weight b.weight⟩

/-- The characters of the first set that are not in the second. -/
def diff (a b : CharSet) : CharSet := ⟨fun c => a.has c && !b.has c, max a.weight b.weight⟩

/-- The characters of just one of the sets. -/
def symmDiff (a b : CharSet) : CharSet := ⟨fun c => a.has c != b.has c, max a.weight b.weight⟩

/-- All other characters. -/
def complement (a : CharSet) : CharSet := ⟨fun c => !a.has c, max 12 a.weight⟩

/-- The set or all other characters. -/
def negatedIf (negated : Bool) (a : CharSet) : CharSet := if negated then a.complement else a

/-- The characters that agree with one of the set but for case. -/
def folded (a : CharSet) : CharSet := ⟨fun c => (foldClass c).any a.has, a.weight⟩

/-- The characters that agree with one of the set but for the case of an ASCII letter. -/
def foldedAscii (a : CharSet) : CharSet :=
  ⟨fun c => a.has c || a.has c.toLower || a.has c.toUpper, a.weight⟩

/-- The ASCII characters that satisfy `p`. -/
def ascii (p : Char → Bool) : CharSet := ⟨fun c => c.toNat < 128 && p c, 1⟩

/-- Characters of words. -/
def isWordChar (c : Char) : Bool :=
  if c.toNat < 128 then c.isAlphanum || c == '_'
  else isAlphabetic c || inGroup 'M' c || category c == "Nd" || category c == "Pc" ||
    joinControlBounds.holds c.toNat

/-- ASCII characters of words. -/
def isAsciiWordChar (c : Char) : Bool := c.isAlphanum || c == '_'

/-- Characters of words, as a set. -/
def word : CharSet := ⟨isWordChar, 1150⟩

/-- Decimal digits. -/
def digit : CharSet := ⟨fun c => if c.toNat < 128 then c.isDigit else category c == "Nd", 100⟩

/-- Blank characters. -/
def space : CharSet := ⟨isBlank, 20⟩

/-- An ASCII blank. -/
def isAsciiSpace (c : Char) : Bool := c == ' ' || ('\t' ≤ c && c ≤ '\r')

/-- An ASCII character that is neither a letter nor a digit but is shown. -/
def isAsciiPunct (c : Char) : Bool := '!' ≤ c && c ≤ '~' && !c.isAlphanum

/-- The ASCII sets that have a name inside brackets. -/
def asciiNamed? (name : String) : Option CharSet :=
  match name with
  | "alnum" => some (ascii Char.isAlphanum)
  | "alpha" => some (ascii Char.isAlpha)
  | "ascii" => some (ascii fun _ => true)
  | "blank" => some (ascii fun c => c == ' ' || c == '\t')
  | "cntrl" => some (ascii fun c => c.toNat < 0x20 || c.toNat == 0x7F)
  | "digit" => some (ascii Char.isDigit)
  | "graph" => some (ascii fun c => '!' ≤ c && c ≤ '~')
  | "lower" => some (ascii Char.isLower)
  | "print" => some (ascii fun c => ' ' ≤ c && c ≤ '~')
  | "punct" => some (ascii isAsciiPunct)
  | "space" => some (ascii isAsciiSpace)
  | "upper" => some (ascii Char.isUpper)
  | "word" => some (ascii isAsciiWordChar)
  | "xdigit" => some (ascii fun c => c.isDigit || ('a' ≤ c && c ≤ 'f') || ('A' ≤ c && c ≤ 'F'))
  | _ => none

end CharSet

/-! ### Names -/

/-- A name without case, blanks, hyphens, underscores and a leading `is`. -/
def plainName (name : String) : String :=
  let cs := name.toList
  let rest := match cs with
    | a :: b :: rest => if a.toLower == 'i' && b.toLower == 's' then some rest else none
    | _ => none
  let cleaned := fun ds : List Char =>
    (ds.filter fun c => c.toNat < 128 && c != ' ' && c != '_' && c != '-' && !(c.isWhitespace)).map
      Char.toLower
  match rest with
  | some ds => if cleaned ds == ['c'] then "isc" else String.ofList (cleaned ds)
  | none => String.ofList (cleaned cs)

/-- Categories with all their names, the short one first. -/
def categoryNames : List (List String) :=
  ["C Other", "Cc Control cntrl", "Cf Format", "Cn Unassigned", "Co PrivateUse", "Cs Surrogate",
    "L Letter", "LC CasedLetter", "Ll LowercaseLetter", "Lm ModifierLetter", "Lo OtherLetter",
    "Lt TitlecaseLetter", "Lu UppercaseLetter", "M Mark CombiningMark", "Mc SpacingMark",
    "Me EnclosingMark", "Mn NonspacingMark", "N Number", "Nd DecimalNumber digit",
    "Nl LetterNumber", "No OtherNumber", "P Punctuation punct", "Pc ConnectorPunctuation",
    "Pd DashPunctuation", "Pe ClosePunctuation", "Pf FinalPunctuation", "Pi InitialPunctuation",
    "Po OtherPunctuation", "Ps OpenPunctuation", "S Symbol", "Sc CurrencySymbol",
    "Sk ModifierSymbol", "Sm MathSymbol", "So OtherSymbol", "Z Separator", "Zl LineSeparator",
    "Zp ParagraphSeparator", "Zs SpaceSeparator"].map fun line => line.splitOn " "

/-- The category that a plain name means. -/
def categoryNamed? (plain : String) : Option CharSet :=
  if plain == "any" then some ⟨fun _ => true, 10⟩
  else if plain == "assigned" then some ⟨fun c => category c != "Cn", 1150⟩
  else if plain == "ascii" then some (.ascii fun _ => true)
  else
    (categoryNames.find? fun names => names.any fun n => plainName n == plain).bind fun names =>
      names.head?.map fun short => ⟨inCategory short, 700⟩

/-- The script that a plain name means. -/
def scriptNamed? (plain : String) : Option CharSet :=
  (scriptAliases.find? fun names => names.any fun n => plainName n == plain).bind fun names =>
    names.head?.map fun short => ⟨fun c => script c == short, 60⟩

/-- Letters and numbers that a name may start with. -/
def startsName (c : Char) : Bool :=
  inGroup 'L' c || category c == "Nl" ||
    [0x1885, 0x1886, 0x2118, 0x212E, 0x309B, 0x309C].contains c.toNat && c.toNat != 0x2E2F

/-- Characters that a name may go on with. -/
def continuesName (c : Char) : Bool :=
  (startsName c || ["Mn", "Mc", "Nd", "Pc"].contains (category c) ||
    [0xB7, 0x387, 0x19DA].contains c.toNat || (0x1369 ≤ c.toNat && c.toNat ≤ 0x1371))

/-- The property that a plain name means. -/
def propertyNamed? (plain : String) : Option CharSet :=
  let within := fun b : Bounds => some (CharSet.mk (fun c => b.holds c.toNat) 700)
  match plain with
  | "alphabetic" | "alpha" => within alphabeticBounds
  | "lowercase" | "lower" => within lowercaseBounds
  | "uppercase" | "upper" => within uppercaseBounds
  | "whitespace" | "wspace" | "space" => some .space
  | "ideographic" | "ideo" => within ideographicBounds
  | "dash" => within dashBounds
  | "hexdigit" | "hex" => within hexDigitBounds
  | "asciihexdigit" | "ahex" =>
    some (.ascii fun c => c.isDigit || ('a' ≤ c && c ≤ 'f') || ('A' ≤ c && c ≤ 'F'))
  | "emoji" => within emojiBounds
  | "math" => within mathematicalBounds
  | "cased" => within casedBounds
  | "caseignorable" | "ci" => within caseIgnorableBounds
  | "graphemeextend" | "grext" => within graphemeExtendBounds
  | "joincontrol" | "joinc" => within joinControlBounds
  | "idstart" | "ids" | "xidstart" | "xids" => some ⟨startsName, 1150⟩
  | "idcontinue" | "idc" | "xidcontinue" | "xidc" => some ⟨continuesName, 1150⟩
  | _ => none

/-- The set that a name means: a property, a category or a script. -/
def named? (name : String) : Option CharSet :=
  let plain := plainName name
  let property := if plain == "cf" || plain == "sc" || plain == "lc" then none
    else propertyNamed? plain
  property <|> categoryNamed? plain <|> scriptNamed? plain

/-- Kinds of properties that have values. -/
inductive PropertyKind where
  | category
  | script

/-- The kind of property that a name means. -/
def propertyKind? (name : String) : Option PropertyKind :=
  match plainName name with
  | "gc" | "generalcategory" => some .category
  | "sc" | "script" | "scx" | "scriptextensions" => some .script
  | _ => none

/-- The set of the characters whose property has a value. -/
def PropertyKind.valued? (kind : PropertyKind) (value : String) : Option CharSet :=
  match kind with
  | .category => categoryNamed? (plainName value)
  | .script => scriptNamed? (plainName value)

end Stencil.Pattern
