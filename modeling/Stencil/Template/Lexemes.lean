import Stencil.Template.Token

/-! Cutting a template into words.

Outside of expressions and statements everything up to the next marker is one word. Inside, words
follow each other with blanks between them, and the end is recognised only while no bracket is open.
Every step takes at least one character away, so the length of the text bounds their number. -/
namespace Stencil.Template

/-- Where the cutting is: in text, whose leading white space may have to go, or inside an
expression or a statement with some open brackets. -/
inductive Place where
  | text (trim : Bool)
  | code (marker : Marker) (depth : Int)
  deriving Repr

namespace Lexemes

/-- No words at all. -/
def none : Lexemes := ⟨[], Option.none⟩

/-- No words, but something that is wrong at the line where the cutting stands. -/
def failed (line : Nat) (flaw : Flaw) : Lexemes := ⟨[], some ⟨.flaw flaw, some line⟩⟩

/-- Puts words before others. -/
def behind (words : List Lexeme) (l : Lexemes) : Lexemes := { l with words := words ++ l.words }

/-- A piece of text, unless it is empty. -/
def dataAt (line : Nat) (cs : List Char) : List Lexeme :=
  if cs.isEmpty then [] else [⟨.data cs, line⟩]

/-- The opening of an expression or a statement. -/
def opening : Marker → Token
  | .expression => .expressionStart
  | _ => .statementStart

/-- The end of an expression or a statement. -/
def ended : Marker → Token
  | .expression => .expressionEnd
  | _ => .statementEnd

/-- The characters of `text` that are gone in `rest`. -/
def gone (text rest : List Char) : List Char := text.take (text.length - rest.length)

/-- Cuts a text from one place on. -/
def cut : (fuel : Nat) → Place → (line : Nat) → List Char → Lexemes
  | 0, _, _, _ => none
  | fuel + 1, .text trim, start, text =>
    let body := if trim then text.dropWhile Text.isBlank else text
    let line := Lexeme.lineAfter start (gone text body)
    match Lexeme.upToMarker body with
    | (before, Option.none) => behind (dataAt line before) none
    | (before, some (marker, edge, rest)) =>
      let data := dataAt line (if edge == .trim then Text.trimEnd Text.isBlank before else before)
      let line := Lexeme.lineAfter line before
      behind data <|
        match marker with
        | .comment =>
          match Text.cut? ['#', '\x7d'] rest with
          | Option.none => failed (Lexeme.lineAfter line rest) .openComment
          | some (inside, after) =>
            let trims := match inside.getLast? with
              | some c => c == '-'
              | Option.none => edge == .trim
            cut fuel (.text trims) (Lexeme.lineAfter line inside) after
        | .expression =>
          behind [⟨opening marker, line⟩] (cut fuel (.code marker 0) line rest)
        | .statement =>
          match Lexeme.bare? "raw" rest with
          | Option.none =>
            behind [⟨opening marker, line⟩] (cut fuel (.code marker 0) line rest)
          | some (first, inside) =>
            let line := Lexeme.lineAfter line (gone rest inside)
            match Lexeme.upToBare? "endraw" inside with
            | Option.none => failed (Lexeme.lineAfter line inside) .openRaw
            | some (content, opened, last, after) =>
              let shown := if first == .trim then content.dropWhile Text.isBlank else content
              let shown := if opened == .trim then Text.trimEnd Text.isBlank shown else shown
              behind [⟨.data shown, line⟩]
                (cut fuel (.text (last == .trim)) (Lexeme.lineAfter line (gone inside after)) after)
  | fuel + 1, .code marker depth, start, text =>
    let body := text.dropWhile Lexeme.isSpace
    let line := Lexeme.lineAfter start (gone text body)
    if body.isEmpty then none
    else
      match if depth == 0 then Lexeme.ending? marker body else Option.none with
      | some (edge, after) =>
        behind [⟨ended marker, line⟩] (cut fuel (.text (edge == .trim)) line after)
      | Option.none =>
        match Lexeme.word body with
        | (.error flaw, rest) => failed (Lexeme.lineAfter line (gone body rest)) flaw
        | (.ok token, rest) =>
          let deeper := match token with
            | .sign s => Lexeme.depthOf s
            | _ => 0
          behind [⟨token, line⟩]
            (cut fuel (.code marker (depth + deeper)) (Lexeme.lineAfter line (gone body rest)) rest)

/-- The words of a template. -/
def ofText (s : String) : Lexemes := cut (2 * s.length + 2) (.text false) 1 s.toList

end Lexemes
end Stencil.Template
