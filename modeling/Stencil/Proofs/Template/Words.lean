import Mathlib
import Stencil.Template.Lexemes

/-! Words as they are written.

`Token.WrittenAs` says how names, texts in quotes, points and brackets are written, and `Spells` how
a text spells several words: blanks may stand before each of them. An expression between double
braces is cut into the words that it spells (`lexemes_expression`). One word is cut off at a time
(`cut_word`), so that whatever stands behind it matters only by its first character. -/
namespace Stencil.Template

/-- Nothing but blanks. -/
def Blanks (cs : List Char) : Prop := cs.all Lexeme.isSpace = true

/-- What may stand between two quotes: a quote and a backslash only behind a backslash. -/
inductive Enclosed (quote : Char) : List Char → Prop
  | nil : Enclosed quote []
  | plain {c : Char} {rest : List Char} (hquote : c ≠ quote) (hslash : c ≠ '\\')
      (hrest : Enclosed quote rest) : Enclosed quote (c :: rest)
  | escape {c : Char} {rest : List Char} (hrest : Enclosed quote rest) :
      Enclosed quote ('\\' :: c :: rest)

/-- Points and brackets. -/
def pathSigns : List Sign := [.dot, .openBracket, .closeBracket, .openParen, .closeParen]

namespace Token

/-- How a word is written: a name by its characters, a point or a bracket by itself, and a text
between quotes of either kind, perhaps with escapes. -/
inductive WrittenAs : Token → List Char → Prop
  | name {s : String} {c : Char} {rest : List Char} (hs : s.toList = c :: rest)
      (hstart : Lexeme.isNameStart c = true) (hrest : rest.all Lexeme.isNameChar = true) :
      WrittenAs (.name s) s.toList
  | sign {s : Sign} (hs : s ∈ pathSigns) : WrittenAs (.sign s) s.text.toList
  | text {quote : Char} {inside : List Char} {s : String} (hquote : quote = '\'' ∨ quote = '"')
      (hinside : Enclosed quote inside) (hs : Lexeme.unescape? inside = some s) :
      WrittenAs (.text s) (quote :: (inside ++ [quote]))

/-- A word ends before a text: a name would go on with a character of a name. -/
def EndsBefore (token : Token) (rest : List Char) : Prop :=
  match token with
  | .name _ => ∀ c ∈ rest.head?, Lexeme.isNameChar c = false
  | _ => True

theorem endsBefore_cons (token : Token) {c : Char} (hc : Lexeme.isNameChar c = false)
    (rest : List Char) : token.EndsBefore (c :: rest) := by
  cases token with
  | name s =>
    intro d hd
    cases hd
    exact hc
  | _ => trivial

/-- How much deeper brackets are behind a word. -/
def deepening : Token → Int
  | .sign s => Lexeme.depthOf s
  | _ => 0

end Token

/-- A text spells words, one behind the other, with or without blanks before them. -/
inductive Spells : List Token → List Char → Prop
  | nil : Spells [] []
  | cons {token : Token} {tokens : List Token} {blanks word rest : List Char}
      (hblanks : Blanks blanks) (hword : token.WrittenAs word) (hend : token.EndsBefore rest)
      (hrest : Spells tokens rest) : Spells (token :: tokens) (blanks ++ (word ++ rest))

/-! ### One word -/

namespace Lexeme
variable {c : Char}

theorem isSpace_of_isNameStart (h : isNameStart c = true) : isSpace c = false := by
  by_contra hspace
  rw [Bool.not_eq_false, isSpace, List.contains_iff_mem] at hspace
  have hblank : c = ' ' ∨ c = '\t' ∨ c = '\n' ∨ c = '\r' ∨ c = '\x0c' := by simpa using hspace
  rcases hblank with rfl | rfl | rfl | rfl | rfl <;> exact absurd h (by decide)

theorem singleSign?_of_isNameStart (h : isNameStart c = true) : singleSign? c = none := by
  unfold singleSign?
  split <;> first | rfl | exact absurd h (by decide)

theorem pairSign?_of_isNameStart (h : isNameStart c = true) (d : Char) : pairSign? c d = none := by
  unfold pairSign?
  split <;> first | rfl | exact absurd h (by decide)

theorem isDigit_of_isNameStart (h : isNameStart c = true) : c.isDigit = false := by
  by_contra hdigit
  have hdigit : 48 ≤ c.toNat ∧ c.toNat ≤ 57 := by
    rw [Bool.not_eq_false] at hdigit
    simpa [Char.isDigit, UInt32.le_iff_toNat_le] using hdigit
  rw [isNameStart, Bool.or_eq_true, beq_iff_eq] at h
  rcases h with h | rfl
  · simp only [Char.isAlpha, Char.isUpper, Char.isLower, Bool.or_eq_true, Bool.and_eq_true,
      decide_eq_true_eq, UInt32.le_iff_toNat_le, ge_iff_le] at h
    change (65 ≤ c.toNat ∧ c.toNat ≤ 90) ∨ 97 ≤ c.toNat ∧ c.toNat ≤ 122 at h
    omega
  · exact absurd hdigit (by decide)

theorem isNameChar_of_isNameStart (h : isNameStart c = true) : isNameChar c = true := by
  rw [isNameStart, Bool.or_eq_true] at h
  rcases h with h | h
  · simp [isNameChar, Char.isAlphanum, h]
  · simp [isNameChar, h]

/-- A point or a bracket is one character, which neither a name nor a longer sign goes on with, and
which neither is a blank nor could end an expression. -/
theorem exists_char_of_mem_pathSigns {s : Sign} (hs : s ∈ pathSigns) :
    ∃ c, s.text.toList = [c] ∧ singleSign? c = some s ∧ (∀ d, pairSign? c d = none) ∧
      isNameChar c = false ∧ isSpace c = false ∧ c ∉ ['-', '+', '\x7d'] := by
  simp only [pathSigns, List.mem_cons, List.not_mem_nil, or_false] at hs
  rcases hs with rfl | rfl | rfl | rfl | rfl <;>
    exact ⟨_, rfl, rfl, fun _ => rfl, by decide, by decide, by decide⟩

theorem pairSign?_head (h : ∀ d, pairSign? c d = none) (rest : List Char) :
    rest.head?.bind (pairSign? c) = none := by
  cases rest with
  | nil => rfl
  | cons d rest => exact h d

/-- What stands between quotes is read up to the second of them. -/
theorem upToQuote?_enclosed {quote : Char} (hquote : quote ≠ '\\') {inside : List Char}
    (h : Enclosed quote inside) (rest : List Char) :
    upToQuote? quote (inside ++ quote :: rest) = some (inside, rest) := by
  induction h with
  | nil => simp [upToQuote?, hquote]
  | plain hplain hslash hrest ih => simp [upToQuote?, hplain, hslash, ih]
  | escape hrest ih => simp [upToQuote?, ih]

theorem word_sign {s : Sign} (hs : s ∈ pathSigns) (rest : List Char) :
    word (s.text.toList ++ rest) = (.ok (.sign s), rest) := by
  obtain ⟨c, htext, hsingle, hpair, -⟩ := exists_char_of_mem_pathSigns hs
  rw [htext, List.singleton_append]
  simp only [word, pairSign?_head hpair, hsingle]

theorem word_name {name rest : List Char} (hstart : isNameStart c = true)
    (hname : ∀ d ∈ name, isNameChar d = true) (hrest : ∀ d ∈ rest.head?, isNameChar d = false) :
    word (c :: (name ++ rest)) = (.ok (.name (String.ofList (c :: name))), rest) := by
  have hquotes : (c == '\'' || c == '"') = false := by
    rw [Bool.or_eq_false_iff, beq_eq_false_iff_ne, beq_eq_false_iff_ne]
    constructor <;> rintro rfl <;> exact absurd hstart (by decide)
  have htake : (c :: (name ++ rest)).takeWhile isNameChar = c :: name := by
    have hbehind : rest.takeWhile isNameChar = [] := by
      cases rest with
      | nil => rfl
      | cons d rest => rw [List.takeWhile_cons, hrest d rfl]; rfl
    rw [List.takeWhile_cons, if_pos (isNameChar_of_isNameStart hstart),
      List.takeWhile_append_of_pos hname, hbehind, List.append_nil]
  simp only [word, pairSign?_head (pairSign?_of_isNameStart hstart),
    singleSign?_of_isNameStart hstart, hquotes, isDigit_of_isNameStart hstart, hstart, htake]
  simp

theorem word_text {quote : Char} (hquote : quote = '\'' ∨ quote = '"') {inside : List Char} {s : String}
    (hinside : Enclosed quote inside) (hs : unescape? inside = some s) (rest : List Char) :
    word (quote :: (inside ++ quote :: rest)) = (.ok (.text s), rest) := by
  have hslash : quote ≠ '\\' := by
    rcases hquote with rfl | rfl <;> decide
  have hpair (d : Char) : pairSign? quote d = none := by
    rcases hquote with rfl | rfl <;> rfl
  have hsingle : singleSign? quote = none := by
    rcases hquote with rfl | rfl <;> rfl
  have hquotes : (quote == '\'' || quote == '"') = true := by
    rcases hquote with rfl | rfl <;> rfl
  simp only [word, pairSign?_head hpair, hsingle, hquotes, if_true,
    upToQuote?_enclosed hslash hinside, hs]

end Lexeme

namespace Token.WrittenAs
variable {token : Token} {cs rest : List Char}

/-- A word as it is written is read as that word. -/
theorem word_eq (h : token.WrittenAs cs) (hrest : token.EndsBefore rest) :
    Lexeme.word (cs ++ rest) = (.ok token, rest) := by
  cases h with
  | name hs hstart hname =>
    rw [hs, List.cons_append, Lexeme.word_name hstart (List.all_eq_true.mp hname) hrest, ← hs,
      String.ofList_toList]
  | sign hs => exact Lexeme.word_sign hs rest
  | text hquote hinside hs =>
    rw [List.cons_append, List.append_assoc, List.singleton_append]
    exact Lexeme.word_text hquote hinside hs rest

/-- A word begins with neither a blank nor what could end an expression. -/
theorem head_eq (h : token.WrittenAs cs) :
    ∃ c more, cs = c :: more ∧ Lexeme.isSpace c = false ∧ c ∉ ['-', '+', '\x7d'] := by
  cases h with
  | @name s c rest hs hstart hname =>
    refine ⟨c, rest, hs, Lexeme.isSpace_of_isNameStart hstart, fun hmem => ?_⟩
    simp only [List.mem_cons, List.not_mem_nil, or_false] at hmem
    rcases hmem with rfl | rfl | rfl <;> exact absurd hstart (by decide)
  | sign hs =>
    obtain ⟨c, htext, -, -, -, hspace, hending⟩ := Lexeme.exists_char_of_mem_pathSigns hs
    exact ⟨c, [], htext, hspace, hending⟩
  | text hquote hinside hs => rcases hquote with rfl | rfl <;> exact ⟨_, _, rfl, by decide, by decide⟩

end Token.WrittenAs

/-! ### Cutting -/

theorem dropWhile_blanks {blanks : List Char} (h : Blanks blanks) {c : Char}
    (hc : Lexeme.isSpace c = false) (rest : List Char) :
    (blanks ++ c :: rest).dropWhile Lexeme.isSpace = c :: rest := by
  rw [List.dropWhile_append_of_pos (List.all_eq_true.mp h), List.dropWhile_cons_of_neg (by simp [hc])]

theorem ending?_eq_none {c : Char} (hc : c ∉ ['-', '+', '\x7d']) (rest : List Char) :
    Lexeme.ending? .expression (c :: rest) = none := by
  simp only [List.mem_cons, List.not_mem_nil, or_false, not_or] at hc
  have hedge : Lexeme.edge (c :: rest) = (.plain, c :: rest) := by
    unfold Lexeme.edge
    split <;> simp_all
  rw [Lexeme.ending?, hedge]
  simp [Lexeme.closing, Text.after?, Ne.symm hc.2.2]

/-- A word is cut off together with the blanks before it. -/
theorem cut_word {token : Token} {blanks word rest : List Char} (hblanks : Blanks blanks)
    (hword : token.WrittenAs word) (hend : token.EndsBefore rest) (fuel line : Nat) (depth : Int) :
    ∃ here next, Lexemes.cut (fuel + 1) (.code .expression depth) line (blanks ++ (word ++ rest)) =
      Lexemes.behind [⟨token, here⟩]
        (Lexemes.cut fuel (.code .expression (depth + token.deepening)) next rest) := by
  obtain ⟨c, more, rfl, hspace, hending⟩ := hword.head_eq
  have hbody : (blanks ++ (c :: more ++ rest)).dropWhile Lexeme.isSpace = c :: more ++ rest :=
    dropWhile_blanks hblanks hspace _
  have hnone : (if depth == 0 then Lexeme.ending? .expression (c :: more ++ rest) else none) = none := by
    rw [List.cons_append, ending?_eq_none hending, ite_self]
  simp only [Lexemes.cut, hbody, hnone, hword.word_eq hend]
  exact ⟨_, _, rfl⟩

/-- What a text spells is cut into those words. -/
theorem cut_spelled {tokens : List Token} {cs : List Char} (h : Spells tokens cs) {tail : List Char}
    (htail : ∀ token : Token, token.EndsBefore tail) (fuel line : Nat) (depth : Int) :
    ∃ words next, words.map (·.token) = tokens ∧
      Lexemes.cut (tokens.length + fuel) (.code .expression depth) line (cs ++ tail) =
        Lexemes.behind words
          (Lexemes.cut fuel (.code .expression (depth + (tokens.map Token.deepening).sum)) next tail) := by
  induction h generalizing line depth with
  | nil => exact ⟨[], line, rfl, by simp [Lexemes.behind]⟩
  | @cons token tokens blanks word rest hblanks hword hend hrest ih =>
    have hend' : token.EndsBefore (rest ++ tail) := by
      cases rest with
      | nil => exact htail token
      | cons d rest => exact hend
    obtain ⟨here, next, hcut⟩ := cut_word hblanks hword hend' (tokens.length + fuel) line depth
    obtain ⟨words, last, hwords, hmore⟩ := ih next (depth + token.deepening)
    refine ⟨⟨token, here⟩ :: words, last, by rw [List.map_cons, hwords], ?_⟩
    rw [List.length_cons, Nat.add_right_comm, List.append_assoc, List.append_assoc, hcut, hmore,
      List.map_cons, List.sum_cons, ← add_assoc]
    rfl

theorem Spells.length_le {tokens : List Token} {cs : List Char} (h : Spells tokens cs) :
    tokens.length ≤ cs.length := by
  induction h with
  | nil => exact Nat.le_refl 0
  | cons hblanks hword hend hrest ih =>
    obtain ⟨c, more, rfl, -⟩ := hword.head_eq
    simp only [List.length_cons, List.length_append]
    omega

/-- Blanks before the first word make no difference. -/
theorem Spells.indent {token : Token} {tokens : List Token} {cs : List Char}
    (h : Spells (token :: tokens) cs) {blanks : List Char} (hblanks : Blanks blanks) :
    Spells (token :: tokens) (blanks ++ cs) := by
  cases h with
  | cons hbefore hword hend hrest =>
    rw [← List.append_assoc]
    refine .cons ?_ hword hend hrest
    rw [Blanks, List.all_append, hblanks, hbefore]
    rfl

theorem Spells.concat_sign {tokens : List Token} {cs : List Char} (h : Spells tokens cs) {s : Sign}
    (hs : s ∈ pathSigns) : Spells (tokens ++ [.sign s]) (cs ++ s.text.toList) := by
  induction h with
  | nil =>
    have hlast : Spells [.sign s] ([] ++ (s.text.toList ++ [])) :=
      .cons rfl (.sign hs) trivial .nil
    rwa [List.nil_append, List.append_nil] at hlast
  | @cons token tokens blanks word rest hblanks hword hend hrest ih =>
    rw [List.cons_append, List.append_assoc, List.append_assoc]
    refine .cons hblanks hword ?_ ih
    cases rest with
    | nil =>
      obtain ⟨c, htext, -, -, hchar, -⟩ := Lexeme.exists_char_of_mem_pathSigns hs
      rw [List.nil_append, htext]
      exact token.endsBefore_cons hchar []
    | cons d rest => exact hend

/-- A name with something in parentheses right behind it. -/
theorem Spells.call {tokens : List Token} {cs : List Char} (h : Spells tokens cs) {name : String}
    (hname : (Token.name name).WrittenAs name.toList) :
    Spells (.name name :: .sign .openParen :: (tokens ++ [.sign .closeParen]))
      (name.toList ++ '(' :: (cs ++ [')'])) := by
  have hinside : Spells (.sign .openParen :: (tokens ++ [.sign .closeParen]))
      ([] ++ ("(".toList ++ (cs ++ ")".toList))) :=
    .cons rfl (.sign (by decide)) trivial (h.concat_sign (by decide))
  have hend : (Token.name name).EndsBefore ("(".toList ++ (cs ++ ")".toList)) :=
    Token.endsBefore_cons _ (by decide) _
  have hblanks : Blanks [] := rfl
  exact .cons hblanks hname hend hinside

theorem cut_opening (fuel line : Nat) (rest : List Char) :
    Lexemes.cut (fuel + 1) (.text false) line ('\x7b' :: '\x7b' :: ' ' :: rest) =
      Lexemes.behind [⟨.expressionStart, line⟩]
        (Lexemes.cut fuel (.code .expression 0) line (' ' :: rest)) := by
  have hmarker : Lexeme.upToMarker ('\x7b' :: '\x7b' :: ' ' :: rest) =
      ([], some (.expression, .plain, ' ' :: rest)) := rfl
  rw [Lexemes.cut]
  simp only [Bool.false_eq_true, if_false, hmarker]
  simp [Lexemes.behind, Lexemes.dataAt, Lexemes.gone, Lexeme.lineAfter, Lexemes.opening]

theorem cut_closing (fuel line : Nat) :
    Lexemes.cut (fuel + 2) (.code .expression 0) line [' ', '\x7d', '\x7d'] =
      ⟨[⟨.expressionEnd, line⟩], none⟩ := rfl

/-- **An expression between double braces is cut into the words that it spells**, if its brackets are
closed. -/
theorem lexemes_expression {token : Token} {tokens : List Token} {text : String}
    (h : Spells (token :: tokens) text.toList)
    (hclosed : ((token :: tokens).map Token.deepening).sum = 0) :
    ∃ words, words.map (·.token) = .expressionStart :: (token :: tokens ++ [.expressionEnd]) ∧
      Lexemes.ofText ("\x7b\x7b " ++ text ++ " \x7d\x7d") = ⟨words, none⟩ := by
  have htoList : ("\x7b\x7b " ++ text ++ " \x7d\x7d").toList =
      '\x7b' :: '\x7b' :: ' ' :: (text.toList ++ [' ', '\x7d', '\x7d']) := by
    simp
  have hspells : Spells (token :: tokens) ([' '] ++ text.toList) := h.indent rfl
  have hblank (token : Token) : token.EndsBefore [' ', '\x7d', '\x7d'] :=
    token.endsBefore_cons (by decide) _
  obtain ⟨fuel, hfuel⟩ : ∃ fuel, 2 * ("\x7b\x7b " ++ text ++ " \x7d\x7d").length + 2 =
      (token :: tokens).length + (fuel + 2) + 1 := by
    have hlength := h.length_le
    rw [← String.length_toList, htoList]
    simp only [List.length_append, List.length_cons, List.length_nil] at hlength ⊢
    exact ⟨2 * text.toList.length + 10 - tokens.length, by omega⟩
  obtain ⟨words, next, hwords, hcut⟩ := cut_spelled hspells hblank (fuel + 2) 1 0
  refine ⟨⟨.expressionStart, 1⟩ :: words ++ [⟨.expressionEnd, next⟩], by simp [hwords], ?_⟩
  rw [Lexemes.ofText, hfuel, htoList, cut_opening]
  change Lexemes.behind _ (Lexemes.cut _ _ _ ([' '] ++ text.toList ++ [' ', '\x7d', '\x7d'])) = _
  rw [hcut, hclosed, Int.add_zero, cut_closing]
  rfl

end Stencil.Template
