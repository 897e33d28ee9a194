import Stencil.Function.Text
import Stencil.Proofs.Text.Replace

/-! Quotes and their readers.

A reader of quotes takes a text from behind an opening quote up to the quote that closes it, and
leaves what stands behind that. `quote` escapes in two passes over the text, and the second leaves
alone the backslashes that the first wrote: both together are one pass (`escapeDouble_eq_flatMap`).
So a reader finds the text of the value again, whatever stands behind it (`quote_reads_back`).
Between single quotes a quote is written twice, so the reader finds the text unless one more quote
stands right behind it (`squote_reads_back`). -/
namespace Stencil.Function

/-! ### Double quotes -/

/-- A sign between double quotes: a quote or a backslash stands behind a backslash. -/
def escapedSign (c : Char) : List Char := if c = '"' ∨ c = '\\' then ['\\', c] else [c]

/-- A text from behind an opening double quote, and what is left behind the closing one. A backslash
or a double quote may stand behind a backslash, and nothing else. -/
def readDouble : List Char → Option (List Char × List Char)
  | [] => none
  | '"' :: rest => some ([], rest)
  | '\\' :: '\\' :: rest => (readDouble rest).map fun r => ('\\' :: r.1, r.2)
  | '\\' :: '"' :: rest => (readDouble rest).map fun r => ('"' :: r.1, r.2)
  | '\\' :: _ => none
  | c :: rest => (readDouble rest).map fun r => (c :: r.1, r.2)

/-- **The two passes are one**: the backslashes that the second one writes come after the first. -/
theorem escapeDouble_eq_flatMap (cs : List Char) : escapeDouble cs = cs.flatMap escapedSign := by
  rw [escapeDouble, Text.replace_single, Text.replace_single, List.flatMap_assoc]
  congr 1
  funext c
  by_cases hback : c = '\\'
  · subst hback
    rfl
  · by_cases hquote : c = '"'
    · subst hquote
      rfl
    · simp [escapedSign, hback, hquote]

/-- A sign is read back from what is written for it. -/
theorem readDouble_escapedSign (c : Char) (rest : List Char) :
    readDouble (escapedSign c ++ rest) = (readDouble rest).map fun r => (c :: r.1, r.2) := by
  by_cases hback : c = '\\'
  · subst hback
    rfl
  · by_cases hquote : c = '"'
    · subst hquote
      rfl
    · rw [escapedSign, if_neg (by simp [hback, hquote]), List.singleton_append]
      simp [readDouble, hback]

/-- A text is read back up to the quote behind it. -/
theorem readDouble_escapeDouble (cs rest : List Char) :
    readDouble (escapeDouble cs ++ '"' :: rest) = some (cs, rest) := by
  rw [escapeDouble_eq_flatMap]
  induction cs with
  | nil => rfl
  | cons c cs ih =>
    rw [List.flatMap_cons, List.append_assoc, readDouble_escapedSign, ih]
    rfl

theorem quote_append (v : Value) (r : String) :
    (quote v ++ r).toList = '"' :: (escapeDouble (textOf v).toList ++ '"' :: r.toList) := by
  rw [quote, String.toList_append, String.toList_ofList]
  simp

/-- Values with one quoted form have one text. -/
theorem quote_inj {v w : Value} (h : quote v = quote w) : textOf v = textOf w := by
  have hinner : escapeDouble (textOf v).toList ++ ['"'] = escapeDouble (textOf w).toList ++ ['"'] :=
    (List.cons.inj (String.ofList_inj.mp h)).2
  have hread := congrArg readDouble hinner
  rw [readDouble_escapeDouble, readDouble_escapeDouble] at hread
  exact String.toList_inj.mp (congrArg Prod.fst (Option.some.inj hread))

/-- **A quoted value is read back**, whatever stands behind it: the reader meets no escape but those
of backslashes and quotes, it takes the text of the value, and it leaves all that follows. What it
reads is written in one pass, sign by sign. So values have the same quoted form only if they have
the same text. -/
theorem quote_reads_back (v : Value) (r : String) :
    (∃ inner, (quote v ++ r).toList = '"' :: inner ∧
        readDouble inner = some ((textOf v).toList, r.toList)) ∧
      (∀ cs, escapeDouble cs = cs.flatMap escapedSign) ∧
      ∀ w, quote v = quote w ↔ textOf v = textOf w := by
  refine ⟨⟨_, quote_append v r, readDouble_escapeDouble _ _⟩, escapeDouble_eq_flatMap,
    fun w => ⟨quote_inj, fun h => ?_⟩⟩
  rw [quote, quote, h]

/-- A quote behind a backslash, and a backslash at the end. -/
example : quote (.text "a\\\"\\" false) = "\"a\\\\\\\"\\\\\"" := by decide +kernel

/-! ### Single quotes -/

/-- A sign between single quotes: a quote is written twice. -/
def doubledSign (c : Char) : List Char := if c = '\'' then ['\'', '\''] else [c]

/-- A text from behind an opening single quote, and what is left behind the closing one. Two quotes
side by side are one in the text; the first one that is alone closes it. -/
def readSingle : List Char → Option (List Char × List Char)
  | [] => none
  | '\'' :: '\'' :: rest => (readSingle rest).map fun r => ('\'' :: r.1, r.2)
  | '\'' :: rest => some ([], rest)
  | c :: rest => (readSingle rest).map fun r => (c :: r.1, r.2)

theorem readSingle_doubledSign (c : Char) (rest : List Char) :
    readSingle (doubledSign c ++ rest) = (readSingle rest).map fun r => (c :: r.1, r.2) := by
  by_cases hquote : c = '\''
  · subst hquote
    rfl
  · rw [doubledSign, if_neg hquote, List.singleton_append]
    simp [readSingle, hquote]

/-- The signs of a text are read before whatever stands behind them. -/
theorem readSingle_doubled (cs rest : List Char) :
    readSingle (cs.flatMap doubledSign ++ rest) =
      (readSingle rest).map fun r => (cs ++ r.1, r.2) := by
  induction cs with
  | nil => simp
  | cons c cs ih =>
    rw [List.flatMap_cons, List.append_assoc, readSingle_doubledSign, ih, Option.map_map]
    rfl

theorem readSingle_closing {rest : List Char} (h : rest.head? ≠ some '\'') :
    readSingle ('\'' :: rest) = some ([], rest) := by
  cases rest with
  | nil => rfl
  | cons x more =>
    have hx : x ≠ '\'' := by simpa using h
    simp [readSingle, hx]

/-- A quote closes a text exactly if no other one stands right behind it. -/
theorem readSingle_quote_iff (cs rest : List Char) :
    readSingle (cs.flatMap doubledSign ++ '\'' :: rest) = some (cs, rest) ↔
      rest.head? ≠ some '\'' := by
  rw [readSingle_doubled]
  constructor
  · intro hread hhead
    obtain ⟨more, rfl⟩ := List.head?_eq_some_iff.mp hhead
    -- The two quotes are one in what is read, which is longer than the text.
    have hpair : readSingle ('\'' :: '\'' :: more) =
        (readSingle more).map fun r => ('\'' :: r.1, r.2) := rfl
    rw [hpair, Option.map_map] at hread
    obtain ⟨r, -, hr⟩ := Option.map_eq_some_iff.mp hread
    have htext : cs ++ '\'' :: r.1 = cs := congrArg Prod.fst hr
    exact absurd (List.append_right_eq_self.mp htext) (List.cons_ne_nil _ _)
  · intro hhead
    rw [readSingle_closing hhead, Option.map_some, List.append_nil]

theorem squote_append (v : Value) (r : String) :
    (squote v ++ r).toList =
      '\'' :: ((textOf v).toList.flatMap doubledSign ++ '\'' :: r.toList) := by
  rw [squote, String.toList_append, String.toList_ofList, Text.replace_single]
  simp only [List.cons_append, List.append_assoc, List.nil_append]
  rfl

/-- **A value between single quotes is read back** exactly if no quote stands right behind it: then
the reader takes the text of the value, with as many quotes as there are anywhere in it, and leaves
all that follows. -/
theorem squote_reads_back (v : Value) (r : String) :
    ∃ inner, (squote v ++ r).toList = '\'' :: inner ∧
      (readSingle inner = some ((textOf v).toList, r.toList) ↔ r.toList.head? ≠ some '\'') :=
  ⟨_, squote_append v r, readSingle_quote_iff _ _⟩

end Stencil.Function
