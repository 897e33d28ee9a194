import Mathlib
import Stencil.Data.Yaml
import Stencil.Proofs.Decimal.Layout

/-! How documents end.

The last thing in a document is what stands last in its last item or entry, however deep that is
(`Tree.last`), and the text of a document ends in the text of that (`print_endsIn`). In brackets,
quotes and words no white space is left at the end. Only a bare text, plain or in a literal block,
brings its own white space along; where that is more than one newline, the text `Spills` over the
end of its line (`trimEnd_print_iff`). -/
namespace Stencil.Data
open Text

mutual

/-- What stands last in a document: itself, if it holds nothing. -/
def Tree.last : Tree → Tree
  | .list ts => lastItem (.list []) ts
  | .map es => lastEntry (.map []) es
  | .null => .null
  | .bool b => .bool b
  | .int n => .int n
  | .float x => .float x
  | .text s => .text s
  termination_by structural t => t

/-- What stands last in the items, or else `t`. -/
def lastItem (t : Tree) : List Tree → Tree
  | [] => t
  | u :: rest => lastItem u.last rest
  termination_by structural ts => ts

/-- What stands last in the entries, or else `t`. -/
def lastEntry (t : Tree) : List (String × Tree) → Tree
  | [] => t
  | (_, u) :: rest => lastEntry u.last rest
  termination_by structural es => es

end

namespace Yaml

/-! ### The end of a piece -/

/-- A piece ends in what is written of an atom. -/
def EndsIn (p : Piece) (t : Tree) : Prop :=
  ∃ indent q before, atom? indent t = some q ∧ p.text = before ++ q.text ∧ p.ended = q.ended

namespace EndsIn
variable {p : Piece} {t : Tree}

theorem behind (h : EndsIn p t) (sign : List Char) : EndsIn (p.behind sign) t := by
  obtain ⟨indent, q, before, hq, htext, hended⟩ := h
  refine ⟨indent, q, sign ++ before, hq, ?_, hended⟩
  rw [Piece.behind, htext, List.append_assoc]

theorem onNextLine (h : EndsIn p t) (above : Piece) (indent : Nat) :
    EndsIn (above.onNextLine indent p) t := by
  obtain ⟨i, q, before, hq, htext, hended⟩ := h
  refine ⟨i, q, above.text ++ (if above.ended then [] else ['\n']) ++ spaces indent ++ before, hq,
    ?_, hended⟩
  rw [Piece.onNextLine, htext]
  simp only [List.append_assoc]

theorem closed (h : EndsIn p t) :
    ∃ indent q before, atom? indent t = some q ∧ p.closed = before ++ q.closed := by
  obtain ⟨indent, q, before, hq, htext, hended⟩ := h
  refine ⟨indent, q, before, hq, ?_⟩
  rw [Piece.closed, Piece.closed, htext, hended, List.append_assoc]

/-- An entry ends in its value, on whatever line that is. -/
theorem entryPiece {value : Tree} {lines : Piece} {indent : Nat} {key : String}
    (h : EndsIn ((atom? (indent + 2) value).getD lines) t) :
    EndsIn (Yaml.entryPiece indent key value lines) t := by
  rw [Yaml.entryPiece]
  split
  · cases hatom : atom? (indent + 2) value with
    | none =>
      rw [hatom] at h
      exact h.onNextLine _ _
    | some q =>
      rw [hatom] at h
      exact h.behind _
  · exact (h.behind _).onNextLine _ _

end EndsIn

mutual

/-- The text of a document ends in what stands last in it. -/
theorem block_endsIn (i j : Nat) : (t : Tree) → EndsIn ((atom? i t).getD (piece j t)) t.last
  | .null => ⟨i, _, [], rfl, rfl, rfl⟩
  | .bool _ => ⟨i, _, [], rfl, rfl, rfl⟩
  | .int _ => ⟨i, _, [], rfl, rfl, rfl⟩
  | .float _ => ⟨i, _, [], rfl, rfl, rfl⟩
  | .text _ => ⟨i, _, [], rfl, rfl, rfl⟩
  | .list [] => ⟨i, _, [], rfl, rfl, rfl⟩
  | .map [] => ⟨i, _, [], rfl, rfl, rfl⟩
  | .list (t :: rest) =>
    items_endsIn j rest ((block_endsIn (j + 2) (j + 2) t).behind ['-', ' '])
  | .map ((key, t) :: rest) =>
    entries_endsIn j rest (block_endsIn (j + 2) (valueIndent j key t) t).entryPiece

/-- So does that of items below a piece. -/
theorem items_endsIn (j : Nat) : (ts : List Tree) → {above : Piece} → {t : Tree} →
    EndsIn above t →
    EndsIn ((itemPieces j ts).foldl (fun before next => before.onNextLine j next) above)
      (lastItem t ts)
  | [], _, _, h => h
  | t :: rest, above, _, _ =>
    items_endsIn j rest (((block_endsIn (j + 2) (j + 2) t).behind ['-', ' ']).onNextLine above j)

/-- And that of entries. -/
theorem entries_endsIn (j : Nat) : (es : List (String × Tree)) → {above : Piece} → {t : Tree} →
    EndsIn above t →
    EndsIn ((entryPieces j es).foldl (fun before next => before.onNextLine j next) above)
      (lastEntry t es)
  | [], _, _, h => h
  | (key, t) :: rest, above, _, _ =>
    entries_endsIn j rest
      ((block_endsIn (j + 2) (valueIndent j key t) t).entryPiece.onNextLine above j)

end

theorem print_endsIn (t : Tree) :
    ∃ indent q before, atom? indent t.last = some q ∧ print t = before ++ q.closed :=
  (block_endsIn 2 0 t).closed

/-! ### How a text is written -/

/-- A text that is written without quotes. -/
def isBare (s : String) : Bool :=
  let t := traits s.toList
  if s.toList.contains '\n' then t.literal else t.plain && !isAmbiguous s

/-- The ways to write a text: bare on a line, bare in a block, or in quotes. A key never gets a
block, so it may stand in quotes although it could be bare. -/
inductive Written (indent : Nat) (inKey : Bool) (s : String) : Piece → Prop
  | line (hbare : isBare s = true) (hline : '\n' ∉ s.toList) :
    Written indent inKey s ⟨s.toList, false⟩
  | block (hbare : isBare s = true) (hlines : '\n' ∈ s.toList) :
    Written indent inKey s ⟨literal indent s.toList, s.toList.getLast?.any isBreak⟩
  | quoted (quote : Char) (body : List Char) (hquote : quote = '"' ∨ quote = '\'')
      (hbare : inKey = false → isBare s = false) :
    Written indent inKey s ⟨quote :: body ++ [quote], false⟩

theorem textPiece_written (indent : Nat) (inKey : Bool) (s : String) :
    Written indent inKey s (textPiece indent inKey s) := by
  rw [textPiece]
  by_cases hlines : s.toList.contains '\n' = true
  · have hbare : isBare s = (traits s.toList).literal := by rw [isBare, if_pos hlines]
    simp only [hlines, if_true, ← hbare]
    split
    · next h => exact .block (Bool.and_eq_true_iff.mp h).1 (by simpa using hlines)
    · next h => exact .quoted '"' _ (Or.inl rfl) fun hkey => by simpa [hkey] using h
  · have hbare : isBare s = ((traits s.toList).plain && !isAmbiguous s) := by
      rw [isBare, if_neg hlines]
    simp only [hlines, Bool.false_eq_true, if_false, ← hbare]
    split
    · next h => exact .line h (by simpa using hlines)
    · next h =>
      have hquoted : isBare s = false := by simpa using h
      split
      · exact .quoted '\'' _ (Or.inr rfl) fun _ => hquoted
      · exact .quoted '"' _ (Or.inl rfl) fun _ => hquoted

theorem ne_nil_of_isBare {s : String} (h : isBare s = true) : s.toList ≠ [] := by
  intro hnil
  rw [String.toList_eq_nil_iff.mp hnil] at h
  exact absurd h (by decide)

theorem ne_dashes_of_isBare {s : String} (h : isBare s = true) : s.toList ≠ ['-', '-', '-'] := by
  intro hdashes
  have hs : s = "---" := String.toList_inj.mp hdashes
  rw [hs] at h
  exact absurd h (by decide)

/-- What is written of an atom is a word or a text. -/
theorem atom?_eq_some {indent : Nat} {t : Tree} {q : Piece} (h : atom? indent t = some q) :
    (∃ cs, Word cs ∧ q = ⟨cs, false⟩ ∧ ∀ s, t ≠ .text s) ∨
      ∃ s, t = .text s ∧ Written indent false s q := by
  have hword {cs : List Char} (hcs : Word cs) (hq : some ⟨cs, false⟩ = some q)
      (ht : ∀ s, t ≠ .text s) :
      (∃ cs, Word cs ∧ q = ⟨cs, false⟩ ∧ ∀ s, t ≠ .text s) ∨
        ∃ s, t = .text s ∧ Written indent false s q :=
    Or.inl ⟨cs, hcs, (Option.some.inj hq).symm, ht⟩
  cases t with
  | null => exact hword (by decide) h (by simp)
  | bool b => exact hword (by cases b <;> decide) h (by simp)
  | int n => exact hword (Decimal.word_toString_int n) h (by simp)
  | float x => exact hword (Decimal.word_render (by decide) (by decide) x) h (by simp)
  | text s =>
    cases h
    exact Or.inr ⟨s, rfl, textPiece_written indent false s⟩
  | list ts =>
    cases ts with
    | nil => exact hword (by decide) h (by simp)
    | cons u us => cases h
  | map es =>
    cases es with
    | nil => exact hword (by decide) h (by simp)
    | cons e es => cases h

/-! ### White space at the end -/

/-- A bare text that has more white space at its end than one newline. -/
def Spills : Tree → Prop
  | .text s => isBare s = true ∧ ¬ EndsLine s.toList ∧ ¬ EndsLine (s.toList ++ ['\n'])
  | _ => False

theorem Spills.exists_text {t : Tree} (h : Spills t) : ∃ s, t = .text s ∧ isBare s = true := by
  cases t with
  | text s => exact ⟨s, rfl, h.1⟩
  | _ => exact h.elim

theorem isBlank_of_isBreak {c : Char} (h : isBreak c = true) : isBlank c = true := by
  simp only [isBreak, Bool.or_eq_true, beq_iff_eq] at h
  rcases h with (((rfl | rfl) | rfl) | rfl) | rfl <;> decide +kernel

/-- The line of a literal block ends with the text's last character. -/
theorem literalFrom_concat (indent : Nat) (fresh : Bool) (cs : List Char) (c : Char) :
    ∃ before, literalFrom indent fresh (cs ++ [c]) = before ++ [c] := by
  induction cs generalizing fresh with
  | nil =>
    rw [List.nil_append, literalFrom]
    split
    · exact ⟨[], rfl⟩
    · exact ⟨_, rfl⟩
  | cons b rest ih =>
    rw [List.cons_append, literalFrom]
    split
    · obtain ⟨before, h⟩ := ih true
      exact ⟨b :: before, by rw [h, List.cons_append]⟩
    · obtain ⟨before, h⟩ := ih false
      exact ⟨(if fresh then spaces indent else []) ++ b :: before, by rw [h]; simp⟩

theorem literalFrom_concat_break (indent : Nat) (fresh : Bool) (cs : List Char) {c : Char}
    (h : isBreak c = true) :
    literalFrom indent fresh (cs ++ [c]) = literalFrom indent fresh cs ++ [c] := by
  induction cs generalizing fresh with
  | nil => simp [literalFrom, h]
  | cons b rest ih =>
    rw [List.cons_append, literalFrom, literalFrom]
    split
    · rw [ih true, List.cons_append]
    · rw [ih false]
      simp

/-- What a piece closes with: two characters that tell whether the atom it writes spills. -/
def ClosesAs (p : Piece) (t : Tree) : Prop :=
  ∃ before c d, p.closed = before ++ [c, d] ∧ (¬ Spills t ↔ isBlank c = false ∧ d = '\n')

/-- What ends in no white space is closed by a newline. -/
theorem closesAs_of_last {body : List Char} {c : Char} {t : Tree} (hc : isBlank c = false)
    (ht : ¬ Spills t) : ClosesAs ⟨body ++ [c], false⟩ t :=
  ⟨body, c, '\n', by simp [Piece.closed], iff_of_true ht ⟨hc, rfl⟩⟩

theorem closesAs_line {s : String} (hbare : isBare s = true) (hline : '\n' ∉ s.toList) :
    ClosesAs ⟨s.toList, false⟩ (.text s) := by
  have hne := ne_nil_of_isBare hbare
  have hsplit : s.toList ++ ['\n'] = s.toList.dropLast ++ [s.toList.getLast hne, '\n'] := by
    rw [List.append_cons s.toList.dropLast, List.dropLast_append_getLast hne]
  have hends : ¬ EndsLine s.toList := fun h => hline h.newline_mem
  refine ⟨s.toList.dropLast, s.toList.getLast hne, '\n', hsplit, ?_⟩
  rw [Spills, hsplit, endsLine_concat₂]
  simp [hbare, hends]

theorem closesAs_block {s : String} (hbare : isBare s = true) (indent : Nat) :
    ClosesAs ⟨literal indent s.toList, s.toList.getLast?.any isBreak⟩ (.text s) := by
  obtain ⟨cs, c, hcs⟩ : ∃ cs c, s.toList = cs ++ [c] :=
    ⟨_, _, (List.dropLast_append_getLast (ne_nil_of_isBare hbare)).symm⟩
  have hspills : ¬ Spills (.text s) ↔ EndsLine (cs ++ [c]) ∨ EndsLine (cs ++ [c, '\n']) := by
    rw [Spills, hcs, List.append_assoc, List.singleton_append]
    simp only [hbare, true_and]
    tauto
  rw [endsLine_concat₂] at hspills
  have hhead : ∃ head, literal indent s.toList =
      head ++ '\n' :: literalFrom indent true (cs ++ [c]) := ⟨_, by rw [literal, hcs]⟩
  obtain ⟨head, hhead⟩ := hhead
  rw [ClosesAs, Piece.closed, hhead, hcs, List.getLast?_concat, Option.any_some]
  cases hc : isBreak c with
  | false =>
    -- The line is ended behind the text.
    have hends : ¬ EndsLine (cs ++ [c]) := by
      intro h
      rw [h.last] at hc
      exact absurd hc (by decide)
    obtain ⟨before, hbefore⟩ := literalFrom_concat indent true cs c
    refine ⟨head ++ '\n' :: before, c, '\n', by rw [hbefore]; simp, ?_⟩
    rw [hspills]
    simp [hends]
  | true =>
    -- The text ends the line itself.
    have hblank : isBlank c = true := isBlank_of_isBreak hc
    rw [literalFrom_concat_break indent true cs hc]
    rcases List.eq_nil_or_concat' cs with rfl | ⟨rest, b, rfl⟩
    · refine ⟨head, '\n', c, by simp [literalFrom], ?_⟩
      rw [hspills, isBlank_newline]
      simp [not_endsLine_singleton, hblank]
    · obtain ⟨before, hbefore⟩ := literalFrom_concat indent true rest b
      refine ⟨head ++ '\n' :: before, b, c, by rw [hbefore]; simp, ?_⟩
      have hends : EndsLine (rest ++ [b] ++ [c]) ↔ isBlank b = false ∧ c = '\n' := by
        rw [List.append_assoc, List.singleton_append, endsLine_concat₂]
      rw [hspills, hends]
      simp [hblank]

/-- **Only a bare text leaves white space at the end** of what is written of an atom. -/
theorem closesAs_atom {indent : Nat} {t : Tree} {q : Piece} (h : atom? indent t = some q) :
    ClosesAs q t := by
  rcases atom?_eq_some h with ⟨cs, hword, rfl, ht⟩ | ⟨s, rfl, hwritten⟩
  · obtain ⟨body, c, rfl, hc⟩ := hword.last
    refine closesAs_of_last hc fun hspills => ?_
    obtain ⟨s, hs, -⟩ := hspills.exists_text
    exact ht s hs
  · cases hwritten with
    | line hbare hline => exact closesAs_line hbare hline
    | block hbare _ => exact closesAs_block hbare indent
    | quoted quote body hquote hbare =>
      refine closesAs_of_last ?_ fun hspills => ?_
      · rcases hquote with rfl | rfl <;> decide +kernel
      · exact absurd hspills.1 (by simp [hbare rfl])

/-- **A document loses its last newline and no more** to trimming, unless what stands last in it
spills. -/
theorem trimEnd_print_iff (t : Tree) :
    trimEnd isBlank (print t) ++ ['\n'] = print t ↔ ¬ Spills t.last := by
  obtain ⟨indent, q, before, hatom, hprint⟩ := print_endsIn t
  obtain ⟨body, c, d, hclosed, hspills⟩ := closesAs_atom hatom
  rw [hprint, hclosed, ← List.append_assoc, trimEnd_append_newline_iff, hspills]

end Yaml
end Stencil.Data
