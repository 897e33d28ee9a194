import Mathlib
import Stencil.Text.Pieces

/-! White space at the end of a text.

`trimEnd` takes a text back to its last character that is not blank. The signs of ASCII are not
blank, so a `Word`, which is made of them, is kept whole. -/
namespace Stencil.Text

/-- A character of ASCII that shows: no blank and no control. -/
def isSign (c : Char) : Bool := 0x21 ≤ c.toNat && c.toNat < 0x7F

theorem whiteSpace_sign : ∀ n < 0x7F, 0x21 ≤ n → whiteSpaceBounds.holds n = false := by
  decide +kernel

theorem not_blank_of_isSign {c : Char} (h : isSign c = true) : isBlank c = false := by
  obtain ⟨hlow, hhigh⟩ : 0x21 ≤ c.toNat ∧ c.toNat < 0x7F := by simpa [isSign] using h
  exact whiteSpace_sign c.toNat hhigh hlow

theorem isSign_of_isDigit {c : Char} (h : c.isDigit = true) : isSign c = true := by
  have hbounds : 48 ≤ c.toNat ∧ c.toNat ≤ 57 := by
    simpa [Char.isDigit, UInt32.le_iff_toNat_le] using h
  have hsign : 0x21 ≤ c.toNat ∧ c.toNat < 0x7F := by omega
  simpa [isSign] using hsign

theorem isBlank_newline : isBlank '\n' = true := by decide +kernel

/-- A text of signs that are not all dashes. -/
structure Word (cs : List Char) : Prop where
  signs : cs.all isSign = true
  other : cs.any (· != '-') = true

instance (cs : List Char) : Decidable (Word cs) :=
  decidable_of_iff (cs.all isSign = true ∧ cs.any (· != '-') = true)
    ⟨fun h => ⟨h.1, h.2⟩, fun h => ⟨h.1, h.2⟩⟩

namespace Word

theorem append {a b : List Char} (ha : a.all isSign = true) (hb : Word b) : Word (a ++ b) := by
  refine ⟨?_, ?_⟩
  · rw [List.all_append, ha, hb.signs, Bool.and_self]
  · rw [List.any_append, hb.other, Bool.or_true]

theorem append_signs {a b : List Char} (ha : Word a) (hb : b.all isSign = true) :
    Word (a ++ b) := by
  refine ⟨?_, ?_⟩
  · rw [List.all_append, hb, ha.signs, Bool.and_self]
  · rw [List.any_append, ha.other, Bool.true_or]

theorem newline_not_mem {cs : List Char} (h : Word cs) : '\n' ∉ cs := fun hmem =>
  absurd (List.all_eq_true.mp h.signs _ hmem) (by decide)

theorem ne_dashes {cs : List Char} (h : Word cs) : cs ≠ ['-', '-', '-'] := by
  rintro rfl
  exact absurd h.other (by decide)

/-- A word ends in a sign. -/
theorem last {cs : List Char} (h : Word cs) : ∃ body c, cs = body ++ [c] ∧ isBlank c = false := by
  have hne : cs ≠ [] := by
    rintro rfl
    exact absurd h.other (by decide)
  refine ⟨cs.dropLast, cs.getLast hne, (List.dropLast_append_getLast hne).symm, ?_⟩
  exact not_blank_of_isSign (List.all_eq_true.mp h.signs _ (List.getLast_mem hne))

end Word

/-! ### Taking it away -/

variable (p : Char → Bool)

theorem trimEnd_append {a b : List Char} (h : ∀ c ∈ b, p c = true) :
    trimEnd p (a ++ b) = trimEnd p a := by
  rw [trimEnd, List.reverse_append, List.dropWhile_append_of_pos (by simpa using h), trimEnd]

theorem trimEnd_concat {a : List Char} {c : Char} (h : p c = false) :
    trimEnd p (a ++ [c]) = a ++ [c] := by
  rw [trimEnd, List.reverse_append, List.reverse_singleton, List.singleton_append,
    List.dropWhile_cons_of_neg (by simp [h]), List.reverse_cons, List.reverse_reverse]

/-- Nothing that could be taken away is left at the end. -/
theorem of_trimEnd_eq_concat {cs a : List Char} {c : Char} (h : trimEnd p cs = a ++ [c]) :
    p c = false := by
  have hhead : (cs.reverse.dropWhile p).head? = some c := by
    have := congrArg List.reverse h
    rw [trimEnd, List.reverse_reverse] at this
    rw [this]
    simp
  have := List.head?_dropWhile_not p cs.reverse
  simpa [hhead] using this

/-! ### A line end -/

/-- At the end of a text stands a newline, right behind a character that is not blank. -/
def EndsLine (cs : List Char) : Prop := ∃ body c, isBlank c = false ∧ cs = body ++ [c, '\n']

theorem endsLine_concat₂ (a : List Char) (c d : Char) :
    EndsLine (a ++ [c, d]) ↔ isBlank c = false ∧ d = '\n' := by
  constructor
  · rintro ⟨body, c', hc, h⟩
    obtain ⟨-, hlast⟩ := List.append_inj' h rfl
    obtain ⟨rfl, rfl⟩ : c = c' ∧ d = '\n' := by simpa using hlast
    exact ⟨hc, rfl⟩
  · rintro ⟨hc, rfl⟩
    exact ⟨a, c, hc, rfl⟩

theorem EndsLine.newline_mem {cs : List Char} (h : EndsLine cs) : '\n' ∈ cs := by
  obtain ⟨body, c, -, rfl⟩ := h
  simp

theorem EndsLine.last {cs : List Char} {c : Char} (h : EndsLine (cs ++ [c])) : c = '\n' := by
  obtain ⟨body, b, -, h⟩ := h
  rw [List.append_cons body b ['\n']] at h
  simpa using (List.append_inj' h rfl).2

theorem not_endsLine_singleton (c : Char) : ¬ EndsLine [c] := by
  rintro ⟨body, b, -, h⟩
  have hlength := congrArg List.length h
  simp at hlength

/-- What trimming takes from a text is a newline and nothing else. -/
theorem trimEnd_append_newline_iff {a : List Char} {c d : Char} :
    trimEnd isBlank (a ++ [c, d]) ++ ['\n'] = a ++ [c, d] ↔ isBlank c = false ∧ d = '\n' := by
  have hsplit : a ++ [c, d] = (a ++ [c]) ++ [d] := by simp
  constructor
  · intro h
    rw [hsplit] at h
    obtain ⟨htrim, hd⟩ := List.append_inj' h rfl
    exact ⟨of_trimEnd_eq_concat isBlank htrim, (List.cons.inj hd).1.symm⟩
  · rintro ⟨hc, rfl⟩
    rw [hsplit, trimEnd_append isBlank (by simp [isBlank_newline]), trimEnd_concat isBlank hc]

end Stencil.Text
