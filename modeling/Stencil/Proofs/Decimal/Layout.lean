import Mathlib
import Stencil.Decimal.Layout
import Stencil.Proofs.Text.Blank

/-! Numbers as words.

Whatever a layout makes of a number is a word: it has no white space in it, and it is not a row of
dashes, since a digit, a point or a power of ten shows. -/
namespace Stencil.Decimal
open Text

theorem isDigit_of_mem_toString {n : Nat} {c : Char} (h : c ∈ (toString n).toList) :
    c.isDigit = true := by
  rw [Nat.toString_eq_repr, Nat.repr_eq_ofList_toDigits, String.toList_ofList] at h
  exact Nat.isDigit_of_mem_toDigits (by decide) (by decide) h

theorem signs_toString (n : Nat) : (toString n).toList.all isSign = true :=
  List.all_eq_true.mpr fun _ h => isSign_of_isDigit (isDigit_of_mem_toString h)

theorem word_toString (n : Nat) : Word (toString n).toList := by
  have hne : (toString n).toList ≠ [] := by
    rw [Nat.toString_eq_repr, Nat.repr_eq_ofList_toDigits, String.toList_ofList]
    exact Nat.toDigits_ne_nil
  obtain ⟨c, hc⟩ := List.exists_mem_of_ne_nil _ hne
  refine ⟨signs_toString n, List.any_eq_true.mpr ⟨c, hc, bne_iff_ne.mpr ?_⟩⟩
  rintro rfl
  exact absurd (isDigit_of_mem_toString hc) (by decide)

theorem signs_sign (negative : Bool) :
    (if negative then "-" else "").toList.all isSign = true := by
  cases negative <;> decide

theorem word_toString_int (n : Int) : Word (toString n).toList := by
  cases n with
  | ofNat n => exact word_toString n
  | negSucc n =>
    show Word ("-" ++ toString (n + 1)).toList
    rw [String.toList_append]
    exact Word.append (signs_sign true) (word_toString (n + 1))

theorem signs_zeros (n : Nat) : (zeros n).toList.all isSign = true := by
  induction n with
  | zero => decide
  | succ n ih =>
    have hpush : (zeros (n + 1)).toList = (zeros n).toList ++ ['0'] := by
      simp [zeros, String.pushn_eq_repeat_push, Nat.repeat]
    rw [hpush, List.all_append, ih]
    rfl

theorem signs_take {cs : List Char} (h : cs.all isSign = true) (n : Nat) :
    (cs.take n).all isSign = true :=
  List.all_eq_true.mpr fun c hc => List.all_eq_true.mp h c (List.mem_of_mem_take hc)

theorem signs_drop {cs : List Char} (h : cs.all isSign = true) (n : Nat) :
    (cs.drop n).all isSign = true :=
  List.all_eq_true.mpr fun c hc => List.all_eq_true.mp h c (List.mem_of_mem_drop hc)

/-- A plain number has a point. -/
theorem word_positional (d : Digits) : Word d.positional.toList := by
  have hdigits := signs_toString d.digits
  rw [Digits.positional.eq_def]
  dsimp only
  split
  · rw [String.toList_append, String.toList_append]
    refine Word.append ?_ (by decide)
    rw [List.all_append, hdigits, signs_zeros, Bool.and_self]
  · split
    · simp only [String.toList_append, String.toList_ofList]
      refine Word.append_signs ?_ (signs_drop hdigits _)
      exact Word.append (signs_take hdigits _) (by decide)
    · rw [String.toList_append, String.toList_append]
      exact Word.append_signs (Word.append_signs (by decide) (signs_zeros _)) hdigits

/-- Another one has a power of ten. -/
theorem word_scientific (signsPower : Bool) (d : Digits) :
    Word (d.scientific signsPower).toList := by
  have hdigits := signs_toString d.digits
  simp only [Digits.scientific, String.toList_append, String.toList_ofList]
  refine Word.append ?_ (word_toString_int _)
  rw [List.all_append, List.all_append, Bool.and_eq_true, Bool.and_eq_true]
  refine ⟨⟨?_, by decide⟩, ?_⟩
  · split
    · exact hdigits
    · rw [List.all_append, List.all_cons, signs_take hdigits, signs_drop hdigits]
      rfl
  · split <;> decide

/-- **A number is written as a word**, if a layout spells what is no number by words. -/
theorem word_render {l : Layout} (hnan : Word l.nan.toList) (hinfinity : Word l.infinity.toList)
    (x : Float) : Word (l.render x).toList := by
  rw [Layout.render]
  split
  · exact hnan
  · rw [String.toList_append]
    exact Word.append (signs_sign _) hinfinity
  · rw [String.toList_append]
    refine Word.append (signs_sign _) ?_
    split
    · decide
    · dsimp only
      split
      · exact word_positional _
      · exact word_scientific _ _

end Stencil.Decimal
