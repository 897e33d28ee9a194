import Stencil.Text.Pieces

/-! Replacing in a text.

Replacing goes on behind the first match (`replace_eq`). A match of a single sign is that sign, so
each of them gives way by itself, and all other signs stay (`replace_single`). -/
namespace Stencil.Text

theorem splitAt_ne_nil (part : List Char) (limit : Option Nat) (text : List Char) :
    splitAt part limit text ≠ [] := by
  rw [splitAt]
  split
  · exact List.cons_ne_nil _ _
  · split
    · exact List.cons_ne_nil _ _
    · split <;> exact List.cons_ne_nil _ _

theorem joinWith_cons (separator first : List Char) {pieces : List (List Char)}
    (h : pieces ≠ []) :
    joinWith separator (first :: pieces) = first ++ separator ++ joinWith separator pieces := by
  cases pieces with
  | nil => exact absurd rfl h
  | cons piece pieces => rfl

/-- What stands before the first match stays, and replacing goes on behind it. -/
theorem replace_eq {part : List Char} (hpart : part ≠ []) (other text : List Char) :
    replace part other text =
      match cut? part text with
      | none => text
      | some (before, tail) => before ++ other ++ replace part other tail := by
  have hsplit (text : List Char) : split part none text = splitAt part none text := by
    simp [split, hpart]
  rw [replace, hsplit, splitAt, if_neg (by simp)]
  split
  · next hcut => simp only [hcut, joinWith]
  · next before tail hcut =>
    rw [dif_neg hpart]
    simp only [hcut, replace, hsplit]
    exact joinWith_cons other before (splitAt_ne_nil part none tail)

section Single
variable (other : List Char)

theorem replace_single_self (c : Char) (rest : List Char) :
    replace [c] other (c :: rest) = other ++ replace [c] other rest := by
  have hcut : cut? [c] (c :: rest) = some ([], rest) := by simp [cut?, after?]
  rw [replace_eq (List.cons_ne_nil c []), hcut]
  rfl

theorem replace_single_ne {c x : Char} (h : x ≠ c) (rest : List Char) :
    replace [c] other (x :: rest) = x :: replace [c] other rest := by
  have hcut : cut? [c] (x :: rest) = (cut? [c] rest).map fun found => (x :: found.1, found.2) := by
    simp [cut?, after?, h.symm]
  rw [replace_eq (List.cons_ne_nil c []), hcut, replace_eq (List.cons_ne_nil c []) other rest]
  cases cut? [c] rest <;> rfl

/-- **A sign is replaced wherever it stands**, and nothing else is. -/
theorem replace_single (c : Char) (text : List Char) :
    replace [c] other text = text.flatMap fun x => if x = c then other else [x] := by
  induction text with
  | nil => rw [replace_eq (List.cons_ne_nil c [])]; rfl
  | cons x rest ih =>
    rw [List.flatMap_cons, ← ih]
    by_cases h : x = c
    · rw [h, replace_single_self, if_pos rfl]
    · rw [replace_single_ne other h, if_neg h, List.singleton_append]

end Single

end Stencil.Text
