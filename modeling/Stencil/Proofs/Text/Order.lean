import Mathlib.Data.String.Basic
import Mathlib.Tactic.SplitIfs
import Stencil.Proofs.Text.Utf8

/-! The order of texts.

Texts are compared by their characters, and bytes by their numbers; in either the first difference
decides. Both ways give one order (`encodeText_lt_iff`): a sequence of more bytes begins with a
larger byte, and sequences of one length are the digits of their characters, the highest first. -/
namespace Stencil.Text.Utf8

/-- The bytes of a smaller character are smaller, whatever stands behind either. -/
theorem encodeChar_lt {c d : Char} (h : c < d) (rest rest' : Bytes) :
    String.utf8EncodeChar c ++ rest < String.utf8EncodeChar d ++ rest' := by
  have hcd : c.toNat < d.toNat := h
  have hvalid : d.toNat < 0xD800 ∨ 0xDFFF < d.toNat ∧ d.toNat < 0x110000 := d.valid
  have hlead (n : Nat) (hn : n < 0x110000) :
      (UInt8.ofNat (n / 262144 % 8 + 0xF0)).toNat = n / 262144 + 0xF0 := by
    rw [toNat_ofNat_of_lt (by omega)]
    omega
  rw [encodeChar_eq, encodeChar_eq]
  -- One case for each pair of lengths: what is left compares the digits of two numbers.
  split_ifs <;>
    simp only [List.cons_append, List.nil_append, List.cons_lt_cons_iff, UInt8.lt_iff_toNat_lt,
      ← UInt8.toNat_inj, toNat_tailOf, hlead c.toNat (by omega), hlead d.toNat (by omega),
      UInt8.toNat_ofNat'] <;>
    omega

theorem encode_lt {as bs : List Char} (h : as < bs) : encode as < encode bs := by
  induction as generalizing bs with
  | nil =>
    cases bs with
    | nil => exact absurd h (List.lt_irrefl _)
    | cons b bs =>
      obtain ⟨a, tails, hb, -⟩ := headOf_encodeChar b
      rw [encode_cons, hb]
      exact List.nil_lt_cons _ _
  | cons a as ih =>
    cases bs with
    | nil => exact absurd h (List.not_lt_nil _)
    | cons b bs =>
      rcases List.cons_lt_cons_iff.mp h with hab | ⟨rfl, hrest⟩
      · exact encodeChar_lt hab _ _
      · exact List.append_left_lt (ih hrest)

/-- **Texts stand in the order of their bytes.** -/
theorem encodeText_lt_iff {s t : String} : encodeText s < encodeText t ↔ s < t := by
  have hmono {s t : String} (h : s < t) : encodeText s < encodeText t :=
    encode_lt (String.lt_iff_toList_lt.mp h)
  refine ⟨fun h => ?_, hmono⟩
  rcases lt_trichotomy s t with hlt | rfl | hgt
  · exact hlt
  · exact absurd h (List.lt_irrefl _)
  · exact absurd h (List.lt_asymm (hmono hgt))

end Stencil.Text.Utf8
