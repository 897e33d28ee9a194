import Mathlib.Order.Bounds.Defs
import Stencil.Proofs.Except
import Stencil.Proofs.Text.Utf8

/-! Where reading stops.

Bytes that are no text have starts that are texts, at least the empty one. The reader of characters
goes through every such start as it goes through a text (`decodeFrom_encode_append`), and it gives
up behind characters that it has read (`stops_behind_encode`). So the place of a flaw is the length
of the longest start that is a text (`isGreatest_validUpTo`). -/
namespace Stencil.Text.Utf8

/-- The lengths of the starts of some bytes that are texts. -/
def textStarts (bs : Bytes) : Set Nat :=
  {n | ∃ start, start <+: bs ∧ IsText start ∧ start.length = n}

/-- Behind what was written reading goes on, with the count of its bytes. -/
theorem decodeFrom_encode_append (cs : List Char) (rest : Bytes) (n : Nat) :
    decodeFrom 0 n (encode cs ++ rest) =
      (decodeFrom 0 (n + (encode cs).length) rest).map (cs ++ ·) := by
  induction cs generalizing n with
  | nil => exact (id_map _).symm
  | cons c cs ih =>
    obtain ⟨a, tails, hc, hhead⟩ := headOf_encodeChar c
    have hcount : n + 1 + tails.length + (encode cs).length =
        n + (encode (c :: cs)).length := by
      rw [encode_cons, hc, List.length_append, List.length_cons]
      omega
    rw [← hcount, encode_cons, hc, List.cons_append, List.cons_append, List.append_assoc,
      decodeFrom, hhead]
    simp only [decodeFrom_skip, ih]
    cases decodeFrom 0 (n + 1 + tails.length + (encode cs).length) rest <;> rfl

/-- Reading gives up behind characters that were written. -/
theorem stops_behind_encode {skip n : Nat} {bs : Bytes} {flaw : Flaw}
    (h : decodeFrom skip n bs = .error flaw) :
    ∃ cs rest, bs.drop skip = encode cs ++ rest ∧
      flaw.validUpTo = n + skip + (encode cs).length := by
  fun_induction decodeFrom skip n bs with
  | case1 => cases h
  | case2 skip n b rest ih =>
    obtain ⟨cs, behind, hsplit, hcount⟩ := ih h
    refine ⟨cs, behind, hsplit, ?_⟩
    omega
  | case3 n a rest c more hhead ih =>
    obtain ⟨tails, behind, rfl, rfl, hc⟩ := starts_of_headOf hhead
    obtain ⟨cs, rest, hsplit, hcount⟩ := ih (of_map_eq_error h)
    rw [List.drop_left] at hsplit
    refine ⟨c :: cs, rest, ?_, ?_⟩
    · rw [List.drop_zero, hsplit, encode_cons, hc, List.cons_append, List.cons_append,
        List.append_assoc]
    · rw [hcount, encode_cons, hc, List.length_append, List.length_cons]
      omega
  | case4 n a rest more hhead =>
    cases h
    exact ⟨[], a :: rest, rfl, rfl⟩
  | case5 n a rest hhead =>
    cases h
    exact ⟨[], a :: rest, rfl, rfl⟩

/-- **A flaw stands behind the longest start that is a text.** -/
theorem isGreatest_validUpTo {bs : Bytes} {flaw : Flaw} (h : decodeText bs = .error flaw) :
    IsGreatest (textStarts bs) flaw.validUpTo := by
  have hdecode : decodeFrom 0 0 bs = .error flaw := of_map_eq_error h
  constructor
  · obtain ⟨cs, rest, rfl, hcount⟩ := stops_behind_encode hdecode
    rw [Nat.zero_add] at hcount
    exact ⟨encode cs, List.prefix_append _ _, ⟨cs, rfl⟩, hcount.symm⟩
  · rintro n ⟨start, ⟨rest, rfl⟩, ⟨cs, rfl⟩, rfl⟩
    -- The reader is past this start when it meets the flaw.
    rw [decodeFrom_encode_append] at hdecode
    obtain ⟨ds, -, -, hcount⟩ := stops_behind_encode (of_map_eq_error hdecode)
    omega

end Stencil.Text.Utf8
