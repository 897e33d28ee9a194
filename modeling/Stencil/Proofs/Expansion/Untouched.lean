import Stencil.Proofs.Expansion.Openings

/-! Input that is handed back.

The scanner has no output until a dollar before an opening brace makes it begin one, and what has
begun is never given up (`run_out_eq_none_iff`). So an input comes back untouched exactly if no
dollar in it stands before an opening brace (`untouched_iff_unopened`): what is dropped, what
loses a dollar, and a reference whose answer spells the reference itself all make new output. -/
namespace Stencil.Expansion
open Text.Utf8 (Bytes encodeText textOr)

variable {σ : Type} (lookup : Lookup σ)

/-- What opens somewhere is a dollar before an opening brace. -/
theorem forall_opensAt_eq_false_iff {s : Bytes} :
    (∀ k, opensAt s.toArray k = false) ↔ ¬ [dollar, opening] <:+: s := by
  refine ⟨?_, opensAt_eq_false⟩
  rintro hnever ⟨before, after, rfl⟩
  have hopen : opensAt (before ++ [dollar, opening] ++ after).toArray before.length = true := by
    rw [opensAt_iff]
    simp [List.drop_append]
  rw [hnever before.length] at hopen
  cases hopen

/-- A turn at a dollar before an opening brace makes output. -/
theorem step_out_of_opensAt {s : Bytes} {c : Cursor} (h : opensAt s.toArray c.pos = true) (st : σ) :
    (step lookup s.toArray c st).1.out ≠ none := by
  cases he : escapedAt s.toArray c.pos with
  | true =>
    rw [step_escape lookup h he]
    exact nofun
  | false =>
    rw [step_reference lookup h he]
    exact nofun

/-- The loop ends without output exactly if it begins without, and nothing opens from there on. -/
theorem run_out_eq_none_iff {s : Bytes} (c : Cursor) (st : σ) :
    (run lookup s.toArray c st).1.out = none ↔
      c.out = none ∧ ∀ k, c.pos ≤ k → opensAt s.toArray k = false := by
  fun_induction run lookup s.toArray c st with
  | case1 c st hp next ih =>
    rw [ih]
    cases ho : opensAt s.toArray c.pos with
    | true =>
      refine ⟨fun h => absurd h.1 (step_out_of_opensAt lookup ho st), fun h => ?_⟩
      rw [h.2 c.pos (Nat.le_refl _)] at ho
      cases ho
    | false =>
      have hnext : next = ({ c with pos := c.pos + 1 }, st) := congrFun (step_copy lookup ho) st
      rw [hnext]
      refine and_congr_right fun _ => ⟨fun hnever k hk => ?_, fun hnever k hk => ?_⟩
      · rcases Nat.eq_or_lt_of_le hk with rfl | hlt
        · exact ho
        · exact hnever k hlt
      · exact hnever k (Nat.le_of_succ_le hk)
  | case2 c st hp =>
    -- Behind the end of the input nothing opens.
    have hend : ∀ k, c.pos ≤ k → opensAt s.toArray k = false := by
      intro k hk
      have hsize : s.toArray.size ≤ k := Nat.le_trans (Nat.le_of_not_lt hp) hk
      simp [opensAt, Array.getElem?_eq_none hsize]
    exact ⟨fun hout => ⟨hout, hend⟩, And.left⟩

theorem unchanged_eq_true_iff (s : Bytes) (st : σ) :
    (expandBytes lookup s st).1.unchanged = true ↔ ¬ [dollar, opening] <:+: s := by
  have hunchanged : (expandBytes lookup s st).1.unchanged = true ↔
      (run lookup s.toArray Cursor.start st).1.out = none := by
    rw [expandBytes]
    simp only [Cursor.result]
    cases (run lookup s.toArray Cursor.start st).1.out <;> simp
  rw [hunchanged, run_out_eq_none_iff, ← forall_opensAt_eq_false_iff]
  exact ⟨fun h k => h.2 k (Nat.zero_le k), fun hnever => ⟨rfl, fun k _ => hnever k⟩⟩

/-- Nothing is asked for in bytes in which nothing opens. -/
theorem asked_unopened {s : Bytes} (h : ¬ [dollar, opening] <:+: s) (st : σ) :
    asked lookup s st = [] := by
  rw [asked, expandBytes_unopened lookup.noted h]

/-- **Untouched means unopened.** Bytes are handed back exactly if no dollar in them stands before
an opening brace; they are then the result, and nothing is asked for. The same goes for a text
with its bytes. -/
theorem untouched_iff_unopened (s : Bytes) (t : String) (st : σ) :
    ((expandBytes lookup s st).1.unchanged = true ↔ ¬ [dollar, opening] <:+: s) ∧
      (¬ [dollar, opening] <:+: s →
        expandBytes lookup s st = (⟨s, true⟩, st) ∧ asked lookup s st = []) ∧
      ((expand lookup t st).1.unchanged = true ↔ ¬ [dollar, opening] <:+: encodeText t) ∧
      (¬ [dollar, opening] <:+: encodeText t →
        expand lookup t st = (⟨t, true⟩, st) ∧ (expand lookup.noted t (st, [])).2.2 = []) := by
  refine ⟨unchanged_eq_true_iff lookup s st, fun h => ?_, ?_, fun h => ?_⟩
  · exact ⟨expandBytes_unopened lookup h st, asked_unopened lookup h st⟩
  · exact unchanged_eq_true_iff lookup (encodeText t) st
  · have hbytes := expandBytes_unopened lookup h st
    have htext : expand lookup t st = (⟨t, true⟩, st) :=
      calc expand lookup t st
        _ = let r := expandBytes lookup (encodeText t) st
            (⟨if r.1.unchanged then t else textOr r.1.bytes, r.1.unchanged⟩, r.2) := rfl
        _ = (⟨t, true⟩, st) := by rw [hbytes]; rfl
    exact ⟨htext, asked_unopened lookup h st⟩

/-- Dollars and braces that open nothing are handed back, a reference that is answered by itself is
not. -/
theorem untouched_iff_unopened_echo :
    let lookup := Lookup.pure fun name => "$\x7b" ++ name ++ "\x7d"
    let plain : Bytes := [0x24, 0x24, 0xC3, 0x7B, 0x7D, 0x24]
    let reference : Bytes := [0x24, 0x7B, 0x41, 0x7D]
    ¬ [dollar, opening] <:+: plain ∧ expandBytes lookup plain () = (⟨plain, true⟩, ()) ∧
      ¬ [dollar, opening] <:+: encodeText "$é\x7b$" ∧
      expand lookup "$é\x7b$" () = (⟨"$é\x7b$", true⟩, ()) ∧
      (expandBytes lookup reference ()).1.bytes = reference ∧
      (expandBytes lookup reference ()).1.unchanged = false := by
  intro lookup plain reference
  have hplain : ¬ [dollar, opening] <:+: plain := by decide
  have htext : ¬ [dollar, opening] <:+: encodeText "$é\x7b$" := by decide
  obtain ⟨-, hbytes, -, hexpand⟩ := untouched_iff_unopened lookup plain "$é\x7b$" ()
  obtain ⟨hiff, -⟩ := untouched_iff_unopened lookup reference "" ()
  have hopened : ¬ (expandBytes lookup reference ()).1.unchanged = true := by
    rw [hiff]
    decide
  exact ⟨hplain, (hbytes hplain).1, htext, (hexpand htext).1, by cbv, by simpa using hopened⟩

end Stencil.Expansion
