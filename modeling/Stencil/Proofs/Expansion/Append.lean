import Mathlib
import Stencil.Proofs.Expansion.Cut
import Stencil.Proofs.Expansion.Spans

/-! Expansion part by part.

An input may be expanded in two parts if nothing is pending between them: the first part ends in no
dollar, and expanding it alone drops no opening brace that is never closed. The second part can be
anything (`expandBytes_append`). The first brace that closes a reference stands in the first part
already, so a reference that is closed there stays what it is in front of more input. -/
namespace Stencil.Expansion
open Text.Utf8 (Bytes lossyText)

/-- Whatever opens in front of a closing brace is closed by it. -/
theorem closedFrom_closing (behind : Bool) (name : Bytes) {after : Bytes}
    (h : ClosedFrom false after) : ClosedFrom behind (name ++ closing :: after) := by
  induction name generalizing behind with
  | nil =>
    have hclosing : closing ≠ dollar := by decide
    exact ⟨fun ⟨hb, _⟩ => absurd hb hclosing, h⟩
  | cons b name ih =>
    have hmem : closing ∈ name ++ closing :: after := by simp
    exact ⟨fun _ => hmem, ih (b == dollar)⟩

/-- Bytes are closed if nothing in them is dropped for want of a closing brace. -/
theorem closedFrom_of_spans {behind : Bool} {s : Bytes} (h : .unclosed ∉ spansFrom behind s) :
    ClosedFrom behind s := by
  have hother : ∀ bs, Span.unclosed ≠ .literal bs := by simp
  fun_induction spansFrom behind s with
  | case1 => trivial
  | case2 behind b => exact ⟨by simp, trivial⟩
  | case3 b c rest hbc ih =>
    obtain ⟨rfl, rfl⟩ := hbc
    have hrest : .unclosed ∉ spansFrom false rest := fun hmem =>
      h (List.mem_cons_of_mem _ ((mem_copied hother opening _).mpr hmem))
    exact ⟨by simp, by simp [opening, dollar], ih hrest⟩
  | case4 behind b c rest hbc hbehind ih =>
    obtain ⟨rfl, rfl⟩ := hbc
    obtain ⟨hfirst, hmore⟩ := not_or.mp (mt List.mem_cons.mpr h)
    have hmem : closing ∈ rest := by
      by_contra hnone
      rw [Span.opened, reference_unclosed hnone] at hfirst
      simp [hnone] at hfirst
    obtain ⟨name, after, rfl, hname⟩ := List.eq_append_cons_of_mem hmem
    rw [reference_closed hname] at ih hmore
    exact ⟨fun _ => List.mem_cons_of_mem _ hmem, by simp [opening, dollar],
      closedFrom_closing _ name (ih hmore)⟩
  | case5 behind b c rest hbc ih =>
    have hmore : .unclosed ∉ spansFrom (b == dollar) (c :: rest) := fun hmem =>
      h ((mem_copied hother b _).mpr hmem)
    refine ⟨?_, ih hmore⟩
    rintro ⟨hb, hc, -⟩
    exact absurd ⟨hb, by simpa using hc⟩ hbc

variable {σ : Type} (lookup : Lookup σ)

/-- The names that are noted do not depend on what a lookup answers, nor on what it remembers. -/
theorem noted_spans (s : Bytes) (st : σ) (seen : List String) :
    (walk lookup.noted false s (st, seen)).2.2 = seen ++ (names (spans s)).map lossyText := by
  rw [walk_spans]
  exact askAll_noted lookup (names (spans s)) st seen

/-- **An input may be cut where nothing is pending.** If its first part ends in no dollar, and if
expanding that part alone drops nothing for want of a closing brace, then what comes out is what
comes out of both parts, and the names are those of the first part and then those of the second,
which starts in the state that the first one leaves. -/
theorem expandBytes_append {a : Bytes} (b : Bytes) (hend : a.getLast? ≠ some dollar)
    (hclosed : .unclosed ∉ spans a) (st : σ) :
    let first := expandBytes lookup a st
    let second := expandBytes lookup b first.2
    let whole := expandBytes lookup (a ++ b) st
    whole.1.bytes = first.1.bytes ++ second.1.bytes ∧ whole.2 = second.2 ∧
      asked lookup (a ++ b) st = asked lookup a st ++ asked lookup b first.2 := by
  intro first second whole
  have hwalk {τ : Type} (l : Lookup τ) : walk l false (a ++ b) =
      walk l false a >>= fun x => (x ++ ·) <$> walk l false b :=
    walk_append l b (closedFrom_of_spans hclosed) (getLast?_ne_dollar.mp hend)
  have hparts : Expanded.bytes <$> expandBytes lookup (a ++ b) =
      Expanded.bytes <$> expandBytes lookup a >>= fun x =>
        (x ++ ·) <$> Expanded.bytes <$> expandBytes lookup b := by
    rw [bytes_expandBytes, bytes_expandBytes, bytes_expandBytes, hwalk]
  have hnames : (names (spans (a ++ b))).map lossyText =
      (names (spans a)).map lossyText ++ (names (spans b)).map lossyText := by
    have hwhole := noted_spans lookup (a ++ b) st []
    have hfirst := noted_spans lookup a st []
    rw [List.nil_append] at hwhole hfirst
    rw [← hwhole, ← hfirst, hwalk]
    exact noted_spans lookup b _ _
  have hrun := congrFun hparts st
  have hbytes : whole.1.bytes = first.1.bytes ++ second.1.bytes := congrArg (·.1) hrun
  have hstate : whole.2 = second.2 := congrArg (·.2) hrun
  refine ⟨hbytes, hstate, ?_⟩
  rw [asked_spans, asked_spans, asked_spans, hnames]

/-- Behind an escape's brace, with a closing brace that nothing opened; the lookup counts. -/
theorem expandBytes_append_counting :
    let a : Bytes := [0x24, 0x7B, 0x41, 0x7D, 0x24, 0x24, 0x7B]
    let b : Bytes := [0x24, 0x7B, 0x7D, 0x7D, 0x24, 0x7B, 0x42, 0x7D, 0x24, 0x7B]
    let lookup : Lookup Nat := fun name n => (name ++ toString n, n + 1)
    a.getLast? ≠ some dollar ∧ .unclosed ∉ spans a ∧
      (expandBytes lookup (a ++ b) 3).1.bytes =
        [0x41, 0x33, 0x24, 0x7B] ++ [0x7D, 0x42, 0x34] ∧
      (expandBytes lookup (a ++ b) 3).2 = 5 ∧ asked lookup (a ++ b) 3 = ["A"] ++ ["B"] := by
  intro a b lookup
  have hend : a.getLast? ≠ some dollar := by decide
  have hclosed : .unclosed ∉ spans a := by
    have hspans : spans a = [.reference [0x41], .literal [0x24], .escape, .literal [0x7B]] := by cbv
    rw [hspans]
    decide
  obtain ⟨hbytes, hstate, hasked⟩ := expandBytes_append lookup b hend hclosed 3
  exact ⟨hend, hclosed, hbytes.trans (by cbv), hstate.trans (by cbv), hasked.trans (by cbv)⟩

end Stencil.Expansion
