import Mathlib
import Stencil.Proofs.Expansion.Spans

/-! What expansion leaves to expand.

Dropping what is no reference, putting in an answer and taking a dollar from an escape all bring
bytes together that stood apart. None of these seams makes a dollar stand before an opening brace,
as long as the answers are `Inert`: what has been written never ends in a dollar where a reference
begins, and a dollar that was copied is followed by what followed it in the input. So the
only dollars before opening braces are those of the escapes (`expandBytes_openings`), and without
escapes a second expansion finds nothing to do. -/
namespace Stencil.Expansion
open Text.Utf8 (Bytes lossyText encodeText)

/-! ### Dollars before opening braces -/

/-- The number of dollars that an opening brace follows. -/
def openings : Bytes → Nat
  | [] => 0
  | b :: rest => openings rest + if b = dollar ∧ rest.head? = some opening then 1 else 0

theorem openings_cons (b : UInt8) (rest : Bytes) :
    openings (b :: rest) =
      openings rest + if b = dollar ∧ rest.head? = some opening then 1 else 0 :=
  rfl

theorem openings_opening {rest : Bytes} (h : rest.head? = some opening) :
    openings (dollar :: rest) = openings rest + 1 := by
  rw [openings_cons, if_pos ⟨rfl, h⟩]

theorem openings_copy {b : UInt8} {rest : Bytes} (h : b = dollar → rest.head? ≠ some opening) :
    openings (b :: rest) = openings rest := by
  rw [openings_cons, if_neg fun ⟨hb, hr⟩ => h hb hr, Nat.add_zero]

theorem openings_eq_zero {s : Bytes} : openings s = 0 ↔ ¬ [dollar, opening] <:+: s := by
  induction s with
  | nil => simp [openings]
  | cons b rest ih =>
    have hhead : [dollar, opening] <+: b :: rest ↔ b = dollar ∧ rest.head? = some opening := by
      rw [List.cons_prefix_cons, eq_comm, List.head?_eq_some_iff]
      exact and_congr_right fun _ => ⟨fun ⟨t, ht⟩ => ⟨t, ht.symm⟩, fun ⟨t, ht⟩ => ⟨t, ht.symm⟩⟩
    rw [List.infix_cons_iff, hhead, not_or, ← ih, openings_cons]
    split <;> simp_all

/-- Where the first part ends in no dollar, nothing opens at the seam. -/
theorem openings_append {a b : Bytes} (h : a.getLast? ≠ some dollar) :
    openings (a ++ b) = openings a + openings b := by
  induction a with
  | nil => simp [openings]
  | cons x rest ih =>
    cases rest with
    | nil =>
      have hx : x ≠ dollar := fun e => h (by rw [e]; rfl)
      rw [List.singleton_append, openings_copy (absurd · hx), openings_copy (absurd · hx)]
      simp [openings]
    | cons y rest =>
      have hrest : (y :: rest).getLast? ≠ some dollar := by
        rwa [List.getLast?_cons_cons] at h
      have hhead : (y :: rest ++ b).head? = (y :: rest).head? := rfl
      rw [List.cons_append, openings_cons x, openings_cons x, hhead, ih hrest]
      omega

/-- Bytes that hold no dollar before an opening brace and put none before one that follows. -/
def Inert (bs : Bytes) : Prop := ¬ [dollar, opening] <:+: bs ∧ bs.getLast? ≠ some dollar

instance (bs : Bytes) : Decidable (Inert bs) := inferInstanceAs (Decidable (_ ∧ _))

theorem openings_inert_append {bs : Bytes} (h : Inert bs) (rest : Bytes) :
    openings (bs ++ rest) = openings rest := by
  rw [openings_append h.2, openings_eq_zero.mpr h.1, Nat.zero_add]

/-! ### Seams -/

/-- Bytes behind a copied dollar, or without it. -/
def behindDollar (behind : Bool) (bs : Bytes) : Bytes := if behind then dollar :: bs else bs

theorem openings_behindDollar {behind : Bool} {bs : Bytes}
    (h : behind = true → bs.head? ≠ some opening) :
    openings (behindDollar behind bs) = openings bs := by
  cases behind with
  | false => rfl
  | true => exact openings_copy fun _ => h rfl

/-- A byte in front of other ones that looks back at itself. -/
theorem openings_cons_behindDollar (b : UInt8) (bs : Bytes) :
    openings (b :: bs) = openings (behindDollar (b == dollar) bs) := by
  by_cases hb : b = dollar
  · rw [hb]
    rfl
  · rw [openings_copy (absurd · hb), behindDollar, if_neg (by simpa using hb)]

theorem escape_ne_literal (bs : Bytes) : Span.escape ≠ .literal bs := by simp

theorem opened_ne_escape (inner : Bytes) : Span.opened inner ≠ .escape := by
  rw [Span.opened]
  split
  · simp
  · split <;> simp

/-- What is opened is filled with an answer or with nothing. -/
theorem fill_opened_append (inner : Bytes) (ss : List Span) (answers : List String) :
    ∃ value rest, (value = [] ∨ ∃ answer ∈ answers, value = encodeText answer) ∧
      (∀ answer ∈ rest, answer ∈ answers) ∧
      fill (.opened inner :: ss) answers = value ++ fill ss rest := by
  rw [Span.opened]
  split
  · cases answers with
    | nil => exact ⟨[], [], .inl rfl, by simp, rfl⟩
    | cons answer rest =>
      exact ⟨_, rest, .inr ⟨answer, List.mem_cons_self, rfl⟩,
        fun a h => List.mem_cons_of_mem _ h, rfl⟩
  · split <;> exact ⟨[], answers, .inl rfl, fun _ h => h, rfl⟩

/-- **No seam opens anything**: of all dollars before opening braces in what is written, each
comes from an escape. Behind a copied dollar, the dollar counts as well. -/
theorem openings_fill (behind : Bool) (s : Bytes) (h : behind = true → s.head? ≠ some opening)
    (answers : List String) (hinert : ∀ answer ∈ answers, Inert (encodeText answer)) :
    openings (behindDollar behind (fill (spansFrom behind s) answers)) =
      (spansFrom behind s).count .escape := by
  fun_induction spansFrom behind s generalizing answers with
  | case1 behind => cases behind <;> rfl
  | case2 behind b =>
    have hfill : fill [.literal [b]] answers = [b] := by simp [fill]
    rw [hfill, openings_behindDollar h]
    simp [openings]
  | case3 b c rest hbc ih =>
    have hbrace : opening = dollar → (fill (spansFrom false rest) answers).head? ≠ some opening :=
      (absurd · (by decide))
    have hopen :
        behindDollar true (fill (.escape :: copied opening (spansFrom false rest)) answers) =
          dollar :: opening :: fill (spansFrom false rest) answers := by
      rw [← congrFun (fill_copied opening (spansFrom false rest)) answers]
      rfl
    rw [hopen, openings_opening rfl, openings_copy hbrace, List.count_cons_self,
      count_copied escape_ne_literal, ← ih (absurd · Bool.false_ne_true) answers hinert]
    rfl
  | case4 behind b c rest hbc hbehind ih =>
    obtain rfl : behind = false := by simpa using hbehind
    obtain ⟨value, more, hvalue, hmore, hfill⟩ :=
      fill_opened_append rest (spansFrom false (reference rest).2) answers
    have hinertMore : ∀ answer ∈ more, Inert (encodeText answer) :=
      fun answer ha => hinert answer (hmore answer ha)
    have hvalueInert : Inert value := by
      rcases hvalue with rfl | ⟨answer, ha, rfl⟩
      · decide
      · exact hinert answer ha
    rw [hfill, List.count_cons_of_ne (opened_ne_escape rest),
      ← ih (absurd · Bool.false_ne_true) more hinertMore]
    exact openings_inert_append hvalueInert _
  | case5 behind b c rest hbc ih =>
    have hcopy : (b == dollar) = true → (c :: rest).head? ≠ some opening := by
      intro hb hc
      exact hbc ⟨by simpa using hb, by simpa using hc⟩
    have hfill := congrFun (fill_copied b (spansFrom (b == dollar) (c :: rest))) answers
    have hfirst : behind = true →
        (b :: fill (spansFrom (b == dollar) (c :: rest)) answers).head? ≠ some opening := h
    rw [count_copied escape_ne_literal, hfill, openings_behindDollar hfirst,
      openings_cons_behindDollar, ih hcopy answers hinert]

/-! ### Without escapes -/

/-- An escape is two dollars before an opening brace. -/
theorem infix_of_escape_mem {behind : Bool} {s : Bytes} (h : .escape ∈ spansFrom behind s) :
    [dollar, dollar, opening] <:+: behindDollar behind s := by
  fun_induction spansFrom behind s with
  | case1 => cases h
  | case2 behind b => simp at h
  | case3 b c rest hbc ih =>
    rw [hbc.1, hbc.2]
    exact (List.prefix_append [dollar, dollar, opening] rest).isInfix
  | case4 behind b c rest hbc hbehind ih =>
    obtain rfl : behind = false := by simpa using hbehind
    rcases List.mem_cons.mp h with he | hmore
    · exact absurd he.symm (opened_ne_escape rest)
    · have hsource := source_opened rest
      have hsuffix : (reference rest).2 <:+ dollar :: opening :: rest := ⟨_, hsource⟩
      rw [hbc.1, hbc.2]
      exact (ih hmore).trans hsuffix.isInfix
  | case5 behind b c rest hbc ih =>
    have hmem : .escape ∈ spansFrom (b == dollar) (c :: rest) :=
      (mem_copied escape_ne_literal b _).mp h
    have hsuffix :
        behindDollar (b == dollar) (c :: rest) <:+ behindDollar behind (b :: c :: rest) := by
      by_cases hb : b = dollar <;> cases behind <;> simp [behindDollar, hb, List.suffix_cons_iff]
    exact (ih hmem).trans hsuffix.isInfix

/-! ### Nothing to expand -/

variable {σ : Type} (lookup : Lookup σ)

theorem opensAt_eq_false {s : Bytes} (h : ¬ [dollar, opening] <:+: s) (k : Nat) :
    opensAt s.toArray k = false := by
  rw [Bool.eq_false_iff]
  intro hopen
  have hdrop := opensAt_iff.mp hopen
  have hstart : [dollar, opening] <+: s.drop k := ⟨s.drop (k + 2), hdrop.symm⟩
  exact h (hstart.isInfix.trans (List.drop_suffix k s).isInfix)

theorem run_copies {s : Bytes} (h : ¬ [dollar, opening] <:+: s) (c : Cursor) (st : σ) :
    (run lookup s.toArray c st).1.out = c.out ∧ (run lookup s.toArray c st).2 = st := by
  fun_induction run lookup s.toArray c st with
  | case1 c st hp next ih =>
    have hnext : next = ({ c with pos := c.pos + 1 }, st) :=
      congrFun (step_copy lookup (opensAt_eq_false h c.pos)) st
    rw [hnext] at ih ⊢
    exact ih
  | case2 c st hp => exact ⟨rfl, rfl⟩

/-- Bytes without a dollar before an opening brace are handed back. -/
theorem expandBytes_unopened {s : Bytes} (h : ¬ [dollar, opening] <:+: s) (st : σ) :
    expandBytes lookup s st = (⟨s, true⟩, st) := by
  obtain ⟨hout, hstate⟩ := run_copies lookup h Cursor.start st
  rw [expandBytes]
  refine Prod.ext ?_ hstate
  simp only [Cursor.result, hout]
  rfl

/-- The answers that are given while bytes are expanded, in order. -/
def answered (s : Bytes) (st : σ) : List String := (askAll lookup (names (spans s)) st).1

theorem bytes_expandBytes_fill (s : Bytes) (st : σ) :
    (expandBytes lookup s st).1.bytes = fill (spans s) (answered lookup s st) :=
  congrArg Prod.fst (congrFun (expandBytes_spans lookup s) st)

/-- **Expansion leaves no reference behind.** If no answer holds a dollar before an opening brace
or ends in a dollar, the output has as many dollars before opening braces as the input has
escapes. So an input without escapes becomes one in which nothing opens: whatever expands it
again hands it back untouched, asking for nothing. -/
theorem expandBytes_openings (s : Bytes) (st : σ)
    (h : ∀ answer ∈ answered lookup s st, Inert (encodeText answer)) :
    openings (expandBytes lookup s st).1.bytes = (spans s).count .escape ∧
      (¬ [dollar, dollar, opening] <:+: s →
        let out := (expandBytes lookup s st).1.bytes
        ¬ [dollar, opening] <:+: out ∧
          ∀ {τ : Type} (again : Lookup τ) (st' : τ),
            expandBytes again out st' = (⟨out, true⟩, st') ∧ asked again out st' = []) := by
  have hcount : openings (expandBytes lookup s st).1.bytes = (spans s).count .escape := by
    rw [bytes_expandBytes_fill]
    exact openings_fill false s (absurd · Bool.false_ne_true) _ h
  refine ⟨hcount, fun hnone => ?_⟩
  intro out
  have hescape : (spans s).count .escape = 0 :=
    List.count_eq_zero.mpr fun hmem => hnone (infix_of_escape_mem hmem)
  have hout : ¬ [dollar, opening] <:+: out := openings_eq_zero.mp (hcount.trans hescape)
  refine ⟨hout, fun again st' => ⟨expandBytes_unopened again hout st', ?_⟩⟩
  rw [asked, expandBytes_unopened again.noted hout]

/-- Braces around what is dropped, an answer that is a brace, and a dollar before an empty one. -/
theorem expandBytes_openings_seams :
    let s : Bytes :=
      [0x7B, 0x24, 0x7B, 0x7D, 0x7B, 0x24, 0x7B, 0x42, 0x7D, 0x24, 0x20, 0x24, 0x7B, 0x41, 0x7D,
        0x7B, 0x24, 0x7B]
    let lookup := Lookup.pure fun name => if name = "B" then "\x7b" else ""
    (∀ answer ∈ answered lookup s (), Inert (encodeText answer)) ∧
      ¬ [dollar, dollar, opening] <:+: s ∧
      (expandBytes lookup s ()).1.bytes = [0x7B, 0x7B, 0x7B, 0x24, 0x20, 0x7B] ∧
      openings (expandBytes lookup s ()).1.bytes = 0 := by
  intro s lookup
  have hanswered : answered lookup s () = ["\x7b", ""] := by cbv
  have hinert : ∀ answer ∈ answered lookup s (), Inert (encodeText answer) := by
    rw [hanswered]
    decide
  have hnone : ¬ [dollar, dollar, opening] <:+: s := by decide
  obtain ⟨-, hunopened⟩ := expandBytes_openings lookup s () hinert
  exact ⟨hinert, hnone, by cbv, openings_eq_zero.mpr (hunopened hnone).1⟩

end Stencil.Expansion
