import Mathlib
import Stencil.Proofs.Expansion.Spans
import Stencil.Proofs.Text.Utf8

/-! Expansion of texts.

Dollars and braces are bytes below 0x80, so every cut the scanner makes falls between
characters, and answers are texts. `walk_isText` carries this along the walk: what has been copied
of a character that is not finished yet is joined to what comes. So the bytes that come out of
a text are a text, and the check that `expand` makes of them always succeeds. -/
namespace Stencil.Expansion
open Text.Utf8

variable {σ : Type} (lookup : Lookup σ)

theorem dollar_low : dollar.toNat < 0x80 := by decide
theorem opening_low : opening.toNat < 0x80 := by decide
theorem closing_low : closing.toNat < 0x80 := by decide

/-- What is left behind a reference in a text is a text. -/
theorem reference_isText {inner : Bytes} (h : IsText inner) : IsText (reference inner).2 := by
  by_cases hclose : closing ∈ inner
  · obtain ⟨name, after, rfl, hn⟩ := List.eq_append_cons_of_mem hclose
    rw [reference_closed hn]
    exact (h.cut closing_low).2
  · rwa [reference_unclosed hclose]

theorem answer_isText (name : Option Bytes) (st : σ) : IsText (answer lookup name st).1 := by
  cases name with
  | none => exact .nil
  | some name => exact .encodeText _

/-- A text may be cut around a dollar and the opening brace behind it. -/
theorem cut_opening {copied rest : Bytes} (h : IsText (copied ++ dollar :: opening :: rest)) :
    IsText copied ∧ IsText rest := by
  obtain ⟨hcopied, hinner⟩ := h.cut dollar_low
  exact ⟨hcopied, (hinner.cut (a := []) opening_low).2⟩

/-- Behind the bytes of a text that were copied, the walk completes a text. -/
theorem walk_isText (copied : Bytes) {s : Bytes} (behind : Bool) (h : IsText (copied ++ s))
    (st : σ) : IsText (copied ++ (walk lookup behind s st).1) := by
  fun_induction walk lookup behind s generalizing copied st with
  | case1 => exact h
  | case2 behind b => exact h
  | case3 b c rest hbc ih =>
    rw [hbc.1, hbc.2] at h
    obtain ⟨hcopied, hrest⟩ := cut_opening h
    exact hcopied.append ((IsText.single opening_low).append (ih [] hrest st))
  | case4 behind b c rest hbc hbehind ih =>
    rw [hbc.1, hbc.2] at h
    obtain ⟨hcopied, hrest⟩ := cut_opening h
    have hvalue := answer_isText lookup (reference rest).1 st
    exact hcopied.append (hvalue.append (ih [] (reference_isText hrest) _))
  | case5 behind b c rest hbc ih =>
    have hmore : IsText ((copied ++ [b]) ++ c :: rest) := by simpa using h
    have := ih (copied ++ [b]) hmore st
    rw [List.append_assoc] at this
    exact this

theorem expandBytes_isText {s : Bytes} (h : IsText s) (st : σ) :
    IsText (expandBytes lookup s st).1.bytes := by
  have hwalk : (expandBytes lookup s st).1.bytes = (walk lookup false s st).1 :=
    congrArg Prod.fst (congrFun (bytes_expandBytes lookup s) st)
  rw [hwalk]
  exact walk_isText lookup [] false h st

/-- Without output the input is handed back. -/
theorem bytes_of_unchanged {s : Bytes} {st : σ}
    (h : (expandBytes lookup s st).1.unchanged = true) : (expandBytes lookup s st).1.bytes = s := by
  simp only [expandBytes, Cursor.result] at h ⊢
  split at h
  · rfl
  · cases h

/-- Expanding a text is expanding its bytes. -/
theorem encodeText_expand (s : String) :
    (fun e => encodeText (ExpandedText.text e)) <$> expand lookup s =
      Expanded.bytes <$> expandBytes lookup (encodeText s) := by
  funext st
  refine Prod.ext ?_ rfl
  show encodeText (if (expandBytes lookup (encodeText s) st).1.unchanged then s
    else textOr (expandBytes lookup (encodeText s) st).1.bytes) = _
  split
  · next h => exact (bytes_of_unchanged lookup h).symm
  · exact encodeText_textOr (expandBytes_isText lookup (.encodeText s) st)

/-! ### Names in a text -/

/-- A name in a text is a text, and so is what stands on either side of its reference. -/
theorem split_of_mem_names {s : Bytes} (h : IsText s) {name : Bytes} (hn : name ∈ names (spans s)) :
    IsText name ∧ closing ∉ name ∧ ∃ before after, IsText before ∧ IsText after ∧
      s = before ++ dollar :: opening :: (name ++ closing :: after) := by
  obtain ⟨-, hclose, before, after, rfl⟩ := reference_of_mem_names hn
  obtain ⟨hbefore, hrest⟩ := cut_opening h
  obtain ⟨hname, hafter⟩ := hrest.cut closing_low
  exact ⟨hname, hclose, before, after, hbefore, hafter, rfl⟩

/-- Nothing is replaced in the names that a text asks for. -/
theorem encodeText_asked (s : String) (st : σ) :
    (asked lookup (encodeText s) st).map encodeText = names (spans (encodeText s)) := by
  have hread : ∀ name ∈ names (spans (encodeText s)), encodeText (lossyText name) = name :=
    fun name hn => encodeText_lossyText (split_of_mem_names (.encodeText s) hn).1
  rw [asked_spans, List.map_map]
  exact (List.map_congr_left hread).trans (List.map_id _)

theorem encodeText_opening : encodeText "$\x7b" = [dollar, opening] := by decide
theorem encodeText_closing : encodeText "\x7d" = [closing] := by decide

theorem closing_mem_encodeText {s : String} (h : '\x7d' ∈ s.toList) : closing ∈ encodeText s := by
  obtain ⟨before, after, hs⟩ := List.append_of_mem h
  rw [encodeText, hs, encode_append, encode_cons]
  exact List.mem_append_right _ (List.mem_append_left _ List.mem_cons_self)

/-- Each name stands in its text from the opening brace to the first closing one. -/
theorem asked_between_braces {s name : String} {st : σ}
    (h : name ∈ asked lookup (encodeText s) st) :
    '\x7d' ∉ name.toList ∧ ∃ before after, s = before ++ "$\x7b" ++ name ++ "\x7d" ++ after := by
  rw [asked_spans] at h
  obtain ⟨bs, hbs, rfl⟩ := List.mem_map.mp h
  obtain ⟨hname, hclose, before, after, hbefore, hafter, hs⟩ :=
    split_of_mem_names (.encodeText s) hbs
  obtain ⟨name, rfl⟩ := hname.exists_encodeText
  obtain ⟨before, rfl⟩ := hbefore.exists_encodeText
  obtain ⟨after, rfl⟩ := hafter.exists_encodeText
  rw [lossyText_encodeText]
  refine ⟨fun hmem => hclose (closing_mem_encodeText hmem), before, after, encodeText_inj ?_⟩
  rw [hs]
  simp [encodeText_append, encodeText_opening, encodeText_closing]

/-- **A text is expanded as a text.** The bytes that come out of its bytes are a text, so nothing
is replaced in them: `expand` gives just that text, is unchanged where they are, and leaves the
same state and asks for the same names. These are, byte for byte, the names in the references of
the text, where each stands between its braces. -/
theorem expand_reads_text (s : String) (st : σ) :
    decodeText (expandBytes lookup (encodeText s) st).1.bytes = .ok (expand lookup s st).1.text ∧
      encodeText (expand lookup s st).1.text = (expandBytes lookup (encodeText s) st).1.bytes ∧
      (expand lookup s st).1.unchanged = (expandBytes lookup (encodeText s) st).1.unchanged ∧
      (expand lookup s st).2 = (expandBytes lookup (encodeText s) st).2 ∧
      (expand lookup.noted s (st, [])).2.2 = asked lookup (encodeText s) st ∧
      (spans (encodeText s)).flatMap Span.source = encodeText s ∧
      (asked lookup (encodeText s) st).map encodeText = names (spans (encodeText s)) ∧
      ∀ name ∈ asked lookup (encodeText s) st,
        '\x7d' ∉ name.toList ∧ ∃ before after, s = before ++ "$\x7b" ++ name ++ "\x7d" ++ after := by
  have hbytes : encodeText (expand lookup s st).1.text =
      (expandBytes lookup (encodeText s) st).1.bytes :=
    congrArg Prod.fst (congrFun (encodeText_expand lookup s) st)
  refine ⟨?_, hbytes, rfl, rfl, rfl, source_spans _, encodeText_asked lookup s st,
    fun name hn => asked_between_braces lookup hn⟩
  rw [← hbytes, decodeText_encodeText]

/-- An accent behind a dollar that opens nothing, a name of two bytes, an open brace at the end. -/
theorem expand_reads_text_accents :
    let s := "$é$\x7bñ\x7d✓$\x7b"
    let lookup := Lookup.pure fun name => name ++ "€"
    "ñ" ∈ asked lookup (encodeText s) () ∧
      decodeText (expandBytes lookup (encodeText s) ()).1.bytes = .ok "$éñ€✓" ∧
      ∃ before after, s = before ++ "$\x7b" ++ "ñ" ++ "\x7d" ++ after := by
  intro s lookup
  have hasked : "ñ" ∈ asked lookup (encodeText s) () := by
    have : asked lookup (encodeText s) () = ["ñ"] := by cbv
    rw [this]
    exact List.mem_cons_self
  obtain ⟨hdecode, -, -, -, -, -, -, hnames⟩ := expand_reads_text lookup s ()
  exact ⟨hasked, hdecode.trans (by cbv), (hnames "ñ" hasked).2⟩

end Stencil.Expansion
