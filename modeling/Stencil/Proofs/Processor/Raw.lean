import Stencil.Program
import Stencil.Proofs.Expansion.Openings
import Stencil.Proofs.Expansion.Reading
import Stencil.Proofs.Processor.Whole
import Stencil.Proofs.Text.Start

/-! What a pass asks of its bytes.

With the template stage on, the bytes have to be a text as they come in: what is wrong with them
stops the pass before it asks for a name or shows a template, even where it lies in a reference that
would give way to its value. With the stage off nothing is asked of them, and nothing fails: what is
no part of a reference or an escape comes out as it was, between what became of the bytes on either
side (`substituteBytes_raw`). -/
namespace Stencil

namespace Expansion
open Text.Utf8 (Bytes lossyText encodeText encodeText_inj)

/-- What becomes of two inputs' stretches, the second with the answers that the first leaves. -/
theorem fill_append (ss more : List Span) (answers : List String) :
    fill (ss ++ more) answers =
      fill ss answers ++ fill more (answers.drop (names ss).length) := by
  fun_induction fill ss answers with
  | case1 answers => rfl
  | case2 answers bs ss ih => rw [List.cons_append, fill, ih, List.append_assoc]; rfl
  | case3 name ss answer answers ih => rw [List.cons_append, fill, ih, List.append_assoc]; rfl
  | case4 span ss answers hliteral hreference ih =>
    cases span with
    | literal bs => exact absurd rfl (hliteral bs)
    | reference name =>
      cases answers with
      | nil => simpa [fill] using ih
      | cons answer answers => exact absurd rfl (hreference name answer answers rfl)
    | _ => exact ih

/-- A lookup with notes expands a text to what it is expanded to without them. -/
theorem expand_watches {σ τ : Type} {watched : Lookup (σ × τ)} {lookup : Lookup σ}
    (h : ∀ name, Watches (watched name) (lookup name)) (s : String) :
    Watches (ExpandedText.text <$> expand watched s) (ExpandedText.text <$> expand lookup s) := by
  have hbytes := walk_watches h false (encodeText s)
  rw [← bytes_expandBytes watched, ← bytes_expandBytes lookup, ← encodeText_expand watched,
    ← encodeText_expand lookup] at hbytes
  exact fun st => ⟨encodeText_inj (hbytes st).1, (hbytes st).2⟩

end Expansion

namespace Processor
open Text.Utf8 Expansion

variable {σ : Type} (p : Processor σ)

/-! ### A pass that takes notes -/

/-- A pass that also lists the names it asks for, and the templates and flags it shows. -/
def noted : Processor (σ × List String × List (String × Bool)) where
  lookup name st :=
    let r := p.lookup name st.1
    (r.1, (r.2, st.2.1 ++ [name], st.2.2))
  render template debug st :=
    let r := p.render template debug st.1
    (r.1, (r.2, st.2.1, st.2.2 ++ [(template, debug)]))
  mode := p.mode
  debug := p.debug

/-- The names that a pass asks for while it takes some bytes, and the templates and flags that it
shows. -/
def reached (bs : Bytes) (st : σ) : List String × List (String × Bool) :=
  ((p.noted.substituteBytes bs).run (st, [], [])).2.2

/-- Asking for names shows nothing. -/
theorem askAll_noted_shown (ns : List Bytes)
    (st : σ × List String × List (String × Bool)) :
    (askAll p.noted.lookup ns st).2.2.2 = st.2.2 := by
  induction ns generalizing st with
  | nil => rfl
  | cons n ns ih =>
    have hcons : (askAll p.noted.lookup (n :: ns) st).2 =
        (askAll p.noted.lookup ns (p.noted.lookup (lossyText n) st).2).2 := by
      rw [askAll, List.mapM_cons]
      rfl
    rw [hcons, ih]
    rfl

/-! ### What a text is shown as -/

/-- The template that a text is, once its names are asked for. -/
def templateOf (s : String) : StateM σ String :=
  if p.mode.expand then ExpandedText.text <$> expand p.lookup s else pure s

theorem run_substitute_rendered (h : p.mode.template = true) (s : String) (st : σ) :
    (p.substitute s).run st =
      p.render (p.templateOf s st).1 p.debug (p.templateOf s st).2 := by
  simp only [substitute, templateOf, h, if_true]
  split <;> rfl

theorem templateOf_watches (s : String) : Watches (p.noted.templateOf s) (p.templateOf s) := by
  cases hexpand : p.mode.expand with
  | false =>
    have hnoted : p.noted.mode.expand = false := hexpand
    simp only [templateOf, hexpand, hnoted, Bool.false_eq_true, if_false]
    exact .pure s
  | true =>
    have hnoted : p.noted.mode.expand = true := hexpand
    simp only [templateOf, hexpand, hnoted, if_true]
    have hlookup (name : String) : Watches (p.noted.lookup name) (p.lookup name) :=
      fun st => ⟨rfl, rfl⟩
    exact expand_watches hlookup s

/-- No template is shown before there is one. -/
theorem templateOf_shown (s : String) (st : σ × List String × List (String × Bool)) :
    (p.noted.templateOf s st).2.2.2 = st.2.2 := by
  cases hexpand : p.mode.expand with
  | false =>
    have hnoted : p.noted.mode.expand = false := hexpand
    simp only [templateOf, hnoted, Bool.false_eq_true, if_false]
    rfl
  | true =>
    have hnoted : p.noted.mode.expand = true := hexpand
    have hstate := congrArg Prod.snd (congrFun (expandBytes_spans p.noted.lookup (encodeText s)) st)
    simp only [templateOf, hnoted, if_true]
    refine Eq.trans ?_ (p.askAll_noted_shown (names (spans (encodeText s))) st)
    exact congrArg (·.2.2) hstate

/-- A text comes out as it is rendered, and its template is all that is shown. -/
theorem substituteBytes_text (h : p.mode.template = true) (s : String) (st : σ) :
    let asked := p.templateOf s st
    (p.substituteBytes (encodeText s)).run st =
        ((p.render asked.1 p.debug asked.2).1.map encodeText,
          (p.render asked.1 p.debug asked.2).2) ∧
      (p.reached (encodeText s) st).2 = [(asked.1, p.debug)] := by
  intro asked
  have hnoted : p.noted.mode.template = true := h
  constructor
  · rw [substituteBytes_encodeText, run_map, run_substitute_rendered p h]
  · have htemplate : (p.noted.templateOf s (st, [], [])).1 = asked.1 :=
      (p.templateOf_watches s (st, [], [])).1
    have hshown : (p.noted.templateOf s (st, [], [])).2.2.2 = [] := p.templateOf_shown s _
    rw [reached, substituteBytes_encodeText, run_map, run_substitute_rendered p.noted hnoted]
    show (p.noted.templateOf s (st, [], [])).2.2.2 ++
      [((p.noted.templateOf s (st, [], [])).1, p.debug)] = _
    rw [htemplate, hshown, List.nil_append]

/-- Bytes that are no text stop the pass where their longest start that is a text ends, before
anything is asked for or shown. -/
theorem substituteBytes_not_text (h : p.mode.template = true) {bs : Bytes} (hbs : ¬ IsText bs)
    (st : σ) :
    ∃ flaw, (p.substituteBytes bs).run st = (.error (.utf8 flaw), st) ∧
      IsGreatest (textStarts bs) flaw.validUpTo ∧ p.reached bs st = ([], []) := by
  obtain ⟨flaw, hflaw⟩ := exists_decodeText_error_iff.mpr hbs
  have hnoted : p.noted.mode.template = true := h
  refine ⟨flaw, ?_, isGreatest_validUpTo hflaw, ?_⟩
  · rw [substituteBytes_rendered p h, hflaw]
    rfl
  · rw [reached, substituteBytes_rendered p.noted hnoted, hflaw]
    rfl

/-- Without the template stage nothing fails, and a literal stands between what became of the
stretches on either side of it. -/
theorem substituteBytes_literal (h : p.mode.template = false) (bs : Bytes) (st : σ) :
    let answers := answered p.lookup bs st
    ((p.substituteBytes bs).run st).1 = .ok (fill (spans bs) answers) ∧
      ∀ before literal after, spans bs = before ++ .literal literal :: after →
        fill (spans bs) answers =
          fill before answers ++ literal ++ fill after (answers.drop (names before).length) := by
  intro answers
  constructor
  · rw [substituteBytes_plain p h, ← bytes_expandBytes_fill]
    rfl
  · intro before literal after hsplit
    rw [hsplit, fill_append, List.append_assoc]
    rfl

/-- The template engine finds no flaw in bytes. -/
theorem renderer_ne_utf8 (w : Template.World) (template : String) (debug : Bool) (st : σ)
    (flaw : Flaw) : (w.renderer template debug st).1 ≠ .error (.utf8 flaw) := by
  intro h
  have hmap : (w.render template debug).mapError Error.template = .error (.utf8 flaw) := h
  cases hrender : w.render template debug with
  | ok out =>
    rw [hrender] at hmap
    cases hmap
  | error fault =>
    rw [hrender] at hmap
    cases hmap

/-- With a renderer that reports none by itself, a pass finds a flaw in bytes exactly if they are no
text. -/
theorem substituteBytes_utf8_iff (h : p.mode.template = true)
    (hrender : ∀ template st' flaw, (p.render template p.debug st').1 ≠ .error (.utf8 flaw))
    (bs : Bytes) (st : σ) :
    (∃ flaw, ((p.substituteBytes bs).run st).1 = .error (.utf8 flaw)) ↔ ¬ IsText bs := by
  constructor
  · rintro ⟨flaw, hflaw⟩ htext
    obtain ⟨s, rfl⟩ := htext.exists_encodeText
    have hout := congrArg Prod.fst (p.substituteBytes_text h s st).1
    exact hrender _ _ flaw (of_map_eq_error (hout.symm.trans hflaw))
  · intro hbs
    obtain ⟨flaw, hrun, -⟩ := p.substituteBytes_not_text h hbs st
    exact ⟨flaw, congrArg Prod.fst hrun⟩

/-- **Bytes are checked as they come in.** With the template stage on, bytes that are no text fail
where their longest start that is a text ends, and no name is asked for and no template is shown;
a text becomes what its template is rendered to, which is shown once. The template engine finds no
flaw in bytes, so with it that check is the only place where one is found. With the stage off
nothing fails, and each literal of the input is in the output, between what became of the stretches
before it and of those behind it. -/
theorem substituteBytes_raw (bs : Bytes) (st : σ) :
    let outcome := (p.substituteBytes bs).run st
    (p.mode.template = true →
      (¬ IsText bs → ∃ flaw, outcome = (.error (.utf8 flaw), st) ∧
          IsGreatest (textStarts bs) flaw.validUpTo ∧ p.reached bs st = ([], [])) ∧
        (∀ s, encodeText s = bs →
          let asked := p.templateOf s st
          outcome =
              ((p.render asked.1 p.debug asked.2).1.map encodeText,
                (p.render asked.1 p.debug asked.2).2) ∧
            (p.reached bs st).2 = [(asked.1, p.debug)]) ∧
        ∀ w : Template.World, p.render = w.renderer →
          ((∃ flaw, outcome.1 = .error (.utf8 flaw)) ↔ ¬ IsText bs)) ∧
      (p.mode.template = false →
        let answers := answered p.lookup bs st
        outcome.1 = .ok (fill (spans bs) answers) ∧ (spans bs).flatMap Span.source = bs ∧
          ∀ before literal after, spans bs = before ++ .literal literal :: after →
            fill (spans bs) answers =
              fill before answers ++ literal ++
                fill after (answers.drop (names before).length)) := by
  intro outcome
  refine ⟨fun h => ⟨fun hbs => p.substituteBytes_not_text h hbs st, ?_, fun w hw => ?_⟩,
    fun h => ?_⟩
  · rintro s rfl
    exact p.substituteBytes_text h s st
  · refine p.substituteBytes_utf8_iff h (fun template st' flaw => ?_) bs st
    rw [hw]
    exact renderer_ne_utf8 w template p.debug st' flaw
  · obtain ⟨hout, hliteral⟩ := p.substituteBytes_literal h bs st
    exact ⟨hout, source_spans bs, hliteral⟩

/-- A lead byte alone between braces, which expansion removes, and a bad byte in front of it, which
expansion keeps. -/
theorem substituteBytes_raw_in_reference :
    let w : Template.World := { snapshot := { environment := [("A", "a")] } }
    let p : Processor Unit := ofSnapshot w.snapshot w.renderer .both true
    let q : Processor Unit := ofSnapshot w.snapshot w.renderer .expandOnly true
    let bs : Bytes := [0xC3, 0xA9, 0x24, 0x7B, 0xC3, 0x7D, 0x21]
    ¬ IsText bs ∧
      (∃ flaw, (p.substituteBytes bs).run () = (.error (.utf8 flaw), ()) ∧
        IsGreatest (textStarts bs) flaw.validUpTo ∧ flaw.validUpTo = 4 ∧
        p.reached bs () = ([], [])) ∧
      (∃ flaw, ((p.substituteBytes bs).run ()).1 = .error (.utf8 flaw)) ∧
      ((p.substituteBytes (encodeText "$\x7bA\x7d")).run ()).1 =
        (w.renderer (σ := Unit) "a" true ()).1.map encodeText ∧
      ((q.substituteBytes (0xFF :: bs)).run ()).1 = .ok ([0xFF, 0xC3, 0xA9] ++ [0x21]) := by
  intro w p q bs
  have hbs : ¬ IsText bs := exists_decodeText_error_iff.mp ⟨⟨4, some 1⟩, by cbv⟩
  obtain ⟨hnot, -, hiff⟩ := (p.substituteBytes_raw bs ()).1 rfl
  obtain ⟨-, htext, -⟩ := (p.substituteBytes_raw (encodeText "$\x7bA\x7d") ()).1 rfl
  obtain ⟨flaw, hrun, hgreatest, hreached⟩ := hnot hbs
  have hflaw : (p.substituteBytes bs).run () = (.error (.utf8 ⟨4, some 1⟩), ()) := by cbv
  have hfour : flaw.validUpTo = 4 := by
    rw [hflaw] at hrun
    cases hrun
    rfl
  refine ⟨hbs, ⟨flaw, hrun, hgreatest, hfour, hreached⟩,
    (hiff w rfl).mpr hbs, ?_, ?_⟩
  · have htemplate : (p.templateOf "$\x7bA\x7d" ()).1 = "a" := by cbv
    rw [(htext _ rfl).1, htemplate]
    rfl
  · obtain ⟨hout, -, hliteral⟩ := (q.substituteBytes_raw (0xFF :: bs) ()).2 rfl
    rw [hout, hliteral [] [0xFF, 0xC3, 0xA9] [.reference [0xC3], .literal [0x21]] (by cbv)]
    cbv

end Processor
end Stencil
