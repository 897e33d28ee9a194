import Mathlib.Data.List.Infix
import Stencil.Program
import Stencil.Proofs.Processor.Entry

/-! Text without markers.

A template in which no expression, statement or comment begins is one piece of text, and is rendered
as it is, to the last byte: nothing is escaped, and the end of the text and of its lines are kept
(`World.render_plain`). Whether a marker stands in a text is looked at behind the expansion, which
can join signs to markers and can drop markers inside of names (`substitute_markerless`). -/
namespace Stencil.Template

/-- What begins an expression, a statement and a comment. -/
def markers : List String := ["\x7b\x7b", "\x7b%", "\x7b#"]

/-- No marker stands anywhere in a text. -/
def Plain (cs : List Char) : Prop := ∀ m ∈ markers, ¬ m.toList <:+: cs

instance (cs : List Char) : Decidable (Plain cs) :=
  inferInstanceAs (Decidable (∀ m ∈ markers, ¬ m.toList <:+: cs))

theorem plain_cons_iff {c : Char} {cs : List Char} :
    Plain (c :: cs) ↔ (∀ m ∈ markers, ¬ m.toList <+: c :: cs) ∧ Plain cs := by
  simp only [Plain, List.infix_cons_iff, not_or]
  exact ⟨fun h => ⟨fun m hm => (h m hm).1, fun m hm => (h m hm).2⟩,
    fun h m hm => ⟨h.1 m hm, h.2 m hm⟩⟩

/-! ### One piece of text -/

theorem mem_markers_of_markerOf? {c : Char} {m : Marker} (h : Lexeme.markerOf? c = some m) :
    String.ofList ['\x7b', c] ∈ markers := by
  unfold Lexeme.markerOf? at h
  split at h
  · next hc =>
    rw [eq_of_beq hc]
    decide
  · split at h
    · next hc =>
      rw [eq_of_beq hc]
      decide
    · split at h
      · next hc =>
        rw [eq_of_beq hc]
        decide
      · cases h

theorem marker?_eq_none {cs : List Char} (h : ∀ m ∈ markers, ¬ m.toList <+: cs) :
    Lexeme.marker? cs = none := by
  match cs with
  | [] | [_] => rfl
  | a :: b :: rest =>
    rw [Lexeme.marker?]
    split
    · next ha =>
      cases hb : Lexeme.markerOf? b with
      | none => rfl
      | some m =>
        have hhere := h _ (mem_markers_of_markerOf? hb)
        rw [String.toList_ofList, eq_of_beq ha] at hhere
        exact absurd ⟨rest, rfl⟩ hhere
    · rfl

/-- Where there is no marker, all of the text stands before the first one. -/
theorem upToMarker_plain {cs : List Char} (h : Plain cs) : Lexeme.upToMarker cs = (cs, none) := by
  induction cs with
  | nil => rfl
  | cons c cs ih =>
    obtain ⟨hhere, hbehind⟩ := plain_cons_iff.mp h
    rw [Lexeme.upToMarker, marker?_eq_none hhere, ih hbehind]

theorem lexemes_plain {s : String} (h : Plain s.toList) :
    Lexemes.ofText s = ⟨Lexemes.dataAt 1 s.toList, none⟩ := by
  have hcut (fuel : Nat) : Lexemes.cut (fuel + 1) (.text false) 1 s.toList =
      ⟨Lexemes.dataAt 1 s.toList, none⟩ := by
    rw [Lexemes.cut]
    simp only [Bool.false_eq_true, if_false, upToMarker_plain h, Lexemes.gone, Nat.sub_self,
      List.take_zero]
    simp [Lexemes.behind, Lexemes.none, Lexeme.lineAfter]
  exact hcut (2 * s.length + 1)

/-- Text becomes a statement, and what follows is read behind it. -/
theorem statements_data (fuel line : Nat) (cs : List Char) (ends : List String) (p : Progress) :
    (Parser.statements (fuel + 1) ends).run { p with rest := ⟨.data cs, line⟩ :: p.rest } =
      ((Parser.statements fuel ends).run { p with line }).map fun r =>
        (.data (String.ofList cs) :: r.1, r.2) := by
  rw [Parser.statements]
  show (do let r ← (Parser.statements fuel ends).run { p with line }; _) = _
  cases (Parser.statements fuel ends).run { p with line } <;> rfl

theorem statements_end (fuel : Nat) (ends : List String) (p : Progress) (hrest : p.rest = [])
    (hfault : p.fault = none) : (Parser.statements (fuel + 1) ends).run p = .ok ([], p) := by
  obtain ⟨rest, fault, line, depth, inLoop, inMacro, blocks⟩ := p
  subst hrest hfault
  rw [Parser.statements]
  rfl

theorem statements_plain (fuel : Nat) (s : String) :
    ∃ p, (Parser.statements (fuel + 2) []).run
      { rest := Lexemes.dataAt 1 s.toList, fault := none } =
        .ok (if s = "" then [] else [.data s], p) := by
  by_cases hs : s = ""
  · subst hs
    exact ⟨_, statements_end (fuel + 1) [] { rest := [], fault := none } rfl rfl⟩
  · have hdata : Lexemes.dataAt 1 s.toList = [⟨.data s.toList, 1⟩] := by
      simp [Lexemes.dataAt, hs]
    have hread := statements_data (fuel + 1) 1 s.toList [] { rest := [], fault := none }
    rw [statements_end fuel [] { rest := [], fault := none, line := 1 } rfl rfl,
      String.ofList_toList] at hread
    rw [hdata, if_neg hs]
    exact ⟨_, hread⟩

/-- One statement, or none for the empty text. -/
theorem document_plain {s : String} (h : Plain s.toList) :
    Document.ofText s = .ok ⟨if s = "" then [] else [.data s], []⟩ := by
  rw [Document.ofText, lexemes_plain h]
  have hfuel : 32 * ((Lexemes.dataAt 1 s.toList).length + 16) =
      32 * (Lexemes.dataAt 1 s.toList).length + 510 + 2 := by omega
  obtain ⟨p, hread⟩ := statements_plain (32 * (Lexemes.dataAt 1 s.toList).length + 510) s
  simp only [hfuel, hread]
  show Except.ok _ = _
  split <;> rfl

/-! ### Output -/

/-- **A template without markers is its own output**, in any world. -/
theorem World.render_plain (w : World) {s : String} (h : Plain s.toList) (debug : Bool) :
    w.render s debug = .ok s := by
  rw [World.render, document_plain h]
  split
  · next hs =>
    rw [hs]
    rfl
  · show Except.ok ("" ++ s) = .ok s
    rw [String.empty_append]

end Stencil.Template

namespace Stencil.Processor
open Text.Utf8 Template

variable {σ : Type}

/-- **What is plain behind the expansion passes through**, to the last byte: whatever the mode, the
flag and the world, a text becomes what it is expanded to, or stays as it is where the expansion is
off. So do the bytes of the text. -/
theorem substitute_markerless (w : World) (mode : Mode) (debug : Bool) (s : String) (st : σ)
    (h : Plain (template w.snapshot mode s).toList) :
    let p := ofSnapshot w.snapshot w.renderer mode debug
    (p.substitute s).run st = (.ok (template w.snapshot mode s), st) ∧
      (p.substituteBytes (encodeText s)).run st =
        (.ok (encodeText (template w.snapshot mode s)), st) := by
  intro p
  have hrender : w.renderer (template w.snapshot mode s) debug st =
      (.ok (template w.snapshot mode s), st) := by
    rw [World.renderer, World.render_plain w h]
    rfl
  have htext : (p.substitute s).run st = (.ok (template w.snapshot mode s), st) := by
    rw [substitute_ofSnapshot]
    split
    · exact hrender
    · rfl
  refine ⟨htext, ?_⟩
  rw [substituteBytes_encodeText, run_map, htext]
  rfl

/-- Line ends, quotes, lone signs and the end of a document stay as they are. The markers in the
input are gone before they are looked for: they are the name of no variable. -/
theorem substitute_markerless_document :
    let w : World := { snapshot := { environment := [("V", "\x7b v %\x7d")] } }
    let s := "<a b='\"'>&amp;\r\n\x7b \x7d % # $\x7b\x7b\x7b%\x7d$\x7bV\x7d$$\x7bV\x7d\n\n"
    let x := "<a b='\"'>&amp;\r\n\x7b \x7d % # \x7b v %\x7d$\x7bV\x7d\n\n"
    Plain (template w.snapshot .both s).toList ∧ template w.snapshot .both s = x ∧
      ((ofSnapshot w.snapshot w.renderer .both true).substitute s).run () = (.ok x, ()) := by
  intro w s x
  have hx : template w.snapshot .both s = x := by cbv
  have hplain : Plain (template w.snapshot .both s).toList := by
    rw [hx]
    decide
  refine ⟨hplain, hx, ?_⟩
  rw [← hx]
  exact (substitute_markerless w .both true s () hplain).1

end Stencil.Processor
