import Mathlib
import Stencil.Function.Text
import Stencil.Proofs.Data.Yaml

/-! What the text of a document tells about the document.

A document as printed never starts like a marker (`marker_not_start_print`), so nothing is taken
from its start, and a newline is taken from its end. `toYaml_determines_document`: where that is
all, which is where what stands last does not spill, texts are as different as documents are. Where
a text spills, its own white space is lost with the newline (`toYaml_forgets_spilled`). -/
namespace Stencil

namespace Text

theorem after?_eq_none {part text : List Char} (h : ¬ part <+: text) : after? part text = none := by
  fun_induction after? part text with
  | case1 text => exact absurd (List.nil_prefix) h
  | case2 => rfl
  | case3 p part text ih => exact ih fun hstart => h (List.cons_prefix_cons.mpr ⟨rfl, hstart⟩)
  | case4 => rfl

theorem dropStarts_eq_self {part text : List Char} (h : ¬ part <+: text) :
    dropStarts part text = text := by
  have hnone := after?_eq_none h
  rw [dropStarts]
  split
  · rfl
  · next hsome =>
    rw [hnone] at hsome
    cases hsome

/-- A line at the start of a text is a first line, or the text goes on within it. -/
theorem of_line_isPrefix {part line rest : List Char} {c : Char} (hline : '\n' ∉ line)
    (h : part ++ ['\n'] <+: line ++ c :: rest) : c ∈ part ∨ (c = '\n' ∧ line = part) := by
  induction line generalizing part with
  | nil =>
    cases part with
    | nil =>
      have hc : '\n' = c := (List.cons_prefix_cons.mp h).1
      exact Or.inr ⟨hc.symm, rfl⟩
    | cons p part =>
      have hc : p = c := (List.cons_prefix_cons.mp h).1
      exact Or.inl (hc ▸ List.mem_cons_self)
  | cons x line ih =>
    cases part with
    | nil =>
      have hx : '\n' = x := (List.cons_prefix_cons.mp h).1
      exact absurd (hx ▸ List.mem_cons_self) hline
    | cons p part =>
      obtain ⟨rfl, hrest⟩ := List.cons_prefix_cons.mp h
      rcases ih (fun hmem => hline (List.mem_cons_of_mem _ hmem)) hrest with hc | ⟨hc, rfl⟩
      · exact Or.inl (List.mem_cons_of_mem _ hc)
      · exact Or.inr ⟨hc, rfl⟩

end Text

namespace Function
open Text Data Data.Yaml

/-! ### The start of a document -/

theorem marker_not_start_cons {c : Char} (h : c ≠ '-') (rest : List Char) :
    ¬ documentMarker <+: c :: rest := fun hstart =>
  h (List.cons_prefix_cons.mp hstart).1.symm

theorem marker_not_start_line {line : List Char} (hline : '\n' ∉ line)
    (hdashes : line ≠ ['-', '-', '-']) {c : Char} (hc : c ≠ '-') (rest : List Char) :
    ¬ documentMarker <+: line ++ c :: rest := by
  have hmarker : documentMarker = ['-', '-', '-'] ++ ['\n'] := rfl
  rw [hmarker]
  intro hstart
  rcases of_line_isPrefix hline hstart with hmem | ⟨-, h⟩
  · exact hc (by simpa using hmem)
  · exact hdashes h

/-- A text is written behind a quote or a bar, or on one line that is not made of three dashes. -/
theorem marker_not_start_text {indent : Nat} {inKey : Bool} {s : String} {p : Piece}
    (hp : Written indent inKey s p) {more : List Char}
    (hmore : p.ended = false → ∃ c rest, more = c :: rest ∧ c ≠ '-') :
    ¬ documentMarker <+: p.text ++ more := by
  cases hp with
  | line hbare hline =>
    obtain ⟨c, rest, rfl, hc⟩ := hmore rfl
    exact marker_not_start_line hline (ne_dashes_of_isBare hbare) hc rest
  | block _ _ => exact marker_not_start_cons (by decide) _
  | quoted quote body hquote _ =>
    refine marker_not_start_cons ?_ _
    rcases hquote with rfl | rfl <;> decide

theorem marker_not_start_atom {indent : Nat} {t : Tree} {q : Piece} (h : atom? indent t = some q) :
    ¬ documentMarker <+: q.closed := by
  rcases atom?_eq_some h with ⟨cs, hword, rfl, -⟩ | ⟨s, -, hwritten⟩
  · exact marker_not_start_line hword.newline_not_mem hword.ne_dashes (by decide) []
  · exact marker_not_start_text hwritten fun hopen => ⟨'\n', [], by simp [hopen], by decide⟩

/-- Parts on lines of their own start with the first of them. -/
theorem foldl_onNextLine_text (indent : Nat) (ps : List Piece) (p : Piece) :
    ∃ tail, (ps.foldl (fun before next => before.onNextLine indent next) p).text =
      p.text ++ tail := by
  induction ps generalizing p with
  | nil => exact ⟨[], (List.append_nil _).symm⟩
  | cons q ps ih =>
    obtain ⟨tail, h⟩ := ih (p.onNextLine indent q)
    exact ⟨_, by rw [List.foldl_cons, h, Piece.onNextLine, List.append_assoc, List.append_assoc,
      List.append_assoc]⟩

theorem stack_closed (indent : Nat) (p : Piece) (ps : List Piece) :
    ∃ tail, (stack indent (p :: ps)).closed = p.text ++ tail := by
  obtain ⟨tail, h⟩ := foldl_onNextLine_text indent ps p
  exact ⟨_, by rw [Piece.closed, stack, h, List.append_assoc]⟩

/-- An entry starts with its key, and a colon or a question mark tells it from a marker. -/
theorem marker_not_start_entry (indent : Nat) (key : String) (value : Tree) (lines : Piece)
    (more : List Char) : ¬ documentMarker <+: (entryPiece indent key value lines).text ++ more := by
  have hkey (rest : List Char) :
      ¬ documentMarker <+: (textPiece (indent + 2) true key).text ++ ':' :: rest :=
    marker_not_start_text (textPiece_written (indent + 2) true key) fun _ =>
      ⟨':', rest, rfl, by decide⟩
  rw [entryPiece]
  split
  · cases atom? (indent + 2) value with
    | none => simpa [Piece.onNextLine] using hkey _
    | some p => simpa [Piece.behind] using hkey _
  · exact marker_not_start_cons (by decide) _

/-- **No document starts like a marker**, so none is ever taken from its start. -/
theorem marker_not_start_print (t : Tree) : ¬ documentMarker <+: print t := by
  cases hatom : atom? 2 t with
  | some q =>
    rw [print, hatom]
    exact marker_not_start_atom hatom
  | none =>
    rw [print, hatom, Option.getD_none]
    cases t with
    | list ts =>
      cases ts with
      | nil => cases hatom
      | cons u us =>
        obtain ⟨tail, h⟩ := stack_closed 0 _ (itemPieces 0 us)
        rw [piece, itemPieces, h]
        exact fun hstart => absurd hstart (by simp [documentMarker, Piece.behind])
    | map es =>
      cases es with
      | nil => cases hatom
      | cons e es =>
        obtain ⟨key, u⟩ := e
        obtain ⟨tail, h⟩ := stack_closed 0 _ (entryPieces 0 es)
        rw [piece, entryPieces, h]
        exact marker_not_start_entry 0 key u _ tail
    | null => cases hatom
    | bool b => cases hatom
    | int n => cases hatom
    | float x => cases hatom
    | text s => cases hatom

/-! ### What is left of a document -/

theorem toYaml_of_document {v : Value} {t : Tree} (h : document v = .ok t) :
    toYaml v = .ok (String.ofList (trimEnd isBlank (print t))) := by
  rw [toYaml, h]
  simp only [dropStarts_eq_self (marker_not_start_print t)]

/-- A value loses the newline at the end of its document and nothing else, unless what stands last
in it spills. -/
theorem toYaml_newline_iff {v : Value} {t : Tree} (h : document v = .ok t) :
    (∃ text, toYaml v = .ok text ∧ print t = text.toList ++ ['\n']) ↔ ¬ Spills t.last := by
  rw [← trimEnd_print_iff, toYaml_of_document h]
  constructor
  · rintro ⟨text, htext, hprint⟩
    cases htext
    rw [String.toList_ofList] at hprint
    exact hprint.symm
  · intro hprint
    exact ⟨_, rfl, by rw [String.toList_ofList, hprint]⟩

/-- **A value's text determines its document where nothing spills.** Among documents that are told
apart by how they are printed, each loses its last newline and no more exactly if what stands last
in it does not spill; two such documents have different texts unless they are the same. -/
theorem toYaml_determines_document {S : Set Tree} (hprint : S.InjOn print) {v w : Value}
    {t u : Tree} (hv : document v = .ok t) (hw : document w = .ok u) (ht : t ∈ S) (hu : u ∈ S) :
    (¬ Spills t.last ↔ ∃ text, toYaml v = .ok text ∧ print t = text.toList ++ ['\n']) ∧
      (¬ Spills t.last → ¬ Spills u.last → toYaml v = toYaml w → t = u) := by
  refine ⟨(toYaml_newline_iff hv).symm, fun htlast hulast heq => ?_⟩
  obtain ⟨text, htext, htprint⟩ := (toYaml_newline_iff hv).mpr htlast
  obtain ⟨other, hother, huprint⟩ := (toYaml_newline_iff hw).mpr hulast
  rw [htext, hother] at heq
  cases heq
  exact hprint ht hu (htprint.trans huprint.symm)

/-- A newline at the end of a last item is told from none. -/
theorem toYaml_determines_last_item :
    toYaml (.list [.text "a" false]) ≠ toYaml (.list [.text "a\n" false]) ∧
      ∃ text, toYaml (.list [.text "a\n" false]) = .ok text ∧
        print (.list [.text "a\n"]) = text.toList ++ ['\n'] := by
  have hprint : Set.InjOn print ({.list [.text "a"], .list [.text "a\n"]} : Set Tree) := by
    have hne : print (.list [.text "a"]) ≠ print (.list [.text "a\n"]) := by decide +kernel
    rintro t (rfl | rfl) u (rfl | rfl) h
    · rfl
    · exact absurd h hne
    · exact absurd h.symm hne
    · rfl
  have hbare : ¬ Spills (Tree.list [.text "a"]).last :=
    fun h => h.2.2 ⟨[], 'a', by decide +kernel, rfl⟩
  have hline : ¬ Spills (Tree.list [.text "a\n"]).last :=
    fun h => h.2.1 ⟨[], 'a', by decide +kernel, rfl⟩
  have hv : document (.list [.text "a\n" false]) = .ok (.list [.text "a\n"]) := rfl
  have hw : document (.list [.text "a" false]) = .ok (.list [.text "a"]) := rfl
  have hdetermines := toYaml_determines_document hprint hv hw (Or.inr rfl) (Or.inl rfl)
  refine ⟨fun heq => ?_, hdetermines.1.mp hline⟩
  have hsame := hdetermines.2 hline hbare heq.symm
  simp at hsame

/-- Two newlines at the end are not told from three, nor a blank at the end from none. -/
theorem toYaml_forgets_spilled :
    (document (.text "a\n\n" false) = .ok (.text "a\n\n") ∧
      document (.text "a\n\n\n" false) = .ok (.text "a\n\n\n") ∧
      print (.text "a\n\n") ≠ print (.text "a\n\n\n") ∧
      toYaml (.text "a\n\n" false) = .ok "|+\n  a" ∧
      toYaml (.text "a\n\n\n" false) = .ok "|+\n  a") ∧
    print (.list [.text "a\u00A0"]) ≠ print (.list [.text "a"]) ∧
      toYaml (.list [.text "a\u00A0" false]) = .ok "- a" ∧
      toYaml (.list [.text "a" false]) = .ok "- a" := by
  refine ⟨⟨rfl, rfl, by decide +kernel, ?_, ?_⟩, by decide +kernel, ?_, ?_⟩
  · rw [toYaml_of_document rfl]
    cbv
  · rw [toYaml_of_document rfl]
    cbv
  · rw [toYaml_of_document rfl]
    cbv
  · rw [toYaml_of_document rfl]
    cbv

end Function
end Stencil
