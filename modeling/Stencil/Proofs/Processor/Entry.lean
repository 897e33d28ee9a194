import Stencil.Proofs.Expansion.Text
import Stencil.Proofs.Watch

/-! The two ways into a pass.

A pass takes a text or bytes. With the template stage on, bytes are read as a text and
the two ways meet; with it off, bytes are expanded as they are, while a text is expanded and the
outcome is checked. `bytes_as_text` says that the two agree on every text, down to what the
renderer is shown. `shown` says what that is, for any bytes. -/
namespace Stencil.Processor
open Text.Utf8 Expansion

variable {σ : Type} (p : Processor σ)

/-- Without the template stage bytes are only expanded, and nothing fails. -/
theorem substituteBytes_plain (h : p.mode.template = false) (bs : Bytes) :
    p.substituteBytes bs = ExceptT.lift (Expanded.bytes <$> expandBytes p.lookup bs) := by
  simp only [substituteBytes, h, Bool.false_eq_true, if_false]
  rfl

/-- With it they have to be a text. -/
theorem substituteBytes_rendered (h : p.mode.template = true) (bs : Bytes) :
    p.substituteBytes bs =
      match decodeText bs with
      | .error flaw => throw (.utf8 flaw)
      | .ok s => encodeText <$> p.substitute s := by
  unfold substituteBytes
  rw [if_pos h]
  cases decodeText bs with
  | error flaw => rfl
  | ok s => exact (map_eq_pure_bind encodeText (p.substitute s)).symm

theorem substitute_plain (h : p.mode.template = false) (s : String) :
    p.substitute s = ExceptT.lift (ExpandedText.text <$> expand p.lookup s) := by
  have hexpand : p.mode.expand = true := by
    have := p.mode.some_on
    rwa [h, Bool.or_false] at this
  simp only [substitute, h, hexpand, if_true, Bool.false_eq_true, if_false]
  rfl

theorem substituteBytes_encodeText (s : String) :
    p.substituteBytes (encodeText s) = encodeText <$> p.substitute s := by
  cases h : p.mode.template with
  | true => rw [substituteBytes_rendered p h, decodeText_encodeText]
  | false =>
    rw [substituteBytes_plain p h, substitute_plain p h, ← encodeText_expand]
    rfl

/-- What becomes of a result leaves the state alone. -/
theorem run_map {α β : Type} (f : α → β) (m : Pass σ α) (st : σ) :
    (f <$> m).run st = ((m.run st).1.map f, (m.run st).2) := by
  rw [ExceptT.run_map]
  rfl

/-! ### What a renderer is shown -/

/-- The template that a text is, once the names in it stand for variables of a snapshot. -/
def template (snapshot : Snapshot) (mode : Mode) (s : String) : String :=
  if mode.expand then (expand (Lookup.pure snapshot.getenv) s ()).1.text else s

/-- What a renderer is shown of some bytes: one template if they are a text and the stage is on. -/
def shown (snapshot : Snapshot) (mode : Mode) (debug : Bool) (bs : Bytes) : List (String × Bool) :=
  if mode.template then
    match decodeText bs with
    | .ok s => [(template snapshot mode s, debug)]
    | .error _ => []
  else []

variable (snapshot : Snapshot) (render : Renderer σ) (mode : Mode) (debug : Bool)

theorem expand_stateless (f : String → String) (s : String) (st : σ) :
    expand (fun name => pure (f name)) s st = ((expand (Lookup.pure f) s ()).1, st) := by
  simp only [expand, bind, StateT.bind, expandBytes_stateless f (encodeText s) st]
  rfl

theorem substitute_ofSnapshot (s : String) :
    (ofSnapshot snapshot render mode debug).substitute s =
      if mode.template then ExceptT.mk (render (template snapshot mode s) debug)
      else pure (template snapshot mode s) := by
  have hexpand : (expand (fun name => pure (snapshot.getenv name)) s : StateM σ _) =
      pure (expand (Lookup.pure snapshot.getenv) s ()).1 :=
    funext fun st => expand_stateless snapshot.getenv s st
  cases he : mode.expand <;> cases ht : mode.template <;>
    simp [substitute, ofSnapshot, template, he, ht, hexpand]

/-- **A renderer that takes notes is shown** what `shown` says, and does otherwise what it
does without them. -/
theorem substituteBytes_noted (bs : Bytes) (st : σ) (seen : List (String × Bool)) :
    ((ofSnapshot snapshot render.noted mode debug).substituteBytes bs).run (st, seen) =
      let r := ((ofSnapshot snapshot render mode debug).substituteBytes bs).run st
      (r.1, (r.2, seen ++ shown snapshot mode debug bs)) := by
  cases ht : mode.template with
  | false =>
    have hn := substituteBytes_plain (ofSnapshot snapshot render.noted mode debug) ht bs
    have hp := substituteBytes_plain (ofSnapshot snapshot render mode debug) ht bs
    have hnote : expandBytes (ofSnapshot snapshot render.noted mode debug).lookup bs (st, seen) =
        ((expandBytes (Lookup.pure snapshot.getenv) bs ()).1, (st, seen)) :=
      expandBytes_stateless snapshot.getenv bs (st, seen)
    have hplain : expandBytes (ofSnapshot snapshot render mode debug).lookup bs st =
        ((expandBytes (Lookup.pure snapshot.getenv) bs ()).1, st) :=
      expandBytes_stateless snapshot.getenv bs st
    rw [hn, hp]
    simp only [shown, ht, Bool.false_eq_true, if_false, List.append_nil]
    show (Except.ok (expandBytes _ bs (st, seen)).1.bytes, (expandBytes _ bs (st, seen)).2) =
      (Except.ok (expandBytes _ bs st).1.bytes, ((expandBytes _ bs st).2, seen))
    rw [hnote, hplain]
  | true =>
    have hn := substituteBytes_rendered (ofSnapshot snapshot render.noted mode debug) ht bs
    have hp := substituteBytes_rendered (ofSnapshot snapshot render mode debug) ht bs
    rw [hn, hp]
    cases hd : decodeText bs with
    | error flaw =>
      simp only [shown, ht, hd, if_true, List.append_nil]
      rfl
    | ok s =>
      simp only [shown, ht, hd, run_map, substitute_ofSnapshot]
      rfl

/-- **Bytes of a text are treated as the text**: the outcome is that of the text, in bytes, or the
same error; the state is the same; and the renderer is shown the same template and flag, or
nothing, in both. -/
theorem bytes_as_text (s : String) (st : σ) :
    let plain := ofSnapshot snapshot render mode debug
    let noted := ofSnapshot snapshot render.noted mode debug
    (plain.substituteBytes (encodeText s)).run st =
        (((plain.substitute s).run st).1.map encodeText, ((plain.substitute s).run st).2) ∧
      ((noted.substituteBytes (encodeText s)).run (st, [])).2 =
        ((noted.substitute s).run (st, [])).2 ∧
      ((noted.substitute s).run (st, [])).2.2 =
        if mode.template then [(template snapshot mode s, debug)] else [] := by
  intro plain noted
  have hplain : (plain.substituteBytes (encodeText s)).run st =
      (((plain.substitute s).run st).1.map encodeText, ((plain.substitute s).run st).2) := by
    rw [substituteBytes_encodeText, run_map]
  have hnoted : ((noted.substituteBytes (encodeText s)).run (st, [])).2 =
      ((noted.substitute s).run (st, [])).2 := by
    rw [substituteBytes_encodeText, run_map]
  refine ⟨hplain, hnoted, ?_⟩
  rw [← hnoted, substituteBytes_noted snapshot render mode debug (encodeText s) st []]
  simp [shown]

end Stencil.Processor
