import Stencil.Processor

/-! Computations that are watched.

To see what a pass asks for and what it shows, its lookup and its renderer are given a
place for notes beside their state. `Watches` says that the notes change nothing: forgetting them
gives back the computation that takes none. -/
namespace Stencil
open Text.Utf8 (Bytes)

variable {σ τ α β : Type}

/-- The first computation does what the second does, next to notes of its own. -/
def Watches (watched : StateM (σ × τ) α) (m : StateM σ α) : Prop :=
  ∀ st, (watched st).1 = (m st.1).1 ∧ (watched st).2.1 = (m st.1).2

namespace Watches

theorem pure (a : α) : Watches (Pure.pure a : StateM (σ × τ) α) (Pure.pure a) :=
  fun _ => ⟨rfl, rfl⟩

theorem bind {watched : StateM (σ × τ) α} {m : StateM σ α} {f : α → StateM (σ × τ) β}
    {g : α → StateM σ β} (h : Watches watched m) (hf : ∀ a, Watches (f a) (g a)) :
    Watches (watched >>= f) (m >>= g) := by
  intro st
  obtain ⟨hvalue, hstate⟩ := h st
  obtain ⟨hvalue', hstate'⟩ := hf (watched st).1 (watched st).2
  refine ⟨hvalue'.trans ?_, hstate'.trans ?_⟩ <;> rw [hvalue, hstate] <;> rfl

theorem map {watched : StateM (σ × τ) α} {m : StateM σ α} (f : α → β) (h : Watches watched m) :
    Watches (f <$> watched) (f <$> m) :=
  fun st => ⟨congrArg f (h st).1, (h st).2⟩

end Watches

/-- A lookup that also lists the names it is asked for. -/
def Expansion.Lookup.noted (lookup : Expansion.Lookup σ) : Expansion.Lookup (σ × List String) :=
  fun name st =>
    let r := lookup name st.1
    (r.1, (r.2, st.2 ++ [name]))

/-- A renderer that also lists the templates and flags it is shown. -/
def Renderer.noted (render : Renderer σ) : Renderer (σ × List (String × Bool)) :=
  fun template debug st =>
    let r := render template debug st.1
    (r.1, (r.2, st.2 ++ [(template, debug)]))

/-- The names that are asked for while bytes are expanded, in order. -/
def Expansion.asked (lookup : Expansion.Lookup σ) (s : Bytes) (st : σ) : List String :=
  (Expansion.expandBytes lookup.noted s (st, [])).2.2

theorem Expansion.Lookup.noted_watches (lookup : Expansion.Lookup σ) (name : String) :
    Watches (lookup.noted name) (lookup name) :=
  fun _ => ⟨rfl, rfl⟩

theorem Renderer.noted_watches (render : Renderer σ) (template : String) (debug : Bool) :
    Watches (render.noted template debug) (render template debug) :=
  fun _ => ⟨rfl, rfl⟩

end Stencil
