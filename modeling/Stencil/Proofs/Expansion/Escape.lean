import Mathlib
import Stencil.Proofs.Expansion.Cut
import Stencil.Proofs.Watch

/-! Text that expands to itself.

Whoever wants a text to come through as it is writes a dollar more before each dollar and opening
brace in it. `expandBytes_escape` says that expansion takes exactly these dollars away again and
asks for nothing, whatever the text is; and if it ends in no dollar, it does the same in front of
any other input.

An escaped text may stand anywhere: `walk_escape_append` lets any byte stand before it, and needs
nothing of what follows but that a dollar at its end opens nothing there. -/
namespace Stencil.Expansion
open Text.Utf8 (Bytes)

/-- Puts a dollar before each dollar that an opening brace follows. -/
def escape : Bytes → Bytes
  | [] => []
  | b :: rest =>
    if b = dollar ∧ rest.head? = some opening then dollar :: dollar :: escape rest
    else b :: escape rest

theorem escape_opening {rest : Bytes} (h : rest.head? = some opening) :
    escape (dollar :: rest) = dollar :: dollar :: escape rest := by
  rw [escape, if_pos ⟨rfl, h⟩]

theorem escape_copy {b : UInt8} {rest : Bytes} (h : b = dollar → rest.head? ≠ some opening) :
    escape (b :: rest) = b :: escape rest := by
  rw [escape, if_neg fun ⟨hb, hr⟩ => h hb hr]

/-- The dollar that is put in front looks like the one that was there. -/
theorem head?_escape_append (t u : Bytes) : (escape t ++ u).head? = (t ++ u).head? := by
  fun_cases escape t with
  | case1 => rfl
  | case2 b rest h => rw [h.1]; rfl
  | case3 => rfl

variable {σ : Type} (lookup : Lookup σ)

/-- Of two dollars before an opening brace the second is lost, and the brace opens nothing. -/
theorem walk_two_dollars (behind : Bool) {rest : Bytes} (h : rest.head? = some opening) :
    walk lookup behind (dollar :: dollar :: rest) = (dollar :: ·) <$> walk lookup false rest := by
  obtain ⟨inner, rfl⟩ := List.head?_eq_some_iff.mp h
  have hdollar : dollar = dollar → (dollar :: opening :: inner).head? ≠ some opening := nofun
  have hbrace : opening = dollar → inner.head? ≠ some opening := nofun
  rw [walk_copy lookup behind hdollar, beq_self_eq_true, walk_escape, walk_copy lookup false hbrace]
  rfl

/-- **An escaped text is copied without its escapes**, whatever stands before it. -/
theorem walk_escape_append (behind : Bool) {t u : Bytes}
    (h : t.getLast? = some dollar → u.head? ≠ some opening) :
    walk lookup behind (escape t ++ u) =
      (t ++ ·) <$> walk lookup (endsInDollar behind t) u := by
  induction t generalizing behind with
  | nil => simp [escape, endsInDollar]
  | cons b rest ih =>
    have hrest : rest.getLast? = some dollar → u.head? ≠ some opening := by
      intro hlast
      apply h
      rw [List.getLast?_cons, hlast]
      rfl
    by_cases hopen : b = dollar ∧ rest.head? = some opening
    · obtain ⟨rfl, hr⟩ := hopen
      have hhead : (escape rest ++ u).head? = some opening := by
        rw [head?_escape_append, List.head?_append, hr]
        rfl
      -- The text goes on with a brace, so it makes no difference what stood before that.
      have hends : endsInDollar false rest = endsInDollar behind (dollar :: rest) := by
        obtain ⟨inner, rfl⟩ := List.head?_eq_some_iff.mp hr
        rw [endsInDollar_cons, endsInDollar_cons, endsInDollar_cons]
      rw [escape_opening hr, List.cons_append, List.cons_append,
        walk_two_dollars lookup behind hhead, ih false hrest, hends]
      simp
    · have hcopy : b = dollar → rest.head? ≠ some opening := fun hb hr => hopen ⟨hb, hr⟩
      -- At the end of the text the brace would have to come from what follows.
      have hcopyAppend : b = dollar → (escape rest ++ u).head? ≠ some opening := by
        intro hb
        rw [head?_escape_append]
        cases rest with
        | nil => exact h (by rw [hb]; rfl)
        | cons c rest => exact hcopy hb
      rw [escape_copy hcopy, List.cons_append, walk_copy lookup behind hcopyAppend,
        ih (b == dollar) hrest, endsInDollar_cons]
      simp

/-- **Expansion takes the escapes away and nothing else**: an escaped text becomes what it was,
and no name is asked for. In front of other input it does the same if it ends in no dollar; that
input is expanded as it is alone, and the names are those it asks for. -/
theorem expandBytes_escape (t : Bytes) (st : σ) :
    (Expanded.bytes <$> expandBytes lookup (escape t)) st = (t, st) ∧
      asked lookup (escape t) st = [] ∧
      ∀ u, t.getLast? ≠ some dollar →
        Expanded.bytes <$> expandBytes lookup (escape t ++ u) =
            (t ++ ·) <$> Expanded.bytes <$> expandBytes lookup u ∧
          asked lookup (escape t ++ u) st = asked lookup u st := by
  have happend {τ : Type} (l : Lookup τ) (u : Bytes) (h : t.getLast? ≠ some dollar) :
      Expanded.bytes <$> expandBytes l (escape t ++ u) =
        (t ++ ·) <$> Expanded.bytes <$> expandBytes l u := by
    rw [bytes_expandBytes, bytes_expandBytes, walk_escape_append l false (absurd · h),
      getLast?_ne_dollar.mp h]
  have halone {τ : Type} (l : Lookup τ) :
      Expanded.bytes <$> expandBytes l (escape t) = pure t := by
    have hwalk := walk_escape_append l false (t := t) (u := []) nofun
    rw [List.append_nil] at hwalk
    rw [bytes_expandBytes, hwalk]
    simp
  refine ⟨congrFun (halone lookup) st, ?_, fun u h => ⟨happend lookup u h, ?_⟩⟩
  · have := congrFun (halone lookup.noted) (st, [])
    exact congrArg (·.2.2) this
  · have := congrFun (happend lookup.noted u h) (st, [])
    exact congrArg (·.2.2) this

/-- A byte that is no text, a run of dollars before a brace and a reference without a name, all
escaped, in front of a reference. -/
theorem expandBytes_escape_reference :
    let t : Bytes := [0xE9, 0x24, 0x24, 0x7B, 0x24, 0x7B, 0x7D]
    let u : Bytes := [0x24, 0x7B, 0x42, 0x7D]
    let lookup := Lookup.pure fun name => name ++ "$"
    t.getLast? ≠ some dollar ∧
      (Expanded.bytes <$> expandBytes lookup (escape t ++ u)) () = (t ++ [0x42, 0x24], ()) ∧
      asked lookup (escape t ++ u) () = ["B"] := by
  intro t u lookup
  have hlast : t.getLast? ≠ some dollar := by decide
  obtain ⟨-, -, hseam⟩ := expandBytes_escape lookup t ()
  obtain ⟨hout, hasked⟩ := hseam u hlast
  exact ⟨hlast, (congrFun hout ()).trans (by cbv), hasked.trans (by cbv)⟩

end Stencil.Expansion
