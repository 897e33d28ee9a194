import Mathlib.Data.List.Forall2

/-! Steps that may fail.

A computation in two steps goes well if both do, and fails with the failure of the first step
that fails. Two computations are `Alike` if both go well or both fail, for whatever reason; that is
carried from step to step (`Alike.bind`). -/
namespace Stencil
variable {ε α β : Type} {x : Except ε α} {f : α → Except ε β}

/-- The two steps of a computation that went well. -/
theorem of_bind_eq_ok {b : β} (h : x >>= f = .ok b) : ∃ a, x = .ok a ∧ f a = .ok b := by
  cases x with
  | error e => cases h
  | ok a => exact ⟨a, rfl, h⟩

/-- The step in which a computation failed. -/
theorem of_bind_eq_error {e : ε} (h : x >>= f = .error e) :
    x = .error e ∨ ∃ a, x = .ok a ∧ f a = .error e := by
  cases x with
  | error e' =>
    cases h
    exact .inl rfl
  | ok a => exact .inr ⟨a, rfl, h⟩

/-- What is made of a result comes from one. -/
theorem of_map_eq_ok {g : α → β} {b : β} (h : x.map g = .ok b) : ∃ a, x = .ok a ∧ g a = b := by
  cases x with
  | error e => cases h
  | ok a => exact ⟨a, rfl, Except.ok.inj h⟩

/-- What is made of a result does not fail by itself. -/
theorem of_map_eq_error {g : α → β} {e : ε} (h : x.map g = .error e) : x = .error e := by
  cases x with
  | error e' =>
    cases h
    rfl
  | ok a => cases h

/-- Both computations fail, or both go well and their results are related. -/
inductive Alike {α' : Type} (R : α → α' → Prop) : Except ε α → Except ε α' → Prop
  | ok {a : α} {a' : α'} (related : R a a') : Alike R (.ok a) (.ok a')
  | error (e e' : ε) : Alike R (.error e) (.error e')

namespace Alike
variable {α' α'' β' : Type} {R : α → α' → Prop} {x' : Except ε α'}

theorem refl {Q : α → α → Prop} (h : ∀ a, Q a a) (x : Except ε α) : Alike Q x x := by
  cases x with
  | ok a => exact ok (h a)
  | error e => exact error e e

/-- What is done with results that are related may use that the first computation went well. -/
theorem bind {S : β → β' → Prop} {f' : α' → Except ε β'} (h : Alike R x x')
    (hstep : ∀ a a', x = .ok a → R a a' → Alike S (f a) (f' a')) :
    Alike S (x >>= f) (x' >>= f') := by
  cases h with
  | ok related => exact hstep _ _ rfl related
  | error e e' => exact error e e'

theorem trans {S : α' → α'' → Prop} {T : α → α'' → Prop} {x'' : Except ε α''}
    (h : Alike R x x') (h' : Alike S x' x'')
    (hRS : ∀ a a' a'', x = .ok a → R a a' → S a' a'' → T a a'') : Alike T x x'' := by
  cases h with
  | ok related =>
    cases h' with
    | ok related' => exact ok (hRS _ _ _ rfl related related')
  | error e e' =>
    cases h' with
    | error e' e'' => exact error e e''

theorem map {S : β → β' → Prop} {g : α → β} {g' : α' → β'} (h : Alike R x x')
    (hresult : ∀ a a', R a a' → S (g a) (g' a')) : Alike S (x.map g) (x'.map g') := by
  cases h with
  | ok related => exact ok (hresult _ _ related)
  | error e e' => exact error e e'

theorem fails_iff (h : Alike R x x') : (∃ e, x = .error e) ↔ ∃ e, x' = .error e := by
  cases h with
  | ok related => simp
  | error e e' => simp

end Alike

theorem Alike.eq_ok_iff {Q : α → α → Prop} {x y : Except ε α} (h : Alike Q x y)
    (heq : ∀ a b, Q a b → a = b) (a : α) : x = .ok a ↔ y = .ok a := by
  cases h with
  | ok related => rw [heq _ _ related]
  | error e e' => simp

/-- A step for each item goes well if it does for each of them. -/
theorem mapM_eq_ok_iff {as : List α} {bs : List β} :
    as.mapM f = .ok bs ↔ List.Forall₂ (fun a b => f a = .ok b) as bs := by
  induction as generalizing bs with
  | nil =>
    rw [List.mapM_nil, List.forall₂_nil_left_iff]
    exact ⟨fun h => (Except.ok.inj h).symm, fun h => h ▸ rfl⟩
  | cons a as ih =>
    rw [List.mapM_cons, List.forall₂_cons_left_iff]
    constructor
    · intro h
      obtain ⟨b, hb, h⟩ := of_bind_eq_ok h
      obtain ⟨bs', hbs, h⟩ := of_bind_eq_ok h
      cases h
      exact ⟨b, bs', hb, ih.mp hbs, rfl⟩
    · rintro ⟨b, bs', hb, hbs, rfl⟩
      rw [hb, ih.mpr hbs]
      rfl

/-- A step for each item goes well in any order of the items if it does in one. -/
theorem mapM_perm (f : α → Except ε β) {as as' : List α} (h : as.Perm as') :
    Alike List.Perm (as.mapM f) (as'.mapM f) := by
  induction h with
  | nil => exact .ok .nil
  | cons a h ih =>
    rw [List.mapM_cons, List.mapM_cons]
    refine (Alike.refl (fun _ => rfl) (f a)).bind fun b b' _ hb => ?_
    exact ih.bind fun bs bs' _ hbs => .ok (hb ▸ hbs.cons b)
  | swap a a' as =>
    -- Whichever of the two fails first, the other order fails with either.
    simp only [List.mapM_cons]
    cases f a with
    | error e =>
      cases f a' with
      | error e' => exact .error e' e
      | ok b' => exact .error e e
    | ok b =>
      cases f a' with
      | error e' => exact .error e' e'
      | ok b' =>
        cases as.mapM f with
        | error e => exact .error e e
        | ok bs => exact .ok (.swap b b' bs)
  | trans h h' ih ih' => exact ih.trans ih' fun bs bs' bs'' _ hbs hbs' => hbs.trans hbs'

end Stencil
