import Stencil.Proofs.Expansion.Walk

/-! Cutting an input.

Bytes are `Closed` when every reference in them is: behind each dollar and opening brace that no
dollar escapes there is a closing brace. Where closed bytes end in no dollar the input may be cut:
nothing is pending there, and expansion goes on as at the start (`walk_append`). -/
namespace Stencil.Expansion
open Text.Utf8 (Bytes)

/-- Behind each dollar and opening brace that are not escaped there is a closing brace. -/
def Closed (s : Bytes) : Prop :=
  ∀ before inner, s = before ++ dollar :: opening :: inner → before.getLast? ≠ some dollar →
    closing ∈ inner

/-- The same read off from left to right; `behind` says that a dollar stands before `s`. -/
def ClosedFrom (behind : Bool) : Bytes → Prop
  | [] => True
  | b :: rest =>
    (b = dollar ∧ rest.head? = some opening ∧ behind = false → closing ∈ rest) ∧
      ClosedFrom (b == dollar) rest

instance decidableClosedFrom : (behind : Bool) → (s : Bytes) → Decidable (ClosedFrom behind s)
  | _, [] => .isTrue trivial
  | _, b :: rest =>
    have := decidableClosedFrom (b == dollar) rest
    inferInstanceAs (Decidable (_ ∧ _))

/-- Whether a list ends in a dollar, with an answer for the empty one. -/
def endsInDollar (behind : Bool) (before : Bytes) : Bool :=
  (before.getLast?.map (· == dollar)).getD behind

theorem getLast?_ne_dollar {before : Bytes} :
    before.getLast? ≠ some dollar ↔ endsInDollar false before = false := by
  rw [endsInDollar]
  cases before.getLast? <;> simp

theorem endsInDollar_cons (behind : Bool) (b : UInt8) (before : Bytes) :
    endsInDollar behind (b :: before) = endsInDollar (b == dollar) before := by
  rw [endsInDollar, endsInDollar, List.getLast?_cons]
  cases before.getLast? <;> rfl

theorem endsInDollar_append (behind : Bool) (a : Bytes) (x : UInt8) (b : Bytes) :
    endsInDollar behind (a ++ x :: b) = endsInDollar (x == dollar) b := by
  induction a generalizing behind with
  | nil => exact endsInDollar_cons behind x b
  | cons y a ih => rw [List.cons_append, endsInDollar_cons, ih]

theorem closedFrom_iff (behind : Bool) (s : Bytes) :
    ClosedFrom behind s ↔
      ∀ before inner, s = before ++ dollar :: opening :: inner →
        endsInDollar behind before = false → closing ∈ inner := by
  induction s generalizing behind with
  | nil => exact ⟨fun _ before inner h => by simp at h, fun _ => trivial⟩
  | cons b rest ih =>
    rw [ClosedFrom, ih]
    constructor
    · rintro ⟨hfirst, hmore⟩ before inner hs hbefore
      cases before with
      | nil =>
        obtain ⟨rfl, rfl⟩ := List.cons.inj hs
        have := hfirst ⟨rfl, rfl, hbefore⟩
        simpa [closing, opening] using this
      | cons x before =>
        obtain ⟨rfl, rfl⟩ := List.cons.inj hs
        rw [endsInDollar_cons] at hbefore
        exact hmore before inner rfl hbefore
    · intro h
      refine ⟨?_, fun before inner hs hbefore => ?_⟩
      · rintro ⟨rfl, hopen, hbehind⟩
        obtain ⟨inner, rfl⟩ := List.head?_eq_some_iff.mp hopen
        exact List.mem_cons_of_mem _ (h [] inner rfl hbehind)
      · refine h (b :: before) inner (by rw [hs, List.cons_append]) ?_
        rwa [endsInDollar_cons]

theorem closed_iff (s : Bytes) : Closed s ↔ ClosedFrom false s := by
  rw [closedFrom_iff]
  simp only [Closed, getLast?_ne_dollar]

instance (s : Bytes) : Decidable (Closed s) := decidable_of_iff _ (closed_iff s).symm

theorem ClosedFrom.drop {behind : Bool} {a b : Bytes} {x : UInt8}
    (h : ClosedFrom behind (a ++ x :: b)) : ClosedFrom (x == dollar) b := by
  induction a generalizing behind with
  | nil => exact h.2
  | cons y a ih => exact ih h.2

variable {σ : Type} (lookup : Lookup σ)

/-- **Behind closed bytes that end in no dollar the scanner starts anew.** -/
theorem walk_append {behind : Bool} {a : Bytes} (b : Bytes) (hclosed : ClosedFrom behind a)
    (hend : endsInDollar behind a = false) :
    walk lookup behind (a ++ b) =
      walk lookup behind a >>= fun x => (x ++ ·) <$> walk lookup false b := by
  fun_induction walk lookup behind a with
  | case1 behind =>
    rw [show behind = false from hend]
    simp
  | case2 behind x =>
    have hx : (x == dollar) = false := hend
    have hcopy : x = dollar → b.head? ≠ some opening := fun h => by simp [h] at hx
    rw [List.singleton_append, walk_copy lookup behind hcopy, hx]
    simp
  | case3 x c rest hxc ih =>
    obtain ⟨rfl, rfl⟩ := hxc
    rw [endsInDollar_cons, endsInDollar_cons] at hend
    rw [List.cons_append, List.cons_append, walk_escape, ih hclosed.2.2 hend]
    simp
  | case4 behind x c rest hxc hbehind ih =>
    obtain ⟨rfl, rfl⟩ := hxc
    obtain rfl : behind = false := by simpa using hbehind
    have hmem : closing ∈ rest := by
      simpa [closing, opening] using hclosed.1 ⟨rfl, rfl, rfl⟩
    -- The first closing brace is in the first part, so the reference ends there as well.
    obtain ⟨name, after, rfl, hname⟩ := List.eq_append_cons_of_mem hmem
    have hafter : ClosedFrom false after := ClosedFrom.drop hclosed.2.2
    have hendAfter : endsInDollar false after = false := by
      rwa [endsInDollar_cons, endsInDollar_cons, endsInDollar_append] at hend
    rw [List.cons_append, List.cons_append, walk_reference, List.append_assoc, List.cons_append,
      reference_closed hname]
    rw [reference_closed hname] at ih
    rw [ih hafter hendAfter]
    simp [reference_closed hname]
  | case5 behind x c rest hxc ih =>
    have hcopy : x = dollar → (c :: rest ++ b).head? ≠ some opening := by
      intro hx hc
      exact hxc ⟨hx, by simpa using hc⟩
    rw [endsInDollar_cons] at hend
    rw [List.cons_append, walk_copy lookup behind hcopy, ih hclosed.2 hend]
    simp

end Stencil.Expansion
