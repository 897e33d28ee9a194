import Mathlib
import Stencil.Function.Choice

/-! Emptiness and truth.

`requiredVals` and `coalesce` go by the shape of a value, `ternary` by its truth. For values of a
kind that has a shape the two are one: `Vacant` says for each constructor what it is to be without
content, and both sides come to it (`isEmpty_iff`, `isTrue_eq_false_iff`). Values of the other
kinds are never empty, whether they are true or not. -/
namespace Stencil

/-- The kinds of values whose shape says if they have content. -/
def Kind.shaped : List Kind :=
  [.undefined, .none, .bool, .number, .string, .bytes, .sequence, .map]

namespace Value

/-- A value without content: one that is missing, false or zero, or that holds nothing. Zeros of
either sign are zero; what is no number is not. -/
def Vacant : Value → Prop
  | .undefined | .none => True
  | .bool b => b = false
  | .int n => n = 0
  | .float x => (x == 0.0) = true
  | .text s _ => s = ""
  | .bytes bs => bs = []
  | .list vs => vs = []
  | .map es | .workspace _ es => es = []
  | _ => False

theorem isEmpty_iff (v : Value) : v.isEmpty = true ↔ v.Vacant := by
  cases v with
  | undefined | none => exact ⟨fun _ => trivial, fun _ => rfl⟩
  | bool b => simp [isEmpty, Shape.of, Shape.isEmpty, kind, isTrue, Vacant]
  | int n => simp [isEmpty, Shape.of, Shape.isEmpty, kind, isTrue, Vacant]
  | float x => simp [isEmpty, Shape.of, Shape.isEmpty, kind, isTrue, Vacant, bne]
  | text s safe => simp [isEmpty, Shape.of, Shape.isEmpty, kind, length?, Vacant]
  | bytes bs => simp [isEmpty, Shape.of, Shape.isEmpty, kind, length?, Vacant]
  | list vs => simp [isEmpty, Shape.of, Shape.isEmpty, kind, length?, items?, Vacant]
  | map es | workspace id es =>
    simp [isEmpty, Shape.of, Shape.isEmpty, kind, length?, items?, entries?, Vacant]
  | group | definition | iteration | lazy | plain | invalid | function => exact ⟨nofun, nofun⟩

theorem isTrue_eq_false_iff {v : Value} (h : v.kind ∈ Kind.shaped) :
    v.isTrue = false ↔ v.Vacant := by
  cases v with
  | undefined | none => exact ⟨fun _ => trivial, fun _ => rfl⟩
  | bool b => rfl
  | int n => simp [isTrue, Vacant]
  | float x => simp [isTrue, Vacant, bne]
  | text s safe => simp [isTrue, length?, Vacant]
  | bytes bs => simp [isTrue, length?, Vacant]
  | list vs => simp [isTrue, length?, items?, Vacant]
  | map es | workspace id es => simp [isTrue, length?, items?, entries?, Vacant]
  | group | definition | iteration => exact ⟨nofun, nofun⟩
  | lazy | plain | invalid | function => simp [kind, Kind.shaped] at h

/-- For values of a kind that has a shape, emptiness is untruth. -/
theorem isTrue_eq_false_iff_isEmpty {v : Value} (h : v.kind ∈ Kind.shaped) :
    v.isTrue = false ↔ v.isEmpty = true :=
  (isTrue_eq_false_iff h).trans (isEmpty_iff v).symm

/-- Texts, bytes, sequences and maps know their length, so no shape has to make one up. -/
theorem isSome_length? {v : Value} (h : v.kind ∈ [.string, .bytes, .sequence, .map]) :
    v.length?.isSome = true := by
  cases v with
  | text | bytes | list | map | group | definition | iteration | workspace => rfl
  | undefined | none | bool | int | float | lazy | plain | invalid | function =>
    simp [kind] at h

/-- Without a shape there is no emptiness. -/
theorem isEmpty_eq_false_of_not_shaped {v : Value} (h : v.kind ∉ Kind.shaped) :
    v.isEmpty = false := by
  have hopaque : Shape.of v = .opaqueObject := by
    rw [Shape.of]
    cases hk : v.kind <;> simp [hk, Kind.shaped] at h ⊢
  rw [isEmpty, hopaque]
  rfl

end Value

namespace Function

/-! ### The first value of a sort -/

/-- A value is the first in a list of which something holds. -/
def First (p : Value → Prop) (vs : List Value) (v : Value) : Prop :=
  ∃ before after, vs = before ++ v :: after ∧ p v ∧ ∀ u ∈ before, ¬ p u

theorem find?_eq_some_iff_first {p : Value → Bool} {vs : List Value} {v : Value} :
    vs.find? p = some v ↔ First (p · = true) vs v := by
  rw [List.find?_eq_some_iff_append]
  constructor
  · rintro ⟨hv, before, after, hvs, hbefore⟩
    exact ⟨before, after, hvs, hv, fun u hu => by simpa using hbefore u hu⟩
  · rintro ⟨before, after, hvs, hv, hbefore⟩
    exact ⟨hv, before, after, hvs, fun u hu => by simpa using hbefore u hu⟩

/-- What is the first depends on the values in the list alone. -/
theorem First.congr {p q : Value → Prop} {vs : List Value} {v : Value}
    (h : ∀ u ∈ vs, p u ↔ q u) : First p vs v ↔ First q vs v := by
  refine exists_congr fun before => exists_congr fun after => and_congr_right fun hvs => ?_
  have hv : p v ↔ q v := h v (by simp [hvs])
  have hbefore : ∀ u ∈ before, (¬ p u ↔ ¬ q u) := fun u hu => not_congr (h u (by simp [hvs, hu]))
  exact and_congr hv (forall₂_congr hbefore)

theorem requiredVals_eq_ok_iff {vs : List Value} :
    requiredVals vs = .ok "" ↔ ∀ v ∈ vs, v.isEmpty = false := by
  rw [requiredVals]
  cases hfind : vs.find? Value.isEmpty with
  | none => simpa using List.find?_eq_none.mp hfind
  | some v =>
    have hv := List.find?_some hfind
    have hmem := List.mem_of_find?_eq_some hfind
    refine ⟨nofun, fun h => ?_⟩
    rw [h v hmem] at hv
    cases hv

theorem requiredVals_eq_error_iff {vs : List Value} {p : Problem} :
    requiredVals vs = .error p ↔
      ∃ v, First (·.isEmpty = true) vs v ∧ p = .emptyValue v.display := by
  simp only [← find?_eq_some_iff_first]
  rw [requiredVals]
  cases vs.find? Value.isEmpty with
  | none => simp
  | some v => simp [eq_comm]

theorem coalesce_of_first {vs : List Value} {v : Value} (h : First (·.isEmpty = false) vs v) :
    coalesce vs = v := by
  have hfind : vs.find? (fun u => !u.isEmpty) = some v := by
    rw [find?_eq_some_iff_first]
    simpa using h
  rw [coalesce, hfind, Option.getD_some]

theorem coalesce_of_forall_empty {vs : List Value} (h : ∀ v ∈ vs, v.isEmpty = true) :
    coalesce vs = .undefined := by
  have hfind : vs.find? (fun u => !u.isEmpty) = none := by
    rw [List.find?_eq_none]
    simpa using h
  rw [coalesce, hfind, Option.getD_none]

/-- Values may be chosen from in two goes: if the first finds none, undefined takes no place. -/
theorem coalesce_append (xs ys : List Value) :
    coalesce (xs ++ ys) = coalesce (coalesce xs :: ys) := by
  have hundefined : (!Value.undefined.isEmpty) = false := rfl
  rw [coalesce, coalesce, coalesce, List.find?_append]
  cases hfind : xs.find? fun v => !v.isEmpty with
  | none => simp [hundefined]
  | some v =>
    have hv := List.find?_some hfind
    simp [hv]

/-- A value that is not empty is nothing that `requiredVals` stops at. -/
theorem requiredVals_append_cons {v : Value} (h : v.isEmpty = false) (xs ys : List Value) :
    requiredVals (xs ++ v :: ys) = requiredVals (xs ++ ys) := by
  simp [requiredVals, List.find?_append, h]

/-! ### By truth -/

theorem ternary_eq_yes_iff {yes no : Value} (hne : yes ≠ no) (v : Value) :
    ternary yes no v = yes ↔ v.isTrue = true := by
  cases hv : v.isTrue <;> simp [ternary, hv, hne.symm]

theorem ternary_eq_no_iff {yes no : Value} (hne : yes ≠ no) (v : Value) :
    ternary yes no v = no ↔ v.isTrue = false := by
  cases hv : v.isTrue <;> simp [ternary, hv, hne]

/-- **Emptiness is untruth.** Among values of kinds that have a shape, `ternary` takes its second
value just for those without content; `requiredVals` succeeds if there are none of these, and else
names the first of them; and `coalesce` gives the first of all others, or undefined. It may be
taken in two goes. A value of any other kind is not empty, so `requiredVals` passes over it, and
`coalesce` goes no further. -/
theorem emptiness_is_untruth {yes no : Value} (hne : yes ≠ no) :
    (∀ vs : List Value, (∀ v ∈ vs, v.kind ∈ Kind.shaped) →
      (∀ v ∈ vs, ternary yes no v = no ↔ v.Vacant) ∧
        (requiredVals vs = .ok "" ↔ ∀ v ∈ vs, ternary yes no v = yes) ∧
        (∀ p, requiredVals vs = .error p ↔
          ∃ v, First (ternary yes no · = no) vs v ∧ p = .emptyValue v.display ∧
            p.detail? = some ("required value is empty: " ++ v.display)) ∧
        (∀ v, First (ternary yes no · = yes) vs v → coalesce vs = v) ∧
        ((∀ v ∈ vs, ternary yes no v ≠ yes) → coalesce vs = .undefined)) ∧
      (∀ xs ys, coalesce (xs ++ ys) = coalesce ([coalesce xs] ++ ys)) ∧
      ∀ v, v.kind ∉ Kind.shaped →
        v.isEmpty = false ∧ (∀ xs ys, requiredVals (xs ++ v :: ys) = requiredVals (xs ++ ys)) ∧
          ∀ xs ys, (∀ x ∈ xs, x.isEmpty = true) → coalesce (xs ++ v :: ys) = v := by
  refine ⟨fun vs hvs => ?_, coalesce_append, fun v hv => ?_⟩
  · have hno : ∀ v ∈ vs, ternary yes no v = no ↔ v.isEmpty = true := fun v hv =>
      (ternary_eq_no_iff hne v).trans (Value.isTrue_eq_false_iff_isEmpty (hvs v hv))
    have hyes : ∀ v ∈ vs, ternary yes no v = yes ↔ v.isEmpty = false := by
      intro v hv
      rw [ternary_eq_yes_iff hne, ← Bool.not_eq_false, ← Bool.not_eq_true v.isEmpty]
      exact not_congr (Value.isTrue_eq_false_iff_isEmpty (hvs v hv))
    refine ⟨fun v hv => (hno v hv).trans (Value.isEmpty_iff v), ?_, fun p => ?_, fun v hv => ?_,
      fun h => ?_⟩
    · rw [requiredVals_eq_ok_iff]
      exact forall₂_congr fun v hv => (hyes v hv).symm
    · rw [requiredVals_eq_error_iff]
      refine exists_congr fun v => ?_
      rw [First.congr hno]
      refine and_congr_right fun _ => ⟨fun hp => ⟨hp, hp ▸ rfl⟩, And.left⟩
    · exact coalesce_of_first ((First.congr hyes).mp hv)
    · refine coalesce_of_forall_empty fun v hv => ?_
      rw [← Bool.not_eq_false, ← hyes v hv]
      exact h v hv
  · have hempty := Value.isEmpty_eq_false_of_not_shaped hv
    refine ⟨hempty, requiredVals_append_cons hempty, fun xs ys hxs => ?_⟩
    exact coalesce_of_first ⟨xs, ys, rfl, hempty, fun u hu => by simp [hxs u hu]⟩

/-- An integer beyond machine words and a list of nothing but a missing value have content; an
empty walk is not empty, whatever its truth. -/
theorem emptiness_is_untruth_kinds :
    let vs : List Value :=
      [.int (2 ^ 100), .list [.undefined], .bytes [0], .ofString "", .map []]
    let walk : Value := .lazy [] true
    (∀ v ∈ vs, v.kind ∈ Kind.shaped) ∧ requiredVals vs = .error (.emptyValue "") ∧
      coalesce [.int 0, .map [], .bool true] = .bool true ∧
      walk.kind ∉ Kind.shaped ∧ walk.isTrue = false ∧ requiredVals [walk] = .ok "" ∧
      coalesce [.none, walk] = walk := by
  intro vs walk
  have hne : Value.bool true ≠ .bool false := by simp
  have hvs : ∀ v ∈ vs, v.kind ∈ Kind.shaped := by decide
  have hwalk : walk.kind ∉ Kind.shaped := by decide
  obtain ⟨hshaped, -, hother⟩ := emptiness_is_untruth hne
  obtain ⟨-, -, herror, -, -⟩ := hshaped vs hvs
  obtain ⟨-, -, -, hfirst, -⟩ := hshaped [.int 0, .map [], .bool true] (by decide)
  obtain ⟨-, hrequired, hcoalesce⟩ := hother walk hwalk
  refine ⟨hvs, ?_, ?_, hwalk, rfl, hrequired [] [], hcoalesce [.none] [] (by decide)⟩
  · rw [herror]
    exact ⟨.ofString "", ⟨[.int (2 ^ 100), .list [.undefined], .bytes [0]], [.map []], rfl, rfl,
      by simp [ternary, Value.isTrue, Value.length?, Value.items?]⟩, rfl, rfl⟩
  · exact hfirst _ ⟨[.int 0, .map []], [], rfl, rfl,
      by simp [ternary, Value.isTrue, Value.length?, Value.items?, Value.entries?]⟩

end Function
end Stencil
