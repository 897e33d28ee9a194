import Stencil.Expansion.Scanner
import Stencil.Proofs.Expansion.Name

/-! The scanner as a walk along a list.

`walk` goes through its input one byte at a time and remembers of what it has passed only
whether that was a dollar copied just now. It has no cursors and no output that waits to be
written. `bytes_expandBytes` says that the loop with its two cursors computes it.

The invariant is `Cursor.Sound`: the cursors are in order and inside the input, and whenever a
dollar stands before `pos` it has not been written yet, so that it belongs to no
reference and to no escape before. -/
namespace Stencil.Expansion
open Text.Utf8 (Bytes)

variable {σ : Type} (lookup : Lookup σ)

/-- What the bytes of a list become; `behind` says that a copied dollar stands before them. -/
def walk (behind : Bool) : Bytes → StateM σ Bytes
  | [] => pure []
  | [b] => pure [b]
  | b :: c :: rest =>
    if b = dollar ∧ c = opening then
      if behind then (opening :: ·) <$> walk false rest
      else do
        let value ← answer lookup (reference rest).1
        (value ++ ·) <$> walk false (reference rest).2
    else (b :: ·) <$> walk (b == dollar) (c :: rest)
  termination_by s => s.length
  decreasing_by
    · simp only [List.length_cons]
      omega
    · have := length_reference_le rest
      simp only [List.length_cons]
      omega
    · simp only [List.length_cons]
      omega

@[simp]
theorem walk_nil (behind : Bool) : walk lookup behind [] = pure [] := by
  rw [walk]

/-- A dollar behind a dollar loses its meaning, and gives way to it. -/
theorem walk_escape (rest : Bytes) :
    walk lookup true (dollar :: opening :: rest) = (opening :: ·) <$> walk lookup false rest := by
  rw [walk, if_pos ⟨rfl, rfl⟩, if_pos rfl]

theorem walk_reference (rest : Bytes) :
    walk lookup false (dollar :: opening :: rest) =
      answer lookup (reference rest).1 >>= fun value =>
        (value ++ ·) <$> walk lookup false (reference rest).2 := by
  rw [walk, if_pos ⟨rfl, rfl⟩, if_neg (by decide)]

/-- Any byte that starts no reference is copied. -/
theorem walk_copy (behind : Bool) {b : UInt8} {rest : Bytes}
    (h : b = dollar → rest.head? ≠ some opening) :
    walk lookup behind (b :: rest) = (b :: ·) <$> walk lookup (b == dollar) rest := by
  cases rest with
  | nil => simp [walk]
  | cons c rest =>
    have hne : ¬ (b = dollar ∧ c = opening) := by
      rintro ⟨hb, hc⟩
      exact h hb (by rw [hc]; rfl)
    rw [walk, if_neg hne]

/-- Only a dollar that opens something asks what stands before it. -/
theorem walk_behind_irrelevant {s : Bytes} (h : ∀ rest, s ≠ dollar :: opening :: rest)
    (behind behind' : Bool) : walk lookup behind s = walk lookup behind' s := by
  cases s with
  | nil => simp
  | cons b rest =>
    have hb : b = dollar → rest.head? ≠ some opening := by
      rintro rfl hr
      obtain ⟨inner, rfl⟩ := List.head?_eq_some_iff.mp hr
      exact h inner rfl
    rw [walk_copy lookup behind hb, walk_copy lookup behind' hb]

/-! ### Looking around a position -/

theorem opensAt_iff {s : Bytes} {k : Nat} :
    opensAt s.toArray k = true ↔ s.drop k = dollar :: opening :: s.drop (k + 2) := by
  simp only [opensAt, List.getElem?_toArray, Bool.and_eq_true, beq_iff_eq]
  constructor
  · rintro ⟨hb, hc⟩
    obtain ⟨hk, hb⟩ := List.getElem?_eq_some_iff.mp hb
    obtain ⟨hk', hc⟩ := List.getElem?_eq_some_iff.mp hc
    rw [List.drop_eq_getElem_cons hk, List.drop_eq_getElem_cons hk', hb, hc]
  · intro h
    have hb := congrArg (·[0]?) h
    have hc := congrArg (·[1]?) h
    simp only [List.getElem?_drop] at hb hc
    exact ⟨by simpa using hb, by simpa using hc⟩

/-- Where something opens, a brace stands behind the dollar. -/
theorem opening_of_opensAt {s : Bytes} {k : Nat} (h : opensAt s.toArray k = true) :
    ∃ hk : k + 1 < s.length, s[k + 1] = opening := by
  have hopen : s[k + 1]? = some opening := by
    rw [← List.getElem?_drop, opensAt_iff.mp h]
    rfl
  exact List.getElem?_eq_some_iff.mp hopen

@[simp]
theorem escapedAt_zero (s : Array UInt8) : escapedAt s 0 = false := rfl

theorem escapedAt_succ {s : Bytes} {k : Nat} (h : k < s.length) :
    escapedAt s.toArray (k + 1) = (s[k] == dollar) := by
  simp [escapedAt, List.getElem?_eq_getElem h]

/-! ### The loop -/

/-- A cursor the loop can come to: the bytes before a dollar that is looked back at are still to
be written. -/
structure Cursor.Sound (s : Bytes) (c : Cursor) : Prop where
  ordered : c.mark ≤ c.pos
  inside : c.pos ≤ s.length
  fresh : c.out = none → c.mark = 0
  unflushed : escapedAt s.toArray c.pos = true → c.mark < c.pos

theorem start_sound (s : Bytes) : Cursor.start.Sound s :=
  ⟨Nat.le_refl _, Nat.zero_le _, fun _ => rfl, fun h => by simp [Cursor.start] at h⟩

/-- What a turn of the loop does, by what stands at the cursor. -/
theorem step_copy {s : Bytes} {c : Cursor} (h : opensAt s.toArray c.pos = false) :
    step lookup s.toArray c = pure { c with pos := c.pos + 1 } := by
  simp [step, h]

theorem step_escape {s : Bytes} {c : Cursor} (h : opensAt s.toArray c.pos = true)
    (he : escapedAt s.toArray c.pos = true) :
    step lookup s.toArray c = pure ⟨c.pos + 1, c.pos + 2, some (c.flushed s.toArray)⟩ := by
  simp [step, h, he]

theorem step_reference {s : Bytes} {c : Cursor} (h : opensAt s.toArray c.pos = true)
    (he : escapedAt s.toArray c.pos = false) :
    step lookup s.toArray c =
      (fun value =>
        let after := c.pos + 1 + (nameAt s.toArray (c.pos + 1)).2
        ⟨after, after, some (c.flushed s.toArray ++ value)⟩) <$>
      answer lookup (nameAt s.toArray (c.pos + 1)).1 := by
  simp only [step, h, he, if_true, Bool.false_eq_true, if_false, map_eq_pure_bind,
    Nat.add_right_comm c.pos]

/-- Behind a dollar and an opening brace no dollar is looked back at. -/
theorem escapedAt_after_opening {s : Bytes} {k : Nat} (h : opensAt s.toArray k = true) :
    escapedAt s.toArray (k + 2) = false := by
  obtain ⟨hk, hopen⟩ := opening_of_opensAt h
  rw [escapedAt_succ hk, hopen]
  rfl

/-- What a brace that was passed over leaves behind is no dollar. -/
theorem escapedAt_after_name {s : Bytes} {k : Nat} (h : opensAt s.toArray k = true) :
    escapedAt s.toArray (k + 1 + (nameAt s.toArray (k + 1)).2) = false := by
  obtain ⟨hk, hopen⟩ := opening_of_opensAt h
  rcases (nameAt_names hk).last with h1 | hclose
  · rw [h1, escapedAt_succ hk, hopen]
    rfl
  · simp only [escapedAt, List.getElem?_toArray, hclose]
    simp [closing, dollar]

theorem step_sound {s : Bytes} {c : Cursor} (hc : c.Sound s) (hp : c.pos < s.length) (st : σ) :
    (step lookup s.toArray c st).1.Sound s := by
  cases ho : opensAt s.toArray c.pos with
  | false =>
    rw [step_copy lookup ho]
    refine ⟨?_, hp, hc.fresh, fun _ => ?_⟩
    · exact Nat.le_succ_of_le hc.ordered
    · exact Nat.lt_succ_of_le hc.ordered
  | true =>
    obtain ⟨hk, -⟩ := opening_of_opensAt ho
    cases he : escapedAt s.toArray c.pos with
    | true =>
      rw [step_escape lookup ho he]
      exact ⟨Nat.le_succ _, hk, nofun, fun _ => Nat.lt_succ_self _⟩
    | false =>
      rw [step_reference lookup ho he]
      refine ⟨Nat.le_refl _, (nameAt_names hk).inside, nofun, fun h => ?_⟩
      exact absurd h (by rw [Bool.not_eq_true]; exact escapedAt_after_name ho)

/-- All that is written from a cursor on: what waits to be written, then what the walk makes of
the rest. -/
def Cursor.outcome (s : Bytes) (c : Cursor) : StateM σ Bytes :=
  ((c.flushed s.toArray).toList ++ ·) <$> walk lookup (escapedAt s.toArray c.pos) (s.drop c.pos)

theorem extract_succ {s : Bytes} {i j : Nat} (hij : i ≤ j) (hj : j < s.length) :
    (s.toArray.extract i (j + 1)).toList = (s.toArray.extract i j).toList ++ [s[j]] := by
  have hlt : j - i < (s.drop i).length := by
    rw [List.length_drop]
    omega
  simp only [List.extract_toArray, List.extract_eq_take_drop]
  rw [show j + 1 - i = (j - i) + 1 by omega, List.take_succ_eq_append_getElem hlt,
    List.getElem_drop]
  simp [Nat.add_sub_cancel' hij]

theorem step_outcome {s : Bytes} {c : Cursor} (hc : c.Sound s) (hp : c.pos < s.length) :
    c.outcome lookup s = step lookup s.toArray c >>= fun c' => c'.outcome lookup s := by
  cases ho : opensAt s.toArray c.pos with
  | false =>
    have hdrop := List.drop_eq_getElem_cons hp
    have hcopy : s[c.pos] = dollar → (s.drop (c.pos + 1)).head? ≠ some opening := by
      intro hb hr
      have hopen : opensAt s.toArray c.pos = true := by
        simpa [opensAt, List.getElem?_eq_getElem hp, hb] using hr
      rw [ho] at hopen
      cases hopen
    rw [step_copy lookup ho, pure_bind]
    simp only [Cursor.outcome, Cursor.flushed, escapedAt_succ hp, Array.toList_append]
    rw [extract_succ hc.ordered hp, hdrop, walk_copy lookup _ hcopy]
    simp
  | true =>
    have hdrop := opensAt_iff.mp ho
    obtain ⟨hk, hopen⟩ := opening_of_opensAt ho
    cases he : escapedAt s.toArray c.pos with
    | true =>
      rw [step_escape lookup ho he, pure_bind]
      simp only [Cursor.outcome, escapedAt_after_opening ho, he]
      rw [hdrop, walk_escape]
      simp only [Cursor.flushed, Array.toList_append, Option.getD_some]
      rw [extract_succ (Nat.le_refl _) hk, hopen]
      simp
    | false =>
      have hnames := nameAt_names hk
      rw [step_reference lookup ho he]
      simp only [Cursor.outcome, bind_map_left, escapedAt_after_name ho, he]
      rw [hdrop, walk_reference, hnames.rest, hnames.name]
      simp [Cursor.flushed]

/-- At the end of the input the result is what has been written and what still waits. -/
theorem Cursor.bytes_result {s : Bytes} {c : Cursor} (hc : c.Sound s) (hend : c.pos = s.length) :
    (c.result s).bytes = (c.flushed s.toArray).toList := by
  cases hout : c.out with
  | none =>
    have hmark := hc.fresh hout
    simp [Cursor.result, Cursor.flushed, hout, hmark, hend]
  | some out =>
    simp [Cursor.result, Cursor.flushed, hout, hend]

/-- The loop ends with what its cursor promises. -/
theorem run_outcome {s : Bytes} {c : Cursor} (hc : c.Sound s) (st : σ) :
    c.outcome lookup s st =
      (((run lookup s.toArray c st).1.result s).bytes, (run lookup s.toArray c st).2) := by
  fun_induction run lookup s.toArray c st with
  | case1 c st hp next ih =>
    have hp' : c.pos < s.length := by simpa using hp
    have hnext : c.outcome lookup s st = next.1.outcome lookup s next.2 :=
      congrFun (step_outcome lookup hc hp') st
    rw [hnext]
    exact ih (step_sound lookup hc hp' st)
  | case2 c st hp =>
    have hend : c.pos = s.length := by
      have := hc.inside
      simp only [List.size_toArray] at hp
      omega
    rw [Cursor.bytes_result hc hend]
    simp only [Cursor.outcome, hend, List.drop_length, walk_nil, map_pure, List.append_nil]
    rfl

/-- **The loop computes the walk**, whatever the answers are and whatever state they carry. -/
theorem bytes_expandBytes (s : Bytes) :
    Expanded.bytes <$> expandBytes lookup s = walk lookup false s := by
  have hstart : Cursor.start.outcome lookup s = walk lookup false s := by
    simp [Cursor.outcome, Cursor.start, Cursor.flushed]
  funext st
  rw [← hstart, run_outcome lookup (start_sound s) st]
  rfl

/-! ### Lookups without state -/

theorem step_stateless (f : String → String) (s : Array UInt8) (c : Cursor) (st : σ) :
    step (fun name => pure (f name)) s c st = ((step (Lookup.pure f) s c ()).1, st) := by
  cases ho : opensAt s c.pos with
  | false => simp only [step, ho]; rfl
  | true =>
    cases he : escapedAt s c.pos with
    | true => simp only [step, ho, he]; rfl
    | false =>
      simp only [step, ho, he]
      cases (nameAt s (c.pos + 1)).1 <;> rfl

theorem run_stateless (f : String → String) (s : Array UInt8) (c : Cursor) (st : σ) :
    run (fun name => pure (f name)) s c st = ((run (Lookup.pure f) s c ()).1, st) := by
  fun_induction run (fun name => pure (f name)) s c st with
  | case1 c st hp next ih =>
    have hnext : next = ((step (Lookup.pure f) s c ()).1, st) := step_stateless f s c st
    have hrun : run (Lookup.pure f) s c () = run (Lookup.pure f) s next.1 () := by
      rw [hnext]
      conv => lhs; rw [run, if_pos hp]
    rw [ih, hrun, hnext]
  | case2 c st hp => rw [run, if_neg hp]

/-- A state that a lookup does not use stays as it is. -/
theorem expandBytes_stateless (f : String → String) (s : Bytes) (st : σ) :
    expandBytes (fun name => pure (f name)) s st = ((expandBytes (Lookup.pure f) s ()).1, st) := by
  rw [expandBytes, run_stateless]
  rfl

end Stencil.Expansion
