import Mathlib
import Stencil.Proofs.Expansion.Walk

/-! The loop, turn by turn.

The scanner reads its input by index, and cuts it by index. A read outside the input is here a read
that gives nothing, so `step` cannot fail; `strictStep` is the same turn with reads that do. From
every cursor the loop can come to the two are one (`strictStep_eq`), so all reads are inside.

`Turns` counts the turns between two cursors. Each moves the second cursor on, so there are no more
of them than bytes, and a dollar that an opening brace looks back at stands behind everything
that was opened before: what a turn takes ends in a brace. -/
namespace Stencil.Expansion
open Text.Utf8 (Bytes)

/-! ### Reads that fail outside the input -/

/-- The bytes from `i` up to `j`, if these places are in order and inside. -/
def slice? (s : Array UInt8) (i j : Nat) : Option (Array UInt8) :=
  if i ≤ j ∧ j ≤ s.size then some (s.extract i j) else none

/-- Whether a special sign is all there is between the braces. -/
def special? (s : Array UInt8) : Option Bool := do
  if 2 < s.size then
    if isSpecial (← s[1]?) then return (← s[2]?) == closing
    else return false
  else return false

/-- The name in what begins with an opening brace. -/
def strictName (s : Array UInt8) : Option (Option Bytes × Nat) := do
  if ← special? s then return (some (← slice? s 1 2).toList, 3)
  else general
where
  /-- The name up to the first closing brace. -/
  general : Option (Option Bytes × Nat) :=
    match close? s 1 with
    | some k => if k = 1 then some (none, 2) else do return (some (← slice? s 1 k).toList, k + 1)
    | none => some (none, 1)

/-- Whether the byte before `k` is a dollar. -/
def strictEscapedAt (s : Array UInt8) (k : Nat) : Option Bool :=
  if k = 0 then some false else (· == dollar) <$> s[k - 1]?

variable {σ : Type} (lookup : Lookup σ)

/-- A turn of the loop that fails at the first read outside the input. Only the byte behind the
cursor may be missing. -/
def strictStep (s : Array UInt8) (c : Cursor) : StateT σ Option Cursor := do
  let b ← s[c.pos]?
  if b = dollar ∧ s[c.pos + 1]? = some opening then
    let out := c.out.getD #[] ++ (← slice? s c.mark c.pos)
    if ← strictEscapedAt s c.pos then
      return ⟨c.pos + 1, c.pos + 2, some out⟩
    else
      let (name, width) ← strictName (← slice? s (c.pos + 1) s.size)
      let value ← fun st => some (answer lookup name st)
      return ⟨c.pos + width + 1, c.pos + width + 1, some (out ++ value)⟩
  else return { c with pos := c.pos + 1 }

theorem slice?_eq {s : Array UInt8} {i j : Nat} (hij : i ≤ j) (hj : j ≤ s.size) :
    slice? s i j = some (s.extract i j) :=
  if_pos ⟨hij, hj⟩

theorem strictEscapedAt_eq {s : Array UInt8} {k : Nat} (hk : k ≤ s.size) :
    strictEscapedAt s k = some (escapedAt s k) := by
  cases k with
  | zero => rfl
  | succ k =>
    have hk' : k < s.size := hk
    simp [strictEscapedAt, escapedAt, Array.getElem?_eq_getElem hk']

theorem general_strictName (s : Array UInt8) :
    strictName.general s = some (nameAt.general s 0) := by
  rw [strictName.general, nameAt.general]
  cases hclose : close? s 1 with
  | none => simp
  | some k =>
    have hk := close?_lt hclose
    simp only [Nat.zero_add]
    split
    · rfl
    · rw [slice?_eq (close?_ge hclose) (Nat.le_of_lt hk)]
      rfl

theorem strictName_eq (s : Bytes) : strictName s.toArray = some (nameAt s.toArray 0) := by
  by_cases hsize : 2 < s.toArray.size
  · have hlen : 2 < s.length := by simpa using hsize
    have h1 : s.toArray[1]? = some s[1] := by simp [Nat.lt_of_succ_lt hlen]
    have h2 : s.toArray[2]? = some s[2] := by simp [hlen]
    have hspecial : special? s.toArray = some (isSpecial s[1] && s[2] == closing) := by
      rw [special?, if_pos hsize, h1, h2]
      simp only [Option.bind_eq_bind, Option.bind_some]
      cases isSpecial s[1] <;> rfl
    have hname : (s.toArray.extract 1 2).toList = [s[1]] := by
      rw [extract_succ (Nat.le_refl 1) (Nat.lt_of_succ_lt hlen)]
      simp
    rw [strictName, hspecial, nameAt]
    simp only [Nat.zero_add, h1, h2, Option.bind_eq_bind, Option.bind_some]
    cases isSpecial s[1] && s[2] == closing with
    | false => exact general_strictName s.toArray
    | true =>
      rw [if_pos rfl, slice?_eq (by decide) (Nat.le_of_lt hsize), Option.bind_some, hname]
      rfl
  · have hspecial : special? s.toArray = some false := if_neg hsize
    have h2 : s.toArray[0 + 2]? = none := Array.getElem?_eq_none (Nat.le_of_not_lt hsize)
    rw [strictName, hspecial, nameAt, h2]
    simpa using general_strictName s.toArray

/-- A read that succeeds. -/
theorem liftM_some_bind {α β : Type} (a : α) (f : α → StateT σ Option β) :
    (liftM (some a) : StateT σ Option α) >>= f = f a := rfl

/-- **From every cursor the loop can come to, all reads are inside the input.** -/
theorem strictStep_eq {s : Bytes} {c : Cursor} (hc : c.Sound s) (hp : c.pos < s.length) (st : σ) :
    strictStep lookup s.toArray c st = some (step lookup s.toArray c st) := by
  have hread : s.toArray[c.pos]? = some s[c.pos] := by simp [hp]
  have hslice : slice? s.toArray c.mark c.pos = some (s.toArray.extract c.mark c.pos) :=
    slice?_eq hc.ordered (by simpa using hc.inside)
  have hescaped : strictEscapedAt s.toArray c.pos = some (escapedAt s.toArray c.pos) :=
    strictEscapedAt_eq (by simpa using hc.inside)
  cases ho : opensAt s.toArray c.pos with
  | false =>
    have hcopy : ¬ (s[c.pos] = dollar ∧ s.toArray[c.pos + 1]? = some opening) := by
      intro h
      simp [opensAt, hread, h] at ho
    rw [step_copy lookup ho, strictStep]
    simp only [hread, liftM_some_bind, if_neg hcopy]
    rfl
  | true =>
    have hopen : s[c.pos] = dollar ∧ s.toArray[c.pos + 1]? = some opening := by
      simpa [opensAt, hread] using ho
    cases he : escapedAt s.toArray c.pos with
    | true =>
      rw [step_escape lookup ho he, strictStep]
      simp only [hread, hslice, hescaped, he, liftM_some_bind, if_pos hopen, if_true]
      rfl
    | false =>
      obtain ⟨hk, hbrace⟩ := opening_of_opensAt ho
      have hdrop := List.drop_eq_getElem_cons hk
      rw [hbrace] at hdrop
      have hinner :
          slice? s.toArray (c.pos + 1) s.toArray.size = some (s.drop (c.pos + 1)).toArray := by
        have hsize : c.pos + 1 ≤ s.toArray.size := by simpa using Nat.le_of_lt hk
        rw [slice?_eq hsize (Nat.le_refl _)]
        simp [List.take_of_length_le]
      -- The name is read in a slice of its own, where its brace is the first byte.
      have hname :
          strictName (s.drop (c.pos + 1)).toArray = some (nameAt s.toArray (c.pos + 1)) := by
        rw [strictName_eq, nameAt_drop hdrop]
      rw [step_reference lookup ho he, strictStep]
      simp only [hread, hslice, hescaped, he, hinner, hname, liftM_some_bind, if_pos hopen,
        Bool.false_eq_true, if_false, Nat.add_right_comm c.pos 1]
      rfl

/-! ### Turns -/

/-- That many turns of the loop lead from one cursor, and one state of the lookup, to another. -/
inductive Turns (s : Bytes) : Nat → Cursor × σ → Cursor × σ → Prop
  | none (x : Cursor × σ) : Turns s 0 x x
  | turn {n : Nat} {x y : Cursor × σ} : x.1.pos < s.length →
      Turns s n (step lookup s.toArray x.1 x.2) y → Turns s (n + 1) x y

variable {lookup}

theorem Turns.sound {s : Bytes} {n : Nat} {x y : Cursor × σ} (h : Turns lookup s n x y)
    (hx : x.1.Sound s) : y.1.Sound s := by
  induction h with
  | none => exact hx
  | turn hp _ ih => exact ih (step_sound lookup hx hp _)

/-- Each turn moves the cursor on. -/
theorem Turns.pos_le {s : Bytes} {n : Nat} {x y : Cursor × σ} (h : Turns lookup s n x y) :
    x.1.pos + n ≤ y.1.pos := by
  induction h with
  | none => exact Nat.le_refl _
  | @turn n x y hp _ ih =>
    have := pos_lt_pos_step lookup s.toArray x.1 x.2
    omega

variable (lookup)

/-- The loop makes turns until the input is used up. -/
theorem run_turns (s : Bytes) (c : Cursor) (st : σ) :
    ∃ n, Turns lookup s n (c, st) (run lookup s.toArray c st) ∧
      s.length ≤ (run lookup s.toArray c st).1.pos := by
  fun_induction run lookup s.toArray c st with
  | case1 c st hp next ih =>
    obtain ⟨n, hturns, hend⟩ := ih
    exact ⟨n + 1, .turn (by simpa using hp) hturns, hend⟩
  | case2 c st hp => exact ⟨0, .none _, by simpa using hp⟩

/-! ### What a turn takes -/

/-- The places that a turn takes for what it opens: from the dollar on, or from the one before it
if that escapes it, up to where the next turn begins. -/
def Takes (s : Bytes) (c next : Cursor) (k : Nat) : Prop :=
  opensAt s.toArray c.pos = true ∧
    (if escapedAt s.toArray c.pos then c.pos - 1 else c.pos) ≤ k ∧ k < next.pos

/-- What is taken ends in a brace. -/
theorem escapedAt_step {s : Bytes} {c : Cursor} (h : opensAt s.toArray c.pos = true) (st : σ) :
    escapedAt s.toArray (step lookup s.toArray c st).1.pos = false := by
  cases he : escapedAt s.toArray c.pos with
  | true =>
    rw [step_escape lookup h he]
    exact escapedAt_after_opening h
  | false =>
    rw [step_reference lookup h he]
    exact escapedAt_after_name h

/-- A dollar that is looked back at stands behind all that was taken before. -/
theorem not_takes_of_escapedAt {s : Bytes} {n : Nat} {c d : Cursor} {st st' : σ}
    (h : Turns lookup s n (step lookup s.toArray d st) (c, st'))
    (he : escapedAt s.toArray c.pos = true) :
    ¬ Takes s d (step lookup s.toArray d st).1 (c.pos - 1) := by
  rintro ⟨hopen, -, hlt⟩
  have hle : (step lookup s.toArray d st).1.pos + n ≤ c.pos := h.pos_le
  -- Had the dollar been taken, no turn would lie between, and a brace would stand in its place.
  have hpos : (step lookup s.toArray d st).1.pos = c.pos := by omega
  have hbrace := escapedAt_step lookup hopen st
  rw [hpos, he] at hbrace
  cases hbrace

/-- A dollar that is looked back at is the last byte to be written. -/
theorem getLast?_flushed {s : Bytes} {c : Cursor} (hc : c.Sound s)
    (he : escapedAt s.toArray c.pos = true) :
    (c.flushed s.toArray).toList.getLast? = some dollar := by
  have hlt := hc.unflushed he
  obtain ⟨k, hk⟩ : ∃ k, c.pos = k + 1 := ⟨c.pos - 1, by omega⟩
  have hks : k < s.length := by
    have := hc.inside
    omega
  have hdollar : s[k] = dollar := by
    rw [hk, escapedAt_succ hks] at he
    simpa using he
  have hmark : c.mark ≤ k := by omega
  rw [Cursor.flushed, Array.toList_append, hk, extract_succ hmark hks, hdollar]
  simp

/-- **The loop stays inside its input and looks back at no dollar that was taken.** It makes at most
as many turns as there are bytes, until all are used up. Whenever a turn begins, the cursors are
in order and inside, every read of the turn is too, and the turn moves on. Where it finds a dollar
before an opening brace behind another dollar, that one is still to be written, comes to be
the last byte of the output, and belongs to nothing that a turn before has taken. -/
theorem turns_inside (s : Bytes) (st : σ) :
    (∃ n ≤ s.length, Turns lookup s n (.start, st) (run lookup s.toArray .start st) ∧
      (run lookup s.toArray .start st).1.pos = s.length) ∧
      ∀ n c st', Turns lookup s n (.start, st) (c, st') →
        c.mark ≤ c.pos ∧ c.pos ≤ s.length ∧ n ≤ c.pos ∧
          (c.pos < s.length →
            strictStep lookup s.toArray c st' = some (step lookup s.toArray c st') ∧
              c.pos < (step lookup s.toArray c st').1.pos) ∧
          (opensAt s.toArray c.pos = true → escapedAt s.toArray c.pos = true →
            c.mark < c.pos ∧
              (step lookup s.toArray c st').1.out = some (c.flushed s.toArray) ∧
              (c.flushed s.toArray).toList.getLast? = some dollar ∧
              ∀ m k d st'', Turns lookup s m (.start, st) (d, st'') →
                Turns lookup s k (step lookup s.toArray d st'') (c, st') →
                ¬ Takes s d (step lookup s.toArray d st'').1 (c.pos - 1)) := by
  have hsound : ∀ {n : Nat} {y : Cursor × σ}, Turns lookup s n (.start, st) y → y.1.Sound s :=
    fun h => h.sound (start_sound s)
  have hcount : ∀ {n : Nat} {y : Cursor × σ}, Turns lookup s n (.start, st) y → n ≤ y.1.pos :=
    fun h => Nat.le_trans (Nat.le_add_left _ _) h.pos_le
  refine ⟨?_, fun n c st' h => ?_⟩
  · obtain ⟨n, hturns, hend⟩ := run_turns lookup s .start st
    have hinside := (hsound hturns).inside
    exact ⟨n, Nat.le_trans (hcount hturns) hinside, hturns, Nat.le_antisymm hinside hend⟩
  · have hc : c.Sound s := hsound h
    refine ⟨hc.ordered, hc.inside, hcount h, fun hp => ?_, fun ho he => ?_⟩
    · exact ⟨strictStep_eq lookup hc hp st', pos_lt_pos_step lookup s.toArray c st'⟩
    · refine ⟨hc.unflushed he, ?_, getLast?_flushed hc he, fun m k d st'' _ hlater => ?_⟩
      · rw [step_escape lookup ho he]
        rfl
      · exact not_takes_of_escapedAt lookup hlater he

/-- A reference, then an escape: the first dollar of the escape does not belong to the reference. -/
theorem turns_inside_escape :
    let lookup := Lookup.pure fun name => name
    let s : Bytes := [0x24, 0x7B, 0x42, 0x7D, 0x24, 0x24, 0x7B, 0x41, 0x7D]
    let next : Cursor := ⟨4, 4, some #[0x42]⟩
    let c : Cursor := ⟨4, 5, some #[0x42]⟩
    Turns lookup s 2 (.start, ()) (c, ()) ∧ opensAt s.toArray c.pos = true ∧
      escapedAt s.toArray c.pos = true ∧ c.mark < c.pos ∧
      strictStep lookup s.toArray c () = some (⟨6, 7, some #[0x42, 0x24]⟩, ()) ∧
      Takes s .start next 3 ∧ ¬ Takes s .start next (c.pos - 1) := by
  intro lookup s next c
  have hfirst : step lookup s.toArray .start () = (next, ()) := by cbv
  have hsecond : step lookup s.toArray next () = (c, ()) := by cbv
  have hlater : Turns lookup s 1 (next, ()) (c, ()) := by
    refine .turn (by decide) ?_
    rw [hsecond]
    exact .none _
  have hturns : Turns lookup s 2 (.start, ()) (c, ()) := by
    refine .turn (by decide) ?_
    rw [hfirst]
    exact hlater
  have hopen : opensAt s.toArray c.pos = true := by decide
  have hescaped : escapedAt s.toArray c.pos = true := by decide
  obtain ⟨-, hall⟩ := turns_inside lookup s ()
  obtain ⟨-, -, -, hreads, hback⟩ := hall 2 c () hturns
  obtain ⟨hlt, -, -, htaken⟩ := hback hopen hescaped
  have hnot := htaken 0 1 .start () (.none _) (by rw [hfirst]; exact hlater)
  rw [hfirst] at hnot
  exact ⟨hturns, hopen, hescaped, hlt, (hreads (by decide)).1.trans (by cbv),
    ⟨by decide, by decide, by decide⟩, hnot⟩

end Stencil.Expansion
