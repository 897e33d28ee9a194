import Mathlib.Data.List.TakeWhile
import Stencil.Expansion.Name

/-! The first-brace rule.

What stands behind a dollar and an opening brace is a name up to the first closing brace;
between braces that touch there is no name, and where no brace closes nothing is read at all.
`nameAt_names` says that `nameAt`, with its two branches and its index arithmetic,
follows this rule at every position, and that it never passes the end of its input. `firstBrace` is
the same rule by the index of the brace: `nameAt_first_brace` says that it is all there is to a
name. -/
namespace Stencil.Expansion
open Text.Utf8 (Bytes)

/-- What follows an opening brace: the name, if there is one, and what is left to be read. -/
def reference (inner : Bytes) : Option Bytes × Bytes :=
  match inner.dropWhile (· != closing) with
  | [] => (none, inner)
  | _ :: after =>
    let name := inner.takeWhile (· != closing)
    (if name = [] then none else some name, after)

/-- Text without a closing brace is no name. -/
theorem reference_unclosed {inner : Bytes} (h : closing ∉ inner) :
    reference inner = (none, inner) := by
  have hd : inner.dropWhile (· != closing) = [] := by
    rw [List.dropWhile_eq_nil_iff]
    intro b hb
    have : b ≠ closing := fun e => h (e ▸ hb)
    simpa using this
  simp [reference, hd]

/-- A closing brace ends the name before it. -/
theorem reference_closed {name after : Bytes} (h : closing ∉ name) :
    reference (name ++ closing :: after) = (if name = [] then none else some name, after) := by
  have hall : ∀ b ∈ name, (b != closing) = true := by
    intro b hb
    have : b ≠ closing := fun e => h (e ▸ hb)
    simpa using this
  have hd : (name ++ closing :: after).dropWhile (· != closing) = closing :: after := by
    rw [List.dropWhile_append_of_pos hall]
    simp
  have ht : (name ++ closing :: after).takeWhile (· != closing) = name := by
    rw [List.takeWhile_append_of_pos hall]
    simp
  simp [reference, hd, ht]

theorem length_reference_le (inner : Bytes) : (reference inner).2.length ≤ inner.length := by
  by_cases h : closing ∈ inner
  · obtain ⟨name, after, rfl, hn⟩ := List.eq_append_cons_of_mem h
    rw [reference_closed hn]
    simp only [List.length_append, List.length_cons]
    omega
  · simp [reference_unclosed h]

/-! ### Finding the brace by index -/

theorem close?_eq_none {s : Bytes} {k : Nat} (h : closing ∉ s.drop k) :
    close? s.toArray k = none := by
  fun_induction close? s.toArray k with
  | case1 k hk hc =>
    have hk' : k < s.length := by simpa using hk
    rw [List.drop_eq_getElem_cons hk'] at h
    simp_all
  | case2 k hk hc ih =>
    have hk' : k < s.length := by simpa using hk
    rw [List.drop_eq_getElem_cons hk'] at h
    exact ih (fun hm => h (List.mem_cons_of_mem _ hm))
  | case3 => rfl

theorem close?_eq_some {s name after : Bytes} {k : Nat} (hs : s.drop k = name ++ closing :: after)
    (hn : closing ∉ name) : close? s.toArray k = some (k + name.length) := by
  have hk : k < s.length := by
    by_contra hge
    rw [List.drop_eq_nil_of_le (by omega)] at hs
    simp at hs
  have hcons := List.drop_eq_getElem_cons hk
  induction name generalizing k with
  | nil =>
    rw [hs, List.nil_append, List.cons.injEq] at hcons
    rw [close?, dif_pos (by simpa using hk)]
    simp [← hcons.1]
  | cons b name ih =>
    rw [hs, List.cons_append, List.cons.injEq] at hcons
    have hb : s[k] ≠ closing := fun e => hn (by simp [hcons.1, e])
    have hk' : k + 1 < s.length := by
      by_contra hge
      rw [List.drop_eq_nil_of_le (by omega)] at hcons
      simp at hcons
    rw [close?, dif_pos (by simpa using hk), if_neg (by simpa using hb),
      ih hcons.2.symm (fun hm => hn (List.mem_cons_of_mem _ hm)) hk'
        (List.drop_eq_getElem_cons hk'),
      List.length_cons]
    congr 1
    omega

/-! ### The two branches of a name -/

/-- A special sign is no closing brace. -/
theorem ne_closing_of_isSpecial {b : UInt8} (h : isSpecial b = true) : b ≠ closing := by
  rintro rfl
  simp [isSpecial, closing] at h

/-- What `nameAt` says in words of the list behind its brace: the name of the reference, and a
width that leads to what is left behind it. A brace is the last thing passed over. -/
structure Names (s : Bytes) (start : Nat) (r : Option Bytes × Nat) : Prop where
  name : r.1 = (reference (s.drop (start + 1))).1
  rest : s.drop (start + r.2) = (reference (s.drop (start + 1))).2
  inside : start + r.2 ≤ s.length
  last : r.2 = 1 ∨ s[start + r.2 - 1]? = some closing

/-- Where a brace closes, what is before it is read, and both braces are passed over with it. -/
theorem closed_names {s name after : Bytes} {start : Nat}
    (hs : s.drop (start + 1) = name ++ closing :: after) (hn : closing ∉ name) :
    Names s start (if name = [] then none else some name, name.length + 2) := by
  have hend : start + (name.length + 2) = start + 1 + (name.length + 1) := by omega
  have hlen := congrArg List.length hs
  simp only [List.length_drop, List.length_append, List.length_cons] at hlen
  refine ⟨?_, ?_, ?_, .inr ?_⟩
  · rw [hs, reference_closed hn]
  · rw [hs, reference_closed hn, hend, ← List.drop_drop, hs]
    simp
  · show start + (name.length + 2) ≤ s.length
    omega
  · show s[start + (name.length + 2) - 1]? = some closing
    rw [hend, ← Nat.add_assoc, Nat.add_sub_cancel, ← List.getElem?_drop, hs]
    simp

/-- Where no brace closes, nothing is passed over but the opening one. -/
theorem unclosed_names {s : Bytes} {start : Nat} (h : start < s.length)
    (hclose : closing ∉ s.drop (start + 1)) : Names s start (none, 1) := by
  refine ⟨?_, ?_, h, .inl rfl⟩
  · rw [reference_unclosed hclose]
  · rw [reference_unclosed hclose]

theorem general_names {s : Bytes} {start : Nat} (h : start < s.length) :
    Names s start (nameAt.general s.toArray start) := by
  by_cases hclose : closing ∈ s.drop (start + 1)
  · obtain ⟨name, after, hs, hn⟩ := List.eq_append_cons_of_mem hclose
    have hgeneral : nameAt.general s.toArray start =
        (if name = [] then none else some name, name.length + 2) := by
      rw [nameAt.general, close?_eq_some hs hn]
      by_cases he : name = []
      · simp [he]
      · have hpos : 0 < name.length := List.length_pos_iff.mpr he
        have hname : (s.toArray.extract (start + 1) (start + 1 + name.length)).toList = name := by
          rw [List.extract_toArray, List.extract_eq_take_drop, hs, Nat.add_sub_cancel_left]
          exact List.take_left
        have hwidth : start + 1 + name.length + 1 - start = name.length + 2 := by omega
        simp only [if_neg (show ¬ start + 1 + name.length = start + 1 by omega), if_neg he, hname,
          hwidth]
    rw [hgeneral]
    exact closed_names hs hn
  · rw [nameAt.general, close?_eq_none hclose]
    exact unclosed_names h hclose

/-- **A name is read by the first-brace rule**: the branch for special signs gives the answer
that the search for a closing brace gives. -/
theorem nameAt_names {s : Bytes} {start : Nat} (h : start < s.length) :
    Names s start (nameAt s.toArray start) := by
  unfold nameAt
  split
  · next c d hc hd =>
    split
    · next hsp =>
      obtain ⟨hspecial, hclose⟩ : isSpecial c = true ∧ d = closing := by simpa using hsp
      subst hclose
      rw [List.getElem?_toArray] at hc hd
      obtain ⟨h1, hc⟩ := List.getElem?_eq_some_iff.mp hc
      obtain ⟨h2, hd⟩ := List.getElem?_eq_some_iff.mp hd
      have hs : s.drop (start + 1) = [c] ++ closing :: s.drop (start + 3) := by
        rw [List.drop_eq_getElem_cons h1, List.drop_eq_getElem_cons h2, hc, hd]
        rfl
      have hn : closing ∉ [c] := by
        simpa using (ne_closing_of_isSpecial hspecial).symm
      exact closed_names hs hn
    · exact general_names h
  · exact general_names h

/-! ### The rule by index -/

/-- The rule on bytes that an opening brace begins, by the index of their first closing brace:
without one the opening brace is all that is passed over, and what stands between the two is the
name, unless they touch. -/
def firstBrace (s : Bytes) : Option Bytes × Nat :=
  match s.idxOf? closing with
  | none => (none, 1)
  | some c => if c = 1 then (none, 2) else (some (s.extract 1 c), c + 1)

theorem firstBrace_unclosed {inner : Bytes} (h : closing ∉ inner) :
    firstBrace (opening :: inner) = (none, 1) := by
  have hnone : (opening :: inner).idxOf? closing = none := by
    rw [List.idxOf?_eq_none_iff, List.mem_cons, not_or]
    exact ⟨by decide, h⟩
  rw [firstBrace, hnone]

theorem firstBrace_closed {name after : Bytes} (h : closing ∉ name) :
    firstBrace (opening :: (name ++ closing :: after)) =
      (if name = [] then none else some name, name.length + 2) := by
  have hnone : closing ∉ opening :: name := by
    rw [List.mem_cons, not_or]
    exact ⟨by decide, h⟩
  have hsome : (opening :: name ++ closing :: after).idxOf? closing = some (name.length + 1) := by
    rw [List.idxOf?, List.findIdx?_append, ← List.idxOf?, List.idxOf?_eq_none_iff.mpr hnone]
    simp [List.idxOf?_cons]
  rw [firstBrace, ← List.cons_append, hsome]
  by_cases he : name = []
  · simp [he]
  · simp [he]

/-- What is read at a place is settled by what `Names` says of it. -/
theorem Names.eq {s : Bytes} {start : Nat} {r r' : Option Bytes × Nat} (h : Names s start r)
    (h' : Names s start r') : r = r' := by
  have hlen := congrArg List.length (h.rest.trans h'.rest.symm)
  simp only [List.length_drop] at hlen
  have := h.inside
  have := h'.inside
  exact Prod.ext (h.name.trans h'.name.symm) (by omega)

theorem firstBrace_names (before inner : Bytes) :
    Names (before ++ opening :: inner) before.length (firstBrace (opening :: inner)) := by
  have hinner : (before ++ opening :: inner).drop (before.length + 1) = inner := by
    simp [List.drop_append]
  by_cases hclose : closing ∈ inner
  · obtain ⟨name, after, rfl, hn⟩ := List.eq_append_cons_of_mem hclose
    rw [firstBrace_closed hn]
    exact closed_names hinner hn
  · rw [firstBrace_unclosed hclose]
    exact unclosed_names (by simp) (by rwa [hinner])

/-- A name is read from its opening brace on; what stands before that does not matter. -/
theorem nameAt_eq_firstBrace (before inner : Bytes) :
    nameAt (before ++ opening :: inner).toArray before.length = firstBrace (opening :: inner) :=
  (nameAt_names (by simp)).eq (firstBrace_names before inner)

theorem nameAt_drop {s inner : Bytes} {start : Nat} (h : s.drop start = opening :: inner) :
    nameAt s.toArray start = nameAt (s.drop start).toArray 0 := by
  have hstart : (s.take start).length = start := by
    have := congrArg List.length h
    simp only [List.length_drop, List.length_cons] at this
    rw [List.length_take]
    omega
  have hwhole := nameAt_eq_firstBrace (s.take start) inner
  rw [hstart, ← h, List.take_append_drop] at hwhole
  rw [hwhole, h]
  exact (nameAt_eq_firstBrace [] inner).symm

/-- A name is what stands between the braces. -/
theorem firstBrace_name {inner name : Bytes} (h : (firstBrace (opening :: inner)).1 = some name) :
    name ≠ [] ∧ closing ∉ name ∧
      (opening :: inner).take (firstBrace (opening :: inner)).2 =
        opening :: (name ++ [closing]) := by
  by_cases hclose : closing ∈ inner
  · obtain ⟨found, after, rfl, hn⟩ := List.eq_append_cons_of_mem hclose
    rw [firstBrace_closed hn] at h ⊢
    obtain ⟨hne, rfl⟩ : found ≠ [] ∧ found = name := by simpa using h
    have hsplit : opening :: (found ++ closing :: after) =
        opening :: (found ++ [closing]) ++ after := by simp
    rw [hsplit]
    exact ⟨hne, hn, List.take_left' (by simp)⟩
  · rw [firstBrace_unclosed hclose] at h
    cases h

/-- **The branch for special signs never changes the answer.** Wherever bytes begin with an opening
brace, `nameAt` gives what the first closing brace alone decides. It passes over one byte at
least, and over no more than there are; if there is a name, these are the name and its braces. -/
theorem nameAt_first_brace (before : Bytes) {s : Bytes} (h : s.head? = some opening) :
    let r := nameAt (before ++ s).toArray before.length
    r = nameAt.general (before ++ s).toArray before.length ∧ r = firstBrace s ∧
      1 ≤ r.2 ∧ r.2 ≤ s.length ∧
      ∀ name, r.1 = some name →
        name ≠ [] ∧ closing ∉ name ∧ s.take r.2 = opening :: (name ++ [closing]) := by
  obtain ⟨inner, rfl⟩ := List.head?_eq_some_iff.mp h
  intro r
  have hstart : before.length < (before ++ opening :: inner).length := by simp
  have hnames : Names (before ++ opening :: inner) before.length r := nameAt_names hstart
  have hrule : r = firstBrace (opening :: inner) := nameAt_eq_firstBrace before inner
  refine ⟨hnames.eq (general_names hstart), hrule, nameAt_width_pos _ _, ?_, fun name hname => ?_⟩
  · have := hnames.inside
    rw [List.length_append] at this
    omega
  · rw [hrule] at hname ⊢
    exact firstBrace_name hname

/-- A special sign that is not the whole name, and a closing brace behind the first. -/
theorem nameAt_first_brace_special :
    let s : Bytes := [0x7B, 0x23, 0x31, 0x7D, 0x7D]
    s.head? = some opening ∧ nameAt ([0x24] ++ s).toArray 1 = firstBrace s ∧
      firstBrace s = (some [0x23, 0x31], 4) := by
  intro s
  have hopen : s.head? = some opening := rfl
  obtain ⟨-, hrule, -⟩ := nameAt_first_brace [0x24] hopen
  exact ⟨hopen, hrule, by decide⟩

end Stencil.Expansion
