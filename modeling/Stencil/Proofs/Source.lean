import Mathlib.Data.List.TakeWhile
import Stencil.Source

/-! What a source says, however it hands it out.

`Source.readAll_eq` is about a source that is read to its end. A line reader is described by
`Offers`: the bytes that are still to come from its buffer and its source, and how they end. What
`readLine` answers depends on these alone, not on the length of the pieces nor on the size of the
buffer (`readLine_answers`): it is the next line, or what stands behind the last newline, or the
failure that waits there. `lines` cuts bytes into such lines. -/
namespace Stencil
open Text.Utf8 (Bytes)

/-! ### Reading to the end -/

namespace Source

theorem of_read_error {s : Source} {n : Nat} {reason : String} (h : s.read n = .error reason) :
    s.data = [] ∧ s.failure = some reason := by
  unfold read at h
  split at h
  · next hd hf =>
    cases h
    exact ⟨hd, hf⟩
  · cases h

/-- A piece is the start of the bytes; an empty one means that they have ended well. -/
theorem of_read_ok {s rest : Source} {n : Nat} {piece : Bytes} (h : s.read n = .ok (piece, rest)) :
    piece ++ rest.data = s.data ∧ rest.chunk = s.chunk ∧ rest.failure = s.failure ∧
      (0 < min n s.chunk → piece = [] → s.data = [] ∧ s.failure = none) := by
  unfold read at h
  split at h
  · cases h
  · next hne =>
    cases h
    refine ⟨List.take_append_drop _ _, rfl, rfl, fun hpos hpiece => ?_⟩
    have hd : s.data = [] := by
      rcases List.take_eq_nil_iff.mp hpiece with hk | hd
      · omega
      · exact hd
    refine ⟨hd, ?_⟩
    cases hf : s.failure with
    | none => rfl
    | some reason => exact absurd hf (hne reason hd)

/-- What reading to the end may come to, in whatever portions: each request may be of any length,
and the greatest length of a piece may change from one to the next. -/
inductive Gathers : Source → Except String Bytes → Prop where
  | failed {s : Source} {n reason} : s.read n = .error reason → Gathers s (.error reason)
  | ended {s rest : Source} {n} : 0 < min n s.chunk → s.read n = .ok ([], rest) → Gathers s (.ok [])
  | piece {s rest : Source} {n chunk piece gathered} : s.read n = .ok (piece, rest) → piece ≠ [] →
      Gathers { rest with chunk } gathered → Gathers s (gathered.map (piece ++ ·))

theorem Gathers.eq {s : Source} {gathered : Except String Bytes} (h : s.Gathers gathered) :
    gathered = match s.failure with
      | none => .ok s.data
      | some reason => .error reason := by
  induction h with
  | failed hread =>
    obtain ⟨-, hf⟩ := of_read_error hread
    rw [hf]
  | ended hpos hread =>
    obtain ⟨-, -, -, hend⟩ := of_read_ok hread
    obtain ⟨hd, hf⟩ := hend hpos rfl
    rw [hf, hd]
  | @piece s rest n chunk piece gathered hread _ _ ih =>
    obtain ⟨hd, -, hf, -⟩ := of_read_ok hread
    rw [ih, ← hd, ← hf]
    cases rest.failure <;> rfl

theorem readAll_gathers (s : Source) (hchunk : 0 < s.chunk) : s.Gathers s.readAll := by
  fun_induction readAll s with
  | case1 s reason h => exact .failed h
  | case2 s rest h => exact .ended (by omega) h
  | case3 s piece rest h hp reason hr ih =>
    obtain ⟨-, hc, -, -⟩ := of_read_ok h
    rw [hc, hr] at ih
    exact .piece h hp (ih hchunk)
  | case4 s piece rest h hp more hr ih =>
    obtain ⟨-, hc, -, -⟩ := of_read_ok h
    rw [hc, hr] at ih
    exact .piece h hp (ih hchunk)

/-- All bytes are read, and after them the failure if there is one. -/
theorem readAll_eq (s : Source) (hchunk : 0 < s.chunk) :
    s.readAll = match s.failure with
      | none => .ok s.data
      | some reason => .error reason :=
  (readAll_gathers s hchunk).eq

/-- **All ways of reading to the end come to the same.** -/
theorem gathers_iff (s : Source) (hchunk : 0 < s.chunk) (gathered : Except String Bytes) :
    s.Gathers gathered ↔ gathered = s.readAll := by
  refine ⟨fun h => ?_, fun h => h ▸ readAll_gathers s hchunk⟩
  rw [h.eq, readAll_eq s hchunk]

end Source

/-! ### Reading lines -/

namespace LineReader

/-- The bytes a reader has still to give, and how they end. Pieces and buffer are of any length
but none. -/
structure Offers (r : LineReader) (s : Bytes) (failure : Option String) : Prop where
  bytes : r.buffer ++ r.source.data = s
  ending : r.source.failure = failure
  piece : 0 < r.source.chunk
  room : 0 < r.capacity

variable {r f : LineReader} {s : Bytes} {failure : Option String}

theorem of_fill_error {reason : String} (h : r.Offers s failure) (hr : r.fill = .error reason) :
    s = [] ∧ failure = some reason := by
  unfold fill at hr
  split at hr
  · next hb =>
    split at hr
    · next hread =>
      cases hr
      obtain ⟨hd, hf⟩ := Source.of_read_error hread
      have hbuffer : r.buffer = [] := by simpa using hb
      exact ⟨by rw [← h.bytes, hbuffer, hd, List.append_nil], h.ending ▸ hf⟩
    · cases hr
  · cases hr

/-- A filled reader offers the same; if its buffer is empty, all has ended well. -/
theorem of_fill_ok (h : r.Offers s failure) (hr : r.fill = .ok f) :
    f.Offers s failure ∧ (f.buffer = [] → s = [] ∧ failure = none) := by
  unfold fill at hr
  split at hr
  · next hb =>
    split at hr
    · cases hr
    · next piece rest hread =>
      cases hr
      obtain ⟨hd, hc, hf, hend⟩ := Source.of_read_ok hread
      have hbuffer : r.buffer = [] := by simpa using hb
      have hs : r.source.data = s := by rw [← h.bytes, hbuffer, List.nil_append]
      refine ⟨⟨hd.trans hs, hf.trans h.ending, hc ▸ h.piece, h.room⟩, fun hp => ?_⟩
      have hmin : 0 < min r.capacity r.source.chunk := Nat.lt_min.mpr ⟨h.room, h.piece⟩
      obtain ⟨hd, hf⟩ := hend hmin hp
      exact ⟨hs ▸ hd, h.ending ▸ hf⟩
  · next hb =>
    cases hr
    refine ⟨h, fun he => ?_⟩
    simp [he] at hb

/-- Without its buffer a reader offers what its source does. -/
theorem offers_source (h : f.Offers s failure) :
    ({ f with buffer := [] } : LineReader).Offers f.source.data failure :=
  ⟨rfl, h.ending, h.piece, h.room⟩

/-- A buffer with a newline, cut behind it. -/
theorem buffer_split {b : UInt8} {rest : Bytes} (h : s.dropWhile (· != newline) = b :: rest) :
    b = newline ∧ newline ∉ s.takeWhile (· != newline) ∧
      s = s.takeWhile (· != newline) ++ b :: rest := by
  refine ⟨?_, fun hm => ?_, ?_⟩
  · have := List.head?_dropWhile_not (· != newline) s
    simpa [h] using this
  · simpa using List.mem_takeWhile_imp hm
  · rw [← h, List.takeWhile_append_dropWhile]

/-- A buffer without one. -/
theorem buffer_whole (h : s.dropWhile (· != newline) = []) :
    newline ∉ s ∧ s.takeWhile (· != newline) = s := by
  rw [List.dropWhile_eq_nil_iff] at h
  exact ⟨fun hm => by simpa using h newline hm, List.takeWhile_eq_self_iff.mpr h⟩

/-- What may be answered about bytes that are still to come: their first line, or all of them if
none of them is a newline, or the failure behind them. -/
inductive Answers (failure : Option String) :
    Bytes → Except String (Bytes × LineReader) → Prop where
  | line {body rest after} : newline ∉ body → after.Offers rest failure →
      Answers failure (body ++ newline :: rest) (.ok (body ++ [newline], after))
  | tail {s after} : newline ∉ s → failure = none → Answers failure s (.ok (s, after))
  | failed {s reason} : newline ∉ s → failure = some reason → Answers failure s (.error reason)

/-- Bytes before the first newline belong to the answer. -/
theorem Answers.prepend {buffer s : Bytes} (hbuffer : newline ∉ buffer)
    {answer : Except String (Bytes × LineReader)} (h : Answers failure s answer) :
    Answers failure (buffer ++ s) (answer.map fun a => (buffer ++ a.1, a.2)) := by
  have hnot {t : Bytes} (ht : newline ∉ t) : newline ∉ buffer ++ t := by
    rw [List.mem_append]
    exact not_or.mpr ⟨hbuffer, ht⟩
  cases h with
  | line hbody hafter =>
    have := Answers.line (hnot hbody) hafter
    simpa [Except.map, List.append_assoc] using this
  | tail hnone hfailure => exact .tail (hnot hnone) hfailure
  | failed hnone hfailure => exact .failed (hnot hnone) hfailure

/-- **What a line reader answers** follows from what it offers. -/
theorem readLine_answers (h : r.Offers s failure) : Answers failure s r.readLine := by
  fun_induction readLine r generalizing s with
  | case1 r reason hr =>
    obtain ⟨rfl, hfailure⟩ := of_fill_error h hr
    exact .failed List.not_mem_nil hfailure
  | case2 r f hr hb =>
    obtain ⟨rfl, hfailure⟩ := (of_fill_ok h hr).2 hb
    exact .tail List.not_mem_nil hfailure
  | case3 r f hr hb b rest hdrop =>
    obtain ⟨hf, -⟩ := of_fill_ok h hr
    obtain ⟨rfl, hbody, hbuffer⟩ := buffer_split hdrop
    have hs : s = f.buffer.takeWhile (· != newline) ++ newline :: (rest ++ f.source.data) := by
      rw [← hf.bytes, ← List.cons_append, ← List.append_assoc, ← hbuffer]
    rw [hs]
    exact .line hbody ⟨rfl, hf.ending, hf.piece, hf.room⟩
  | case4 r f hr hb hdrop reason hmore ih =>
    obtain ⟨hf, -⟩ := of_fill_ok h hr
    have hanswer := (ih (offers_source hf)).prepend (buffer_whole hdrop).1
    rwa [hmore, hf.bytes] at hanswer
  | case5 r f hr hb hdrop more after hmore ih =>
    obtain ⟨hf, -⟩ := of_fill_ok h hr
    obtain ⟨hnone, htake⟩ := buffer_whole hdrop
    have hanswer := (ih (offers_source hf)).prepend hnone
    rw [hmore, hf.bytes] at hanswer
    rw [htake]
    exact hanswer

/-! ### Lines -/

/-- The lines of some bytes, each with its newline, and what stands behind the last one. -/
def lines : Bytes → List Bytes × Bytes
  | [] => ([], [])
  | b :: rest =>
    if b = newline then ([b] :: (lines rest).1, (lines rest).2)
    else
      match lines rest with
      | ([], tail) => ([], b :: tail)
      | (line :: more, tail) => ((b :: line) :: more, tail)

/-- Bytes that end in a newline and hold no other. -/
def IsLine (line : Bytes) : Prop := ∃ body, newline ∉ body ∧ line = body ++ [newline]

theorem lines_of_not_mem (h : newline ∉ s) : lines s = ([], s) := by
  induction s with
  | nil => rfl
  | cons b rest ih =>
    obtain ⟨hb, hrest⟩ := not_or.mp (fun hm => h (List.mem_cons.mpr hm))
    rw [lines, if_neg (Ne.symm hb), ih hrest]

/-- The first line ends at the first newline. -/
theorem lines_line {body rest : Bytes} (h : newline ∉ body) :
    lines (body ++ newline :: rest) = ((body ++ [newline]) :: (lines rest).1, (lines rest).2) := by
  induction body with
  | nil => rw [List.nil_append, lines, if_pos rfl, List.nil_append]
  | cons b body ih =>
    obtain ⟨hb, hbody⟩ := not_or.mp (fun hm => h (List.mem_cons.mpr hm))
    rw [List.cons_append, lines, if_neg (Ne.symm hb), ih hbody, List.cons_append]

/-- Lines and what is behind them are cut into these lines and that. -/
theorem lines_flatten {ls : List Bytes} {tail : Bytes} (hls : ∀ l ∈ ls, IsLine l)
    (htail : newline ∉ tail) : lines (ls.flatten ++ tail) = (ls, tail) := by
  induction ls with
  | nil => rw [List.flatten_nil, List.nil_append, lines_of_not_mem htail]
  | cons l ls ih =>
    obtain ⟨hl, hmore⟩ := List.forall_mem_cons.mp hls
    obtain ⟨body, hbody, rfl⟩ := hl
    rw [List.flatten_cons, List.append_assoc, List.append_assoc, List.singleton_append,
      lines_line hbody, ih hmore]

/-- **Cutting into lines loses nothing**: the lines and what is behind them are the bytes. -/
theorem lines_spec (s : Bytes) :
    (lines s).1.flatten ++ (lines s).2 = s ∧ (∀ l ∈ (lines s).1, IsLine l) ∧
      newline ∉ (lines s).2 := by
  generalize hn : s.length = n
  induction n using Nat.strongRecOn generalizing s with
  | ind n ih =>
    by_cases h : newline ∈ s
    · obtain ⟨body, rest, rfl, hbody⟩ := List.eq_append_cons_of_mem h
      have hlen : rest.length < n := by
        rw [← hn, List.length_append, List.length_cons]
        omega
      obtain ⟨hflat, hlines, htail⟩ := ih rest.length hlen rest rfl
      rw [lines_line hbody]
      refine ⟨?_, List.forall_mem_cons.mpr ⟨⟨body, hbody, rfl⟩, hlines⟩, htail⟩
      rw [List.flatten_cons, List.append_assoc, hflat, List.append_assoc, List.singleton_append]
    · rw [lines_of_not_mem h]
      exact ⟨rfl, nofun, h⟩

end LineReader

end Stencil
