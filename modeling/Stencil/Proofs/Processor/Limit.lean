import Stencil.Proofs.Processor.AtOnce

/-! A pass line by line into a sink with a limit.

A sink that fills up cuts a run short and changes nothing else. As long as the outputs of the
lines fit together, the run is the one into a sink without a limit; the first output that does
not fit is cut where the room ends, and the line it belongs to is the last that is looked at.
`fitting` counts the outputs before it. `deliverLines_fits` and `deliverLines_refused` are the
two ways a run can go, and `processLines_limited` compares a run with and without a limit. -/
namespace Stencil.Processor
open Text.Utf8 (Bytes)
open LineReader

variable {σ : Type}

/-! ### Outputs that fit -/

/-- The number of outputs at the front that have room together. -/
def fitting : (room : Nat) → List Bytes → Nat
  | _, [] => 0
  | room, out :: more => if out.length ≤ room then fitting (room - out.length) more + 1 else 0

/-- Some outputs at the front fit if there is room for their bytes. -/
theorem le_fitting_iff {outs : List Bytes} {i : Nat} (room : Nat) (hi : i ≤ outs.length) :
    i ≤ fitting room outs ↔ (outs.take i).flatten.length ≤ room := by
  induction outs generalizing room i with
  | nil =>
    obtain rfl : i = 0 := by simpa using hi
    simp [fitting]
  | cons out more ih =>
    cases i with
    | zero => simp
    | succ i =>
      rw [List.length_cons, Nat.succ_le_succ_iff] at hi
      rw [fitting, List.take_succ_cons, List.flatten_cons, List.length_append]
      split
      · next hout =>
        rw [Nat.succ_le_succ_iff, ih _ hi]
        omega
      · omega

/-- All fit, or there is one behind those that fit. -/
theorem fitting_lt_length {outs : List Bytes} {room : Nat} (h : room < outs.flatten.length) :
    fitting room outs < outs.length := by
  by_contra hall
  have hfit := (le_fitting_iff room (Nat.le_refl outs.length)).mp (Nat.le_of_not_lt hall)
  rw [List.take_length] at hfit
  omega

/-! ### The two ways a run can go -/

section Run
variable (p : Processor σ) (failure : Option String) {k : Sink} {n : Nat}

/-- With room for all outputs a limit makes no difference. -/
theorem deliverLines_fits (ls : List Bytes) (hk : k.room = some n) (st : σ)
    (h : (p.substituteLines ls st).1.1.flatten.length ≤ n) :
    p.deliverLines failure ls k st =
      let t := p.substituteLines ls st
      (({ written := k.written ++ t.1.1.flatten
          room := some (n - t.1.1.flatten.length)
          flushes := k.flushes + t.1.1.length }, ending t.1.2 failure), t.2) := by
  induction ls generalizing k n st with
  | nil => simp [deliverLines, pure, StateT.pure, ← hk]
  | cons line more ih =>
    rcases hrun : (p.substituteBytes line).run st with ⟨e | out, st'⟩
    · rw [deliverLines_stopped p (deliver_error p hrun k), substituteLines_cons_error p hrun]
      simp [ending, ← hk]
    · rw [substituteLines_cons_ok p hrun] at h ⊢
      rw [List.flatten_cons, List.length_append] at h
      have hdeliver := deliver_fits p hk hrun (by omega)
      have hmore : (p.substituteLines more st').1.1.flatten.length ≤ n - out.length := by omega
      rw [deliverLines_passed p hdeliver, ih rfl st' hmore]
      simp only [List.flatten_cons, List.length_append, List.length_cons, List.append_assoc,
        Nat.sub_sub, Nat.add_assoc, Nat.add_comm 1]

/-- Without it the outputs are cut where the room ends: those that fit are flushed, and no line
is looked at behind the first whose output does not fit. -/
theorem deliverLines_refused (ls : List Bytes) (hk : k.room = some n) (st : σ)
    (h : n < (p.substituteLines ls st).1.1.flatten.length) :
    p.deliverLines failure ls k st =
      let outs := (p.substituteLines ls st).1.1
      (({ written := k.written ++ outs.flatten.take n
          room := some 0
          flushes := k.flushes + fitting n outs }, .error (.io Sink.refusal)),
        (p.substituteLines (ls.take (fitting n outs + 1)) st).2) := by
  induction ls generalizing k n st with
  | nil => simp at h
  | cons line more ih =>
    rcases hrun : (p.substituteBytes line).run st with ⟨e | out, st'⟩
    · rw [substituteLines_cons_error p hrun] at h
      simp at h
    · rw [substituteLines_cons_ok p hrun] at h ⊢
      rw [List.flatten_cons, List.length_append] at h
      simp only [List.flatten_cons, fitting]
      by_cases hout : out.length ≤ n
      · have hdeliver := deliver_fits p hk hrun hout
        have hmore : n - out.length < (p.substituteLines more st').1.1.flatten.length := by omega
        rw [deliverLines_passed p hdeliver, ih rfl st' hmore, if_pos hout, List.take_succ_cons,
          substituteLines_cons_ok p hrun, List.take_append, List.take_of_length_le hout]
        simp only [List.append_assoc, Nat.add_assoc, Nat.add_comm 1]
      · have hover : n < out.length := Nat.lt_of_not_le hout
        rw [deliverLines_stopped p (deliver_refused p hk hrun hover), if_neg hout,
          List.take_append_of_le_length (Nat.le_of_lt hover), List.take_succ_cons,
          substituteLines_cons_ok p hrun]
        rfl

end Run

/-! ### With and without a limit -/

variable (p : Processor σ)

/-- A substitution that got as far as some outputs got as far on the lines of these. -/
theorem substituteLines_take {ls : List Bytes} {st : σ} {i : Nat}
    (h : i ≤ (p.substituteLines ls st).1.1.length) :
    (p.substituteLines (ls.take i) st).1 = ((p.substituteLines ls st).1.1.take i, none) := by
  induction ls generalizing st i with
  | nil => simp
  | cons line more ih =>
    cases i with
    | zero => simp
    | succ i =>
      rcases hrun : (p.substituteBytes line).run st with ⟨e | out, st'⟩
      · rw [substituteLines_cons_error p hrun] at h
        simp at h
      · rw [substituteLines_cons_ok p hrun] at h ⊢
        rw [List.take_succ_cons, substituteLines_cons_ok p hrun]
        rw [List.length_cons, Nat.succ_le_succ_iff] at h
        simp only [ih h, List.take_succ_cons]

/-- A run that is cut short has shown the renderer its lines up to the one whose output is cut. -/
theorem shown_deliverLines_refused (snapshot : Snapshot) (render : Renderer σ) (mode : Mode)
    (debug : Bool) (failure : Option String) (ls : List Bytes) {k : Sink} {n : Nat}
    (hk : k.room = some n) (st : σ) (seen : List (String × Bool)) :
    let outs := ((ofSnapshot snapshot render mode debug).substituteLines ls st).1.1
    n < outs.flatten.length →
      ((ofSnapshot snapshot render.noted mode debug).deliverLines failure ls k (st, seen)).2.2 =
        seen ++ (ls.take (fitting n outs + 1)).flatMap (shown snapshot mode debug) := by
  intro outs hover
  -- The notes change neither the outputs nor what fits of them.
  have houts : ((ofSnapshot snapshot render.noted mode debug).substituteLines ls
      (st, seen)).1.1 = outs := by rw [substituteLines_noted]
  rw [deliverLines_refused _ _ ls hk (st, seen) (by rw [houts]; exact hover), houts]
  have hlast : fitting n outs + 1 ≤ outs.length := fitting_lt_length hover
  have hlength : (outs.take (fitting n outs + 1)).length = fitting n outs + 1 := by
    rw [List.length_take, Nat.min_eq_left hlast]
  have htake := substituteLines_take (ofSnapshot snapshot render mode debug) hlast
  simp only [substituteLines_noted, htake, hlength, outs, List.take_take]
  rw [Nat.min_eq_right (Nat.le_succ _)]

/-- **A limit cuts a run short and changes nothing else.** Where the whole output fits, a run
into a sink with a limit is the run into one without: it writes and flushes as much and ends
alike. Where it does not, the start of the output is written up to the limit, the sink is flushed
once for each line at the front whose output fits together with those before it, the run ends
with the sink's refusal, and it leaves the state behind that the substitution of these lines and
of the next one leaves: no other line has been substituted or shown to the renderer. -/
theorem processLines_limited (reader : LineReader) (hchunk : 0 < reader.source.chunk)
    (hcapacity : 0 < reader.capacity) (limit : Nat) (st : σ) :
    let ls := (lines (reader.buffer ++ reader.source.data)).1
    let outs := (p.substituteLines ls st).1.1
    let whole := p.processLines reader {} st
    let limited := p.processLines reader { room := some limit } st
    (whole.1.1.written = outs.flatten ∧ whole.1.1.flushes = outs.length) ∧
      (∀ i ≤ outs.length, i ≤ fitting limit outs ↔ (outs.take i).flatten.length ≤ limit) ∧
      if whole.1.1.written.length ≤ limit then
        limited.1.1.written = whole.1.1.written ∧ limited.1.1.flushes = whole.1.1.flushes ∧
          limited.1.2 = whole.1.2 ∧ limited.2 = whole.2
      else
        limited.1.1.written = whole.1.1.written.take limit ∧
          limited.1.1.flushes = fitting limit outs ∧ fitting limit outs < outs.length ∧
          limited.1.2 = .error (.io Sink.refusal) ∧
          limited.2 = (p.substituteLines (ls.take (fitting limit outs + 1)) st).2 ∧
          ∀ (snapshot : Snapshot) (render : Renderer σ) (mode : Mode) (debug : Bool)
            (seen : List (String × Bool)), p = ofSnapshot snapshot render mode debug →
            ((ofSnapshot snapshot render.noted mode debug).processLines reader
                { room := some limit } (st, seen)).2.2 =
              seen ++ (ls.take (fitting limit outs + 1)).flatMap (shown snapshot mode debug) := by
  intro ls outs whole limited
  have hoffers : reader.Offers (reader.buffer ++ reader.source.data) reader.source.failure :=
    ⟨rfl, rfl, hchunk, hcapacity⟩
  have hwhole : whole = _ := processLines_offers p hoffers rfl st
  have hlimited : limited = p.deliverLines reader.source.failure ls { room := some limit } st :=
    congrFun (processLines_delivers p hoffers _) st
  have hwritten : whole.1.1.written = outs.flatten := by
    rw [hwhole]
    exact List.nil_append _
  have hflushes : whole.1.1.flushes = outs.length := by
    rw [hwhole]
    exact Nat.zero_add _
  refine ⟨⟨hwritten, hflushes⟩, fun i hi => le_fitting_iff limit hi, ?_⟩
  split
  · next hfits =>
    rw [hwritten] at hfits
    rw [hlimited, deliverLines_fits p _ ls rfl st hfits, hwhole]
    exact ⟨rfl, rfl, rfl, rfl⟩
  · next hover =>
    rw [hwritten] at hover
    have hover : limit < outs.flatten.length := Nat.lt_of_not_le hover
    have hlast := fitting_lt_length hover
    rw [hlimited, deliverLines_refused p _ ls rfl st hover, hwritten]
    refine ⟨List.nil_append _, Nat.zero_add _, hlast, rfl, rfl, ?_⟩
    rintro snapshot render mode debug seen rfl
    rw [processLines_delivers _ hoffers]
    exact shown_deliverLines_refused snapshot render mode debug _ ls rfl st seen hover

/-- Room for the first line, and for the second, which becomes nothing; the third is cut before its
first byte. The fourth, which would be refused by the renderer, is never shown to it. -/
theorem processLines_limited_at_line_end :
    0 < 1 ∧ 0 < 2 ∧
      let reader : LineReader :=
        { source :=
            { data := [0x61, 0x0A, 0x62, 0x0A, 0x63, 0x0A, 0x64, 0x0A]
              chunk := 1
              failure := some "gone" }
          capacity := 2 }
      let snapshot : Snapshot := {}
      let render : Renderer Nat := fun template _ calls =>
        (if calls = 1 then .ok "" else if calls = 3 then .error (.io "once") else .ok template,
          calls + 1)
      let plain := ofSnapshot snapshot render .both true
      let noted := ofSnapshot snapshot render.noted .both true
      let limited := plain.processLines reader { room := some 2 } 0
      (plain.processLines reader {} 0).1.1.written = [0x61, 0x0A, 0x63, 0x0A] ∧
        limited.1.1.written = [0x61, 0x0A] ∧ limited.1.1.flushes = 2 ∧
        limited.1.2 = .error (.io "write failed") ∧ limited.2 = 3 ∧
        (noted.processLines reader { room := some 2 } (0, [])).2.2 =
          [("a\n", true), ("b\n", true), ("c\n", true)] := by
  refine ⟨by decide, by decide, ?_⟩
  intro reader snapshot render plain noted limited
  obtain ⟨⟨hwhole, -⟩, -, hrun⟩ :=
    processLines_limited plain reader (by decide) (by decide) 2 0
  have hwritten : (plain.processLines reader {} 0).1.1.written = [0x61, 0x0A, 0x63, 0x0A] :=
    hwhole.trans (by cbv)
  rw [hwritten, if_neg (by decide)] at hrun
  obtain ⟨hcut, hflushes, -, hend, hstate, hshown⟩ := hrun
  exact ⟨hwritten, hcut.trans (by cbv), hflushes.trans (by cbv), hend, hstate.trans (by cbv),
    (hshown snapshot render .both true [] rfl).trans (by cbv)⟩

end Stencil.Processor
