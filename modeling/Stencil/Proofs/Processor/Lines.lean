import Mathlib
import Stencil.Proofs.Processor.Entry
import Stencil.Proofs.Source

/-! A pass line by line.

`substituteLines` is the pass without reading and writing: lines become outputs, one after the
other, until one fails. `processLines_offers` says what the loop makes of it: whatever the
source hands out at once, the sink takes exactly these outputs and is flushed behind each. What
stands behind the last newline takes no part in it. -/
namespace Stencil.Processor
open Text.Utf8 (Bytes)
open LineReader

variable {σ : Type}

/-- What lines become in order, up to the first that fails, and its failure. -/
def substituteLines (p : Processor σ) : List Bytes → StateM σ (List Bytes × Option Error)
  | [] => pure ([], none)
  | line :: more => do
    match ← (p.substituteBytes line).run with
    | .error e => pure ([], some e)
    | .ok out =>
      let (outs, e) ← p.substituteLines more
      pure (out :: outs, e)

/-- How a run ends: with the failure of a line, or else as its input does. -/
def ending : Option Error → Option String → Except Error Unit
  | some e, _ => .error e
  | none, some reason => .error (.io reason)
  | none, none => .ok ()

variable (p : Processor σ)

@[simp]
theorem substituteLines_nil (st : σ) : p.substituteLines [] st = (([], none), st) := rfl

theorem substituteLines_cons_error {line : Bytes} {st st' : σ} {e : Error}
    (h : (p.substituteBytes line).run st = (.error e, st')) (more : List Bytes) :
    p.substituteLines (line :: more) st = (([], some e), st') := by
  simp only [substituteLines, bind, StateT.bind]
  rw [h]
  rfl

theorem substituteLines_cons_ok {line out : Bytes} {st st' : σ}
    (h : (p.substituteBytes line).run st = (.ok out, st')) (more : List Bytes) :
    p.substituteLines (line :: more) st =
      let t := p.substituteLines more st'
      ((out :: t.1.1, t.1.2), t.2) := by
  simp only [substituteLines, bind, StateT.bind]
  rw [h]
  rfl

/-- All lines have an output, or one of them has none and a failure instead. -/
theorem substituteLines_length (ls : List Bytes) (st : σ) :
    let t := p.substituteLines ls st
    (t.1.2 = none ∧ t.1.1.length = ls.length) ∨
      (∃ e, t.1.2 = some e) ∧ t.1.1.length < ls.length := by
  induction ls generalizing st with
  | nil => exact .inl ⟨rfl, rfl⟩
  | cons line more ih =>
    rcases hrun : (p.substituteBytes line).run st with ⟨e | out, st'⟩
    · rw [substituteLines_cons_error p hrun]
      exact .inr ⟨⟨e, rfl⟩, Nat.zero_lt_succ _⟩
    · rw [substituteLines_cons_ok p hrun]
      rcases ih st' with ⟨hnone, hlen⟩ | ⟨hsome, hlen⟩
      · exact .inl ⟨hnone, congrArg (· + 1) hlen⟩
      · exact .inr ⟨hsome, Nat.succ_lt_succ hlen⟩

/-! ### One turn of the loop -/

theorem deliver_error {bs : Bytes} {st st' : σ} {e : Error}
    (h : (p.substituteBytes bs).run st = (.error e, st')) (k : Sink) :
    p.deliver bs k st = ((k, .error e), st') := by
  simp only [deliver, bind, StateT.bind]
  rw [h]
  rfl

/-- An output is written, and then the sink is flushed unless it refuses. -/
theorem deliver_output {bs out : Bytes} {st st' : σ}
    (h : (p.substituteBytes bs).run st = (.ok out, st')) (k : Sink) :
    p.deliver bs k st =
      (match k.write out with
        | (k, true) => (k.flush, .ok ())
        | (k, false) => (k, .error (.io Sink.refusal)), st') := by
  simp only [deliver, bind, StateT.bind]
  rw [h]
  rcases hwrite : k.write out with ⟨k', taken | taken⟩ <;>
    · simp only [hwrite]
      rfl

theorem deliver_ok {bs out : Bytes} {st st' : σ} {k : Sink} (hk : k.room = none)
    (h : (p.substituteBytes bs).run st = (.ok out, st')) :
    p.deliver bs k st =
      (({ k with written := k.written ++ out, flushes := k.flushes + 1 }, .ok ()), st') := by
  rw [deliver_output p h, Sink.write, hk]
  rfl

/-- A turn by what is read, without the facts that the loop ends by. -/
theorem processLines_eq (r : LineReader) (k : Sink) :
    p.processLines r k =
      match r.readLine with
      | .error reason => pure (k, .error (.io reason))
      | .ok (line, after) =>
        if line.getLast? = some newline then
          p.deliver line k >>= fun
            | (k, .error e) => pure (k, .error e)
            | (k, .ok ()) => p.processLines after k
        else pure (k, .ok ()) := by
  rw [processLines]
  split
  · next reason hr => rw [hr]
  · next line after hr =>
    rw [hr]
    by_cases hlast : line.getLast? = some newline
    · refine (dif_pos hlast).trans (Eq.trans ?_ (if_pos hlast).symm)
      refine congrArg _ (funext fun delivered => ?_)
      rcases delivered with ⟨k, _ | _⟩ <;> rfl
    · exact (dif_neg hlast).trans (if_neg hlast).symm

variable {r after : LineReader} {k : Sink}

theorem processLines_tail {tail : Bytes} (h : r.readLine = .ok (tail, after))
    (ht : newline ∉ tail) : p.processLines r k = pure (k, .ok ()) := by
  have hlast : ¬ tail.getLast? = some newline := fun hl => ht (List.mem_of_getLast? hl)
  rw [processLines_eq, h]
  exact if_neg hlast

theorem processLines_failure {reason : String} (h : r.readLine = .error reason) :
    p.processLines r k = pure (k, .error (.io reason)) := by
  rw [processLines_eq, h]

theorem processLines_line {body : Bytes} (h : r.readLine = .ok (body ++ [newline], after)) :
    p.processLines r k = p.deliver (body ++ [newline]) k >>= fun
      | (k, .error e) => pure (k, .error e)
      | (k, .ok ()) => p.processLines after k := by
  rw [processLines_eq, h]
  exact if_pos List.getLast?_concat

/-! ### The whole loop -/

/-- Delivers lines in order as long as that goes well, and then ends as the input does. -/
def deliverLines (p : Processor σ) (failure : Option String) :
    List Bytes → Sink → StateM σ (Sink × Except Error Unit)
  | [], k => pure (k, ending none failure)
  | line :: more, k => p.deliver line k >>= fun
      | (k, .error e) => pure (k, .error e)
      | (k, .ok ()) => p.deliverLines failure more k

/-- **What a line reader offers is what counts**: the lines in it are delivered one after the
other, into whatever sink. -/
theorem processLines_delivers {s : Bytes} {failure : Option String} (hr : r.Offers s failure)
    (k : Sink) : p.processLines r k = p.deliverLines failure (lines s).1 k := by
  generalize hls : (lines s).1 = ls
  -- Every turn takes one line off the list.
  induction ls generalizing r s k with
  | nil =>
    have hanswer := readLine_answers hr
    generalize hl : r.readLine = answer at hanswer
    cases hanswer with
    | line hbody _ =>
      rw [lines_line hbody] at hls
      cases hls
    | tail hnone hfailure =>
      rw [processLines_tail p hl hnone, hfailure]
      rfl
    | failed _ hfailure =>
      rw [processLines_failure p hl, hfailure]
      rfl
  | cons line more ih =>
    have hanswer := readLine_answers hr
    generalize hl : r.readLine = answer at hanswer
    cases hanswer with
    | line hbody hafter =>
      rw [lines_line hbody] at hls
      obtain ⟨rfl, hmore⟩ := List.cons.inj hls
      rw [processLines_line p hl, deliverLines]
      refine congrArg _ (funext fun delivered => ?_)
      rcases delivered with ⟨k, _ | _⟩
      · rfl
      · exact ih hafter k hmore
    | tail hnone _ =>
      rw [lines_of_not_mem hnone] at hls
      cases hls
    | failed hnone _ =>
      rw [lines_of_not_mem hnone] at hls
      cases hls

/-- A line that is not delivered is the last one. -/
theorem deliverLines_stopped {failure : Option String} {line : Bytes} {k k' : Sink} {e : Error}
    {st st' : σ} (h : p.deliver line k st = ((k', .error e), st')) (more : List Bytes) :
    p.deliverLines failure (line :: more) k st = ((k', .error e), st') := by
  simp only [deliverLines, bind, StateT.bind, h]
  rfl

/-- Behind a line that is delivered come the others. -/
theorem deliverLines_passed {failure : Option String} {line : Bytes} {k k' : Sink} {st st' : σ}
    (h : p.deliver line k st = ((k', .ok ()), st')) (more : List Bytes) :
    p.deliverLines failure (line :: more) k st = p.deliverLines failure more k' st' := by
  simp only [deliverLines, bind, StateT.bind, h]

/-- A sink that takes everything gets all outputs, with a flush behind each; then the run ends
with the failure of a line, or as the input does. -/
theorem deliverLines_unlimited (failure : Option String) (ls : List Bytes) {k : Sink}
    (hk : k.room = none) (st : σ) :
    p.deliverLines failure ls k st =
      let t := p.substituteLines ls st
      (({ k with
          written := k.written ++ t.1.1.flatten
          flushes := k.flushes + t.1.1.length }, ending t.1.2 failure), t.2) := by
  induction ls generalizing k st with
  | nil => simp [deliverLines, pure, StateT.pure]
  | cons line more ih =>
    rcases hrun : (p.substituteBytes line).run st with ⟨e | out, st'⟩
    · rw [deliverLines_stopped p (deliver_error p hrun k), substituteLines_cons_error p hrun]
      simp [ending]
    · rw [deliverLines_passed p (deliver_ok p hk hrun), substituteLines_cons_ok p hrun]
      have hnext := ih (k := { k with written := k.written ++ out, flushes := k.flushes + 1 }) hk st'
      refine hnext.trans ?_
      simp only [List.flatten_cons, List.length_cons, List.append_assoc, Nat.add_assoc,
        Nat.add_comm 1]

/-- The lines in what a line reader offers are substituted in order, the outputs are written,
each with a flush, and the run ends with the failure of a line or as the input does. -/
theorem processLines_offers {s : Bytes} {failure : Option String} (hr : r.Offers s failure)
    (hk : k.room = none) (st : σ) :
    p.processLines r k st =
      let t := p.substituteLines (lines s).1 st
      (({ k with
          written := k.written ++ t.1.1.flatten
          flushes := k.flushes + t.1.1.length }, ending t.1.2 failure), t.2) := by
  rw [processLines_delivers p hr, deliverLines_unlimited p failure _ hk]

/-! ### What the renderer is shown -/

variable (snapshot : Snapshot) (render : Renderer σ) (mode : Mode) (debug : Bool)

/-- A renderer that takes notes is shown every line up to the first that fails, and no other. -/
theorem substituteLines_noted (ls : List Bytes) (st : σ) (seen : List (String × Bool)) :
    (ofSnapshot snapshot render.noted mode debug).substituteLines ls (st, seen) =
      let t := (ofSnapshot snapshot render mode debug).substituteLines ls st
      (t.1, (t.2, seen ++ (ls.take (t.1.1.length + 1)).flatMap (shown snapshot mode debug))) := by
  induction ls generalizing st seen with
  | nil => simp
  | cons line more ih =>
    have hnoted := substituteBytes_noted snapshot render mode debug line st seen
    rcases hrun : ((ofSnapshot snapshot render mode debug).substituteBytes line).run st with
      ⟨e | out, st'⟩
    · rw [hrun] at hnoted
      rw [substituteLines_cons_error _ hrun, substituteLines_cons_error _ hnoted]
      simp
    · rw [hrun] at hnoted
      rw [substituteLines_cons_ok _ hrun, substituteLines_cons_ok _ hnoted, ih]
      simp [List.append_assoc]

/-- **A pass line by line is a pass over the lines**, however the source hands them out and
whether or not it fails in the end. The outputs of the lines before the first failure are written,
with one flush for each; the renderer is shown those lines and the failing one, once each and in
order; and the run ends with that failure, or else as the source does. -/
theorem processLines_reads_lines (data : Bytes) (failure : Option String) (chunk capacity : Nat)
    (hchunk : 0 < chunk) (hcapacity : 0 < capacity) (st : σ) :
    let reader : LineReader := { source := { data, chunk, failure }, capacity }
    let plain := ofSnapshot snapshot render mode debug
    let noted := ofSnapshot snapshot render.noted mode debug
    let t := plain.substituteLines (lines data).1 st
    plain.processLines reader {} st =
        (({ written := t.1.1.flatten, flushes := t.1.1.length }, ending t.1.2 failure), t.2) ∧
      (t.1.2 = none ∧ t.1.1.length = (lines data).1.length ∨
        (∃ e, t.1.2 = some e) ∧ t.1.1.length < (lines data).1.length) ∧
      (noted.processLines reader {} (st, [])).2.2 =
        ((lines data).1.take (t.1.1.length + 1)).flatMap (shown snapshot mode debug) := by
  intro reader plain noted t
  have hoffers : reader.Offers data failure := ⟨rfl, rfl, hchunk, hcapacity⟩
  refine ⟨?_, substituteLines_length plain _ st, ?_⟩
  · rw [processLines_offers plain hoffers rfl]
    simp [t]
  · rw [processLines_offers noted hoffers rfl, substituteLines_noted]
    simp [t, plain]

/-- Single bytes through a buffer of two: the second line is refused, the third never shown, the
bytes behind it are not read, and the failure of the source does not come to light. -/
theorem processLines_reads_lines_refused :
    0 < 1 ∧ 0 < 2 ∧
      let reader : LineReader :=
        { source :=
            { data := [0x24, 0x7B, 0x41, 0x7D, 0x0A, 0x62, 0x0A, 0x0A, 0x63]
              chunk := 1
              failure := some "gone" }
          capacity := 2 }
      let snapshot : Snapshot := { environment := [("A", "x")] }
      let render : Renderer Nat := fun template _ calls =>
        (if calls = 0 then .ok template else .error (.io "once"), calls + 1)
      (ofSnapshot snapshot render .both true).processLines reader {} 0 =
          (({ written := [0x78, 0x0A], flushes := 1 }, .error (.io "once")), 2) ∧
        ((ofSnapshot snapshot render.noted .both true).processLines reader {} (0, [])).2.2 =
          [("x\n", true), ("b\n", true)] := by
  refine ⟨by decide, by decide, ?_⟩
  intro reader snapshot render
  obtain ⟨hplain, -, hnoted⟩ := processLines_reads_lines snapshot render .both true
    reader.source.data (some "gone") 1 2 (by decide) (by decide) 0
  exact ⟨hplain.trans (by cbv), hnoted.trans (by cbv)⟩

end Stencil.Processor
