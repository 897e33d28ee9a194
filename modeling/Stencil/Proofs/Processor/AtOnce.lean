import Stencil.Proofs.Processor.Lines

/-! A pass at once.

The whole input is read before anything is done with it, and the output is there as a whole
before anything is written. So a pass that fails before its output is complete leaves the sink as
it was (`obstacle` says what it fails with), and after that only the sink can refuse: it has taken
the start of the output then, as far as there was room, and has not been flushed
(`processAll_all_or_nothing`). -/
namespace Stencil.Processor
open Text.Utf8

variable {σ : Type}

/-! ### Delivery into a sink with a limit -/

/-- Writing leaves the state of a pass alone. -/
theorem deliver_state (p : Processor σ) (bs : Bytes) (k : Sink) (st : σ) :
    (p.deliver bs k st).2 = ((p.substituteBytes bs).run st).2 := by
  rcases hrun : (p.substituteBytes bs).run st with ⟨e | out, st'⟩
  · rw [deliver_error p hrun]
  · rw [deliver_output p hrun]

section Limit
variable (p : Processor σ) {bs out : Bytes} {st st' : σ} {k : Sink} {n : Nat}

/-- What fits is taken as a whole, and the sink is flushed. -/
theorem deliver_fits (hk : k.room = some n) (h : (p.substituteBytes bs).run st = (.ok out, st'))
    (hn : out.length ≤ n) :
    p.deliver bs k st =
      (({ written := k.written ++ out
          room := some (n - out.length)
          flushes := k.flushes + 1 }, .ok ()), st') := by
  rw [deliver_output p h]
  simp only [Sink.write, hk, hn, List.take_of_length_le, decide_true]
  rfl

/-- Of what does not fit the start is taken, and the sink is not flushed. -/
theorem deliver_refused (hk : k.room = some n) (h : (p.substituteBytes bs).run st = (.ok out, st'))
    (hn : n < out.length) :
    p.deliver bs k st =
      (({ written := k.written ++ out.take n
          room := some 0
          flushes := k.flushes }, .error (.io Sink.refusal)), st') := by
  have hfull : n - out.length = 0 := by omega
  have hnot : ¬ out.length ≤ n := by omega
  rw [deliver_output p h]
  simp only [Sink.write, hk, hfull, hnot, decide_false]

end Limit

/-! ### Reading -/

theorem processAll_unread (p : Processor σ) {source : Source} (hchunk : 0 < source.chunk)
    {reason : String} (h : source.failure = some reason) (k : Sink) (st : σ) :
    p.processAll source k st = ((k, .error (.io reason)), st) := by
  rw [processAll, Source.readAll_eq source hchunk, h]
  rfl

theorem processAll_read (p : Processor σ) {source : Source} (hchunk : 0 < source.chunk)
    (h : source.failure = none) (k : Sink) (st : σ) :
    p.processAll source k st = p.deliver source.data k st := by
  rw [processAll, Source.readAll_eq source hchunk, h]

/-! ### The output -/

variable (snapshot : Snapshot) (render : Renderer σ) (mode : Mode) (debug : Bool)

/-- Why some bytes have no output: they have to be rendered but are no text, or the renderer
fails on the template that they are. -/
def obstacle (bs : Bytes) (st : σ) : Option Error :=
  if mode.template then
    match decodeText bs with
    | .error flaw => some (.utf8 flaw)
    | .ok s =>
      match (render (template snapshot mode s) debug st).1 with
      | .error e => some e
      | .ok _ => none
  else none

/-- An obstacle is what bytes fail with, and where there is none they have an output. -/
theorem obstacle_eq (bs : Bytes) (st : σ) :
    obstacle snapshot render mode debug bs st =
      match (((ofSnapshot snapshot render mode debug).substituteBytes bs).run st).1 with
      | .error e => some e
      | .ok _ => none := by
  cases ht : mode.template with
  | false =>
    rw [substituteBytes_plain (ofSnapshot snapshot render mode debug) ht, obstacle,
      if_neg (by rw [ht]; decide)]
    rfl
  | true =>
    rw [substituteBytes_rendered (ofSnapshot snapshot render mode debug) ht, obstacle, if_pos ht]
    cases decodeText bs with
    | error flaw => rfl
    | ok s =>
      simp only [run_map, substitute_ofSnapshot, ht, if_true, ExceptT.run_mk]
      cases (render (template snapshot mode s) debug st).1 <;> rfl

/-- Bytes with an obstacle leave the sink alone; the others are delivered as far as there is room. -/
theorem deliver_obstacle {k : Sink} {n : Nat} (hk : k.room = some n) (bs : Bytes) (st : σ) :
    let plain := ofSnapshot snapshot render mode debug
    match obstacle snapshot render mode debug bs st with
    | some e => (plain.deliver bs k st).1 = (k, .error e)
    | none => ∃ out st', (plain.substituteBytes bs).run st = (.ok out, st') ∧
      plain.deliver bs k st =
        if out.length ≤ n then
          (({ written := k.written ++ out
              room := some (n - out.length)
              flushes := k.flushes + 1 }, .ok ()), st')
        else
          (({ written := k.written ++ out.take n
              room := some 0
              flushes := k.flushes }, .error (.io Sink.refusal)), st') := by
  intro plain
  rw [obstacle_eq]
  rcases hrun : (plain.substituteBytes bs).run st with ⟨e | out, st'⟩
  · exact congrArg Prod.fst (deliver_error plain hrun k)
  · refine ⟨out, st', rfl, ?_⟩
    split
    · next hfits => exact deliver_fits plain hk hrun hfits
    · next hover => exact deliver_refused plain hk hrun (Nat.lt_of_not_le hover)

/-- **A pass at once is all or nothing, up to its sink.** Its source may hand out its bytes in any
portions. If it fails, that is all that happens: the renderer is shown nothing and the sink is left
alone. So it is where an obstacle keeps the input from having an output. Otherwise the output is
written: if there is room for it, as a whole and with one flush; if not, as far as there is room,
with no flush and the sink's refusal. -/
theorem processAll_all_or_nothing (source : Source) (hchunk : 0 < source.chunk) (limit : Nat)
    (st : σ) :
    let sink : Sink := { room := some limit }
    let plain := ofSnapshot snapshot render mode debug
    let noted := ofSnapshot snapshot render.noted mode debug
    (∀ gathered, source.Gathers gathered ↔ gathered = source.readAll) ∧
      match source.failure with
      | some reason =>
        plain.processAll source sink st = ((sink, .error (.io reason)), st) ∧
          noted.processAll source sink (st, []) = ((sink, .error (.io reason)), (st, []))
      | none =>
        (noted.processAll source sink (st, [])).2.2 = shown snapshot mode debug source.data ∧
          match obstacle snapshot render mode debug source.data st with
          | some e => (plain.processAll source sink st).1 = (sink, .error e)
          | none => ∃ out st', (plain.substituteBytes source.data).run st = (.ok out, st') ∧
            plain.processAll source sink st =
              if out.length ≤ limit then
                (({ written := out, room := some (limit - out.length), flushes := 1 }, .ok ()), st')
              else
                (({ written := out.take limit, room := some 0, flushes := 0 },
                  .error (.io Sink.refusal)), st') := by
  intro sink plain noted
  refine ⟨source.gathers_iff hchunk, ?_⟩
  cases hf : source.failure with
  | some reason =>
    exact ⟨processAll_unread plain hchunk hf sink st, processAll_unread noted hchunk hf sink _⟩
  | none =>
    simp only [processAll_read _ hchunk hf]
    refine ⟨?_, deliver_obstacle snapshot render mode debug rfl source.data st⟩
    rw [deliver_state, substituteBytes_noted, List.nil_append]

/-- Six bytes come out where there is room for four, and the cut falls inside a character. -/
theorem processAll_all_or_nothing_cut :
    let source : Source := { data := [0x24, 0x7B, 0x41, 0x7D, 0x21], chunk := 2 }
    let snapshot : Snapshot := { environment := [("A", "é")] }
    let render : Renderer Nat := fun template _ calls => (.ok (template ++ template), calls + 1)
    0 < source.chunk ∧
      (∀ gathered, source.Gathers gathered ↔ gathered = .ok source.data) ∧
      ((ofSnapshot snapshot render.noted .both true).processAll source { room := some 4 }
        (0, [])).2.2 = [("é!", true)] ∧
      (ofSnapshot snapshot render .both true).processAll source { room := some 4 } 0 =
        (({ written := [0xC3, 0xA9, 0x21, 0xC3], room := some 0, flushes := 0 },
          .error (.io "write failed")), 1) := by
  intro source snapshot render
  have hchunk : 0 < source.chunk := by decide
  obtain ⟨hgathers, hshown, hout⟩ :=
    processAll_all_or_nothing snapshot render .both true source hchunk 4 0
  have hobstacle : obstacle snapshot render .both true source.data 0 = none := by cbv
  rw [hobstacle] at hout
  obtain ⟨out, st', hrun, hall⟩ := hout
  have heq : ((ofSnapshot snapshot render .both true).substituteBytes source.data).run 0 =
      (.ok [0xC3, 0xA9, 0x21, 0xC3, 0xA9, 0x21], 1) := by cbv
  obtain ⟨hbytes, rfl⟩ := Prod.mk.inj (hrun.symm.trans heq)
  obtain rfl := Except.ok.inj hbytes
  have hread : source.readAll = .ok source.data := Source.readAll_eq source hchunk
  exact ⟨hchunk, hread ▸ hgathers, hshown.trans (by cbv), hall⟩

end Stencil.Processor
