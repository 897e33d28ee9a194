import Stencil.Expansion.Scanner
import Stencil.Mode
import Stencil.Sink
import Stencil.Snapshot
import Stencil.Source

/-! One pass over an input: references are expanded, then the result is rendered as a template.

Either stage can be off. What names stand for and how a template is rendered are parameters that
may keep a state, so that a pass can be watched. Input is taken as a text, as bytes, or from a
source into a sink: at once, or line by line. Bytes have to be a text only if they are
rendered; a line counts only with its newline. -/
namespace Stencil
open Text.Utf8 (Bytes)

/-- What a template and the debug flag yield. -/
abbrev Renderer (σ : Type) := (template : String) → (debug : Bool) → StateM σ (Except Error String)

/-- What a pass does. -/
structure Processor (σ : Type) where
  lookup : Expansion.Lookup σ
  render : Renderer σ
  mode : Mode
  debug : Bool := false

/-- Computations of a pass: the state outlives a failure. -/
abbrev Pass (σ : Type) := ExceptT Error (StateM σ)

namespace Processor
variable {σ : Type}

/-- A pass in which names stand for the variables of a snapshot. -/
def ofSnapshot (s : Snapshot) (render : Renderer σ) (mode : Mode) (debug : Bool) : Processor σ :=
  { lookup := fun name => pure (s.getenv name), render, mode, debug }

/-- What a text becomes. -/
def substitute (p : Processor σ) (s : String) : Pass σ String := do
  let expanded ←
    if p.mode.expand then Expansion.ExpandedText.text <$> (Expansion.expand p.lookup s : StateM σ _)
    else pure s
  if p.mode.template then ExceptT.mk (p.render expanded p.debug) else return expanded

/-- What bytes become. -/
def substituteBytes (p : Processor σ) (bs : Bytes) : Pass σ Bytes := do
  if p.mode.template then
    match Text.Utf8.decodeText bs with
    | .error flaw => throw (.utf8 flaw)
    | .ok s => return Text.Utf8.encodeText (← p.substitute s)
  else
    let e ← (Expansion.expandBytes p.lookup bs : StateM σ _)
    return e.bytes

/-- Writes what bytes become, and flushes. -/
def deliver (p : Processor σ) (bs : Bytes) (k : Sink) : StateM σ (Sink × Except Error Unit) := do
  match ← (p.substituteBytes bs).run with
  | .error e => return (k, .error e)
  | .ok out =>
    match k.write out with
    | (k, true) => return (k.flush, .ok ())
    | (k, false) => return (k, .error (.io Sink.refusal))

/-- Sends a source through a pass at once. -/
def processAll (p : Processor σ) (s : Source) (k : Sink) :
    StateM σ (Sink × Except Error Unit) := do
  match s.readAll with
  | .error reason => return (k, .error (.io reason))
  | .ok bs => p.deliver bs k

/-- Sends a source through a pass line by line. -/
def processLines (p : Processor σ) (r : LineReader) (k : Sink) :
    StateM σ (Sink × Except Error Unit) := do
  match _h : r.readLine with
  | .error reason => return (k, .error (.io reason))
  | .ok (line, rest) =>
    if _hl : line.getLast? = some LineReader.newline then
      match ← p.deliver line k with
      | (k, .error e) => return (k, .error e)
      | (k, .ok ()) => processLines p rest k
    else return (k, .ok ())
  termination_by r.left
  decreasing_by
    have := LineReader.length_add_left_of_readLine _h
    have : line ≠ [] := by
      intro e
      simp [e] at _hl
    have := List.length_pos_iff.2 this
    omega

end Processor
end Stencil
