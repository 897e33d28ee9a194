import Stencil.Proofs.Expansion.Spans
import Stencil.Proofs.Processor.Whole

/-! What a value can reach.

A value takes the place of the reference that asked for it, and that is all it does: which bytes
are copied, which are dropped and which names are asked for is settled by the input before any
value is known. So references in a value are passed on as they are, and of two snapshots
only the variables that an input names can make a difference to it (`expansion_by_spans`). -/
namespace Stencil.Processor
open Text.Utf8 (Bytes lossyText)
open Expansion

variable {σ : Type}

/-- Values that are known beforehand are only looked up. -/
theorem askAll_stateless (f : String → String) (ns : List Bytes) :
    (askAll (fun name => pure (f name)) ns : StateM σ (List String)) =
      pure (ns.map fun name => f (lossyText name)) := by
  rw [askAll, List.mapM_pure]

/-- Expansion alone fills in the variables of its snapshot. -/
theorem substituteBytes_expandOnly (snapshot : Snapshot) (render : Renderer σ) (debug : Bool)
    (s : Bytes) (st : σ) :
    ((ofSnapshot snapshot render .expandOnly debug).substituteBytes s).run st =
      (.ok (fill (spans s) ((names (spans s)).map fun name => snapshot.getenv (lossyText name))),
        st) := by
  rw [run_substituteBytes_plain _ rfl, walk_spans]
  simp only [ofSnapshot, askAll_stateless, map_pure]
  rfl

/-- **The input alone decides what becomes of it.** Its bytes are those of its stretches, one
after the other. Whatever a lookup answers, and whatever it remembers, it is asked for the names
in the references, in order, and each answer is put out in the place of its reference, between
the literals as they are. So expansion makes no difference between snapshots that agree on these
names. -/
theorem expansion_by_spans (lookup : Lookup σ) (s : Bytes) (st : σ) :
    (spans s).flatMap Span.source = s ∧ (∀ span ∈ spans s, span.Proper) ∧
      Expanded.bytes <$> expandBytes lookup s =
        fill (spans s) <$> askAll lookup (names (spans s)) ∧
      asked lookup s st = (names (spans s)).map lossyText ∧
      ∀ (snapshot snapshot' : Snapshot) (render render' : Renderer σ) (debug debug' : Bool),
        (∀ name ∈ names (spans s),
          snapshot.getenv (lossyText name) = snapshot'.getenv (lossyText name)) →
        ((ofSnapshot snapshot render .expandOnly debug).substituteBytes s).run st =
          ((ofSnapshot snapshot' render' .expandOnly debug').substituteBytes s).run st := by
  refine ⟨source_spans s, spans_proper s, expandBytes_spans lookup s, asked_spans lookup s st, ?_⟩
  intro snapshot snapshot' render render' debug debug' hagree
  rw [substituteBytes_expandOnly, substituteBytes_expandOnly, List.map_congr_left hagree]

/-- An escape, a value that is a reference, the same name once more, one without a value, and
braces with nothing between or behind them; a variable that is not named makes no difference. -/
theorem expansion_by_spans_value_is_reference :
    let s : Bytes :=
      [0x24, 0x24, 0x7B, 0x24, 0x7B, 0x41, 0x7D, 0x24, 0x7B, 0x7D, 0x24, 0x7B, 0x41, 0x7D,
        0x24, 0x7B, 0x42, 0x7D, 0x24, 0x7B]
    let snapshot : Snapshot := { environment := [("A", "$\x7bC\x7d")] }
    let snapshot' : Snapshot := { environment := [("A", "$\x7bC\x7d"), ("C", "c")] }
    let render : Renderer Unit := fun template _ => pure (.ok template)
    .reference [0x41] ∈ spans s ∧ (Span.reference [0x41]).Proper ∧
      (∀ name ∈ names (spans s),
        snapshot.getenv (lossyText name) = snapshot'.getenv (lossyText name)) ∧
      asked (Lookup.pure snapshot.getenv) s () = ["A", "A", "B"] ∧
      ((ofSnapshot snapshot render .expandOnly false).substituteBytes s).run () =
        ((ofSnapshot snapshot' render .expandOnly true).substituteBytes s).run () ∧
      ((ofSnapshot snapshot render .expandOnly false).substituteBytes s).run () =
        (.ok [0x24, 0x7B, 0x24, 0x7B, 0x43, 0x7D, 0x24, 0x7B, 0x43, 0x7D], ()) := by
  intro s snapshot snapshot' render
  have hspans : spans s =
      [.literal [0x24], .escape, .literal [0x7B], .reference [0x41], .nameless, .reference [0x41],
        .reference [0x42], .unclosed] := by
    cbv
  have hmem : .reference [0x41] ∈ spans s := by
    rw [hspans]
    decide
  have hagree : ∀ name ∈ names (spans s),
      snapshot.getenv (lossyText name) = snapshot'.getenv (lossyText name) := by
    rw [hspans]
    decide
  obtain ⟨-, hproper, -, hasked, hsame⟩ :=
    expansion_by_spans (Lookup.pure snapshot.getenv) s ()
  refine ⟨hmem, hproper _ hmem, hagree, hasked.trans ?_, hsame _ _ _ _ _ _ hagree, by cbv⟩
  rw [hspans]
  decide

end Stencil.Processor
