import Stencil.Proofs.Expansion.Walk
import Stencil.Proofs.Watch

/-! Where each byte of an input goes.

`spans` cuts an input into stretches: literal runs, the dollars that escapes lose, references,
and what is left of references that are none. It looks at the input alone, and it loses nothing:
the stretches are the input (`source_spans`). `expandBytes_spans` says that this is all there is
to expansion: it asks for the names in the references, one after the other, and puts each
answer in the place of its reference. So what is asked never depends on what was answered,
and no answer is looked into. -/
namespace Stencil.Expansion
open Text.Utf8 (Bytes lossyText encodeText)

/-! ### Stretches of an input -/

/-- A stretch of an input, by what becomes of it. -/
inductive Span where
  /-- Bytes that are copied. -/
  | literal (bs : Bytes)
  /-- The dollar that an escape loses. -/
  | escape
  /-- A name with its dollar and braces. -/
  | reference (name : Bytes)
  /-- A dollar and two braces with no name between them. -/
  | nameless
  /-- A dollar and an opening brace that is never closed. -/
  | unclosed
  deriving DecidableEq, Repr

namespace Span

/-- The bytes of a stretch. -/
def source : Span → Bytes
  | literal bs => bs
  | escape => [dollar]
  | reference name => dollar :: opening :: (name ++ [closing])
  | nameless => [dollar, opening, closing]
  | unclosed => [dollar, opening]

/-- No literal is empty, and a name is what stands before the first closing brace. -/
def Proper : Span → Prop
  | literal bs => bs ≠ []
  | reference name => name ≠ [] ∧ closing ∉ name
  | _ => True

/-- What a dollar and an opening brace start, in front of `inner`. -/
def opened (inner : Bytes) : Span :=
  match (Expansion.reference inner).1 with
  | some name => reference name
  | none => if closing ∈ inner then nameless else unclosed

end Span

/-- Puts a byte in front, in the literal that stands there or in a new one. -/
def copied (b : UInt8) : List Span → List Span
  | .literal bs :: more => .literal (b :: bs) :: more
  | more => .literal [b] :: more

/-- The stretches of an input; `behind` says that a copied dollar stands before it. -/
def spansFrom (behind : Bool) : Bytes → List Span
  | [] => []
  | [b] => [.literal [b]]
  | b :: c :: rest =>
    if b = dollar ∧ c = opening then
      if behind then .escape :: copied opening (spansFrom false rest)
      else .opened rest :: spansFrom false (reference rest).2
    else copied b (spansFrom (b == dollar) (c :: rest))
  termination_by s => s.length
  decreasing_by
    · simp only [List.length_cons]
      omega
    · have := length_reference_le rest
      simp only [List.length_cons]
      omega
    · simp only [List.length_cons]
      omega

/-- The stretches of an input. -/
def spans (s : Bytes) : List Span := spansFrom false s

/-- The names in the references, in order. -/
def names : List Span → List Bytes
  | [] => []
  | .reference name :: more => name :: names more
  | _ :: more => names more

/-- The literals with the answers in the places of the references; all else is left out. -/
def fill : List Span → List String → Bytes
  | [], _ => []
  | .literal bs :: more, answers => bs ++ fill more answers
  | .reference _ :: more, answer :: answers => encodeText answer ++ fill more answers
  | _ :: more, answers => fill more answers

/-! ### A byte in front -/

theorem source_copied (b : UInt8) (ss : List Span) :
    (copied b ss).flatMap Span.source = b :: ss.flatMap Span.source := by
  fun_cases copied b ss with
  | case1 bs more => rfl
  | case2 more => rfl

theorem names_copied (b : UInt8) (ss : List Span) : names (copied b ss) = names ss := by
  fun_cases copied b ss with
  | case1 bs more => rfl
  | case2 more => rfl

theorem fill_copied (b : UInt8) (ss : List Span) : fill (copied b ss) = (b :: fill ss ·) := by
  funext answers
  fun_cases copied b ss with
  | case1 bs more => rfl
  | case2 more => rfl

/-- Only literals change. -/
theorem count_copied {span : Span} (h : ∀ bs, span ≠ .literal bs) (b : UInt8) (ss : List Span) :
    (copied b ss).count span = ss.count span := by
  fun_cases copied b ss with
  | case1 bs more =>
    rw [List.count_cons_of_ne (h (b :: bs)).symm, List.count_cons_of_ne (h bs).symm]
  | case2 more => rw [List.count_cons_of_ne (h [b]).symm]

theorem mem_copied {span : Span} (h : ∀ bs, span ≠ .literal bs) (b : UInt8) (ss : List Span) :
    span ∈ copied b ss ↔ span ∈ ss := by
  rw [← List.count_pos_iff, count_copied h, List.count_pos_iff]

theorem copied_proper (b : UInt8) {ss : List Span} (h : ∀ span ∈ ss, span.Proper) :
    ∀ span ∈ copied b ss, span.Proper := by
  fun_cases copied b ss with
  | case1 bs more =>
    exact List.forall_mem_cons.mpr ⟨List.cons_ne_nil b bs, (List.forall_mem_cons.mp h).2⟩
  | case2 more => exact List.forall_mem_cons.mpr ⟨List.cons_ne_nil b [], h⟩

/-! ### What is opened -/

/-- What an opening brace starts and what is left behind it are all that was there. -/
theorem source_opened (inner : Bytes) :
    (Span.opened inner).source ++ (reference inner).2 = dollar :: opening :: inner := by
  by_cases h : closing ∈ inner
  · obtain ⟨name, after, rfl, hname⟩ := List.eq_append_cons_of_mem h
    rw [Span.opened, reference_closed hname]
    by_cases hn : name = []
    · subst hn
      simp [Span.source]
    · simp [hn, Span.source]
  · rw [Span.opened, reference_unclosed h]
    simp [h, Span.source]

theorem opened_proper (inner : Bytes) : (Span.opened inner).Proper := by
  by_cases h : closing ∈ inner
  · obtain ⟨name, after, rfl, hname⟩ := List.eq_append_cons_of_mem h
    rw [Span.opened, reference_closed hname]
    by_cases hn : name = []
    · simp [hn, Span.Proper]
    · simp [hn, Span.Proper, hname]
  · rw [Span.opened, reference_unclosed h]
    simp [h, Span.Proper]

/-! ### The stretches are the input -/

theorem source_spansFrom (behind : Bool) (s : Bytes) :
    (spansFrom behind s).flatMap Span.source = s := by
  fun_induction spansFrom behind s with
  | case1 => rfl
  | case2 => rfl
  | case3 b c rest h ih =>
    rw [List.flatMap_cons, source_copied, ih, h.1, h.2]
    rfl
  | case4 behind b c rest h hbehind ih =>
    rw [List.flatMap_cons, ih, source_opened, h.1, h.2]
  | case5 behind b c rest h ih => rw [source_copied, ih]

theorem spansFrom_proper (behind : Bool) (s : Bytes) :
    ∀ span ∈ spansFrom behind s, span.Proper := by
  fun_induction spansFrom behind s with
  | case1 => exact nofun
  | case2 behind b => exact List.forall_mem_cons.mpr ⟨List.cons_ne_nil b [], nofun⟩
  | case3 b c rest h ih => exact List.forall_mem_cons.mpr ⟨trivial, copied_proper opening ih⟩
  | case4 behind b c rest h hbehind ih =>
    exact List.forall_mem_cons.mpr ⟨opened_proper rest, ih⟩
  | case5 behind b c rest h ih => exact copied_proper b ih

/-- **No byte is lost and none is counted twice.** -/
theorem source_spans (s : Bytes) : (spans s).flatMap Span.source = s := source_spansFrom false s

theorem spans_proper (s : Bytes) : ∀ span ∈ spans s, span.Proper := spansFrom_proper false s

theorem mem_names {name : Bytes} {ss : List Span} (h : name ∈ names ss) :
    .reference name ∈ ss := by
  fun_induction names ss with
  | case1 => cases h
  | case2 other more ih =>
    rcases List.mem_cons.mp h with rfl | hmore
    · exact List.mem_cons_self
    · exact List.mem_cons_of_mem _ (ih hmore)
  | case3 span more _ ih => exact List.mem_cons_of_mem _ (ih h)

/-- A name stands in the input between its braces, and no brace is closed in it. -/
theorem reference_of_mem_names {name s : Bytes} (h : name ∈ names (spans s)) :
    name ≠ [] ∧ closing ∉ name ∧
      ∃ before after, s = before ++ dollar :: opening :: (name ++ closing :: after) := by
  have hmem : .reference name ∈ spans s := mem_names h
  obtain ⟨hne, hclose⟩ : name ≠ [] ∧ closing ∉ name := spans_proper s _ hmem
  obtain ⟨left, right, hsplit⟩ := List.append_of_mem hmem
  refine ⟨hne, hclose, left.flatMap Span.source, right.flatMap Span.source, ?_⟩
  conv => lhs; rw [← source_spans s, hsplit]
  simp [Span.source]

/-! ### Expansion by stretches -/

variable {σ : Type} (lookup : Lookup σ)

/-- Asks for names one after the other. -/
def askAll (ns : List Bytes) : StateM σ (List String) :=
  ns.mapM fun name => lookup (lossyText name)

theorem fill_opened (inner : Bytes) (ss : List Span) :
    fill (.opened inner :: ss) <$> askAll lookup (names (.opened inner :: ss)) =
      answer lookup (reference inner).1 >>= fun value =>
        (value ++ ·) <$> fill ss <$> askAll lookup (names ss) := by
  rw [Span.opened]
  cases (reference inner).1 with
  | some name => simp [names, askAll, answer, fill]
  | none =>
    by_cases h : closing ∈ inner <;> simp [h, names, answer, fill]

theorem walk_spans (behind : Bool) (s : Bytes) :
    walk lookup behind s =
      fill (spansFrom behind s) <$> askAll lookup (names (spansFrom behind s)) := by
  fun_induction spansFrom behind s with
  | case1 => simp [names, askAll, fill]
  | case2 behind b => simp [walk, names, askAll, fill]
  | case3 b c rest h ih =>
    rw [h.1, h.2, walk_escape, ih]
    simp [names, fill, names_copied, fill_copied]
  | case4 behind b c rest h hbehind ih =>
    rw [h.1, h.2, Bool.eq_false_iff.mpr hbehind, walk_reference, fill_opened, ih]
  | case5 behind b c rest h ih =>
    rw [walk_copy lookup behind (by simpa using h), ih, names_copied, fill_copied]
    simp

/-- **Expansion asks for the names in the references**, one after the other, and puts the answers
in their places. -/
theorem expandBytes_spans (s : Bytes) :
    Expanded.bytes <$> expandBytes lookup s = fill (spans s) <$> askAll lookup (names (spans s)) := by
  rw [bytes_expandBytes, walk_spans]
  rfl

/-- Asking for names asks for these names. -/
theorem askAll_noted (ns : List Bytes) (st : σ) (seen : List String) :
    (askAll lookup.noted ns (st, seen)).2.2 = seen ++ ns.map lossyText := by
  induction ns generalizing st seen with
  | nil => exact (List.append_nil seen).symm
  | cons n ns ih =>
    have hcons : (askAll lookup.noted (n :: ns) (st, seen)).2 =
        (askAll lookup.noted ns ((lookup (lossyText n) st).2, seen ++ [lossyText n])).2 := by
      rw [askAll, List.mapM_cons]
      rfl
    rw [hcons, ih, List.map_cons, List.append_assoc, List.singleton_append]

/-- What is asked for depends on the input alone. -/
theorem asked_spans (s : Bytes) (st : σ) :
    asked lookup s st = (names (spans s)).map lossyText := by
  have := congrFun (expandBytes_spans lookup.noted s) (st, [])
  refine (congrArg (·.2.2) this).trans ?_
  exact askAll_noted lookup (names (spans s)) st []

end Stencil.Expansion
