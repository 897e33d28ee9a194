import Stencil.Proofs.Expansion.Walk
import Stencil.Proofs.Watch

/-! Expansion as its rules put it.

`reading` follows the rules for dollars and braces one by one, from left to right: a run of
two or more dollars before an opening brace loses one of them; a single dollar before an opening
brace starts a reference; all else is copied. It takes runs whole and never looks back, and it
lists the names it asks for. `expandBytes_reads` says that the scanner does the same, for any
bytes and for any lookup. -/
namespace Stencil.Expansion
open Text.Utf8 (Bytes lossyText encodeText)

variable {σ : Type}

/-- What reading comes to: the bytes that are emitted and the names that are asked for. -/
structure Reading where
  out : Bytes := []
  asked : List String := []

namespace Reading

/-- Emits bytes first. -/
def emit (bs : Bytes) (r : Reading) : Reading := { r with out := bs ++ r.out }

/-- Asks for a name first, and emits the answer. -/
def ask (name answer : String) (r : Reading) : Reading :=
  ⟨encodeText answer ++ r.out, name :: r.asked⟩

end Reading

theorem length_lt_of_dropWhile {p : UInt8 → Bool} {s rest : Bytes} {b : UInt8}
    (h : s.dropWhile p = b :: rest) : rest.length < s.length := by
  have := (s.dropWhile_suffix p).length_le
  rw [h, List.length_cons] at this
  exact this

/-- Reads bytes from left to right. -/
def reading (lookup : Lookup σ) : Bytes → StateM σ Reading
  | [] => pure {}
  | b :: rest =>
    if b = dollar then
      -- The run is this dollar and `dollars`.
      let dollars := rest.takeWhile (· == dollar)
      match _h : rest.dropWhile (· == dollar) with
      | [] => pure { out := dollar :: dollars }
      | c :: inner =>
        if c ≠ opening then Reading.emit (dollar :: dollars) <$> reading lookup (c :: inner)
        else if dollars ≠ [] then Reading.emit (dollars ++ [opening]) <$> reading lookup inner
        else
          match _hr : reference inner with
          | (none, after) => reading lookup after
          | (some name, after) => do
            let answer ← lookup (lossyText name)
            Reading.ask (lossyText name) answer <$> reading lookup after
    else Reading.emit [b] <$> reading lookup rest
  termination_by s => s.length
  decreasing_by
    · have := length_lt_of_dropWhile _h
      simp only [List.length_cons]
      omega
    · have := length_lt_of_dropWhile _h
      simp only [List.length_cons]
      omega
    · have := length_lt_of_dropWhile _h
      have : after.length ≤ inner.length := by simpa [_hr] using length_reference_le inner
      simp only [List.length_cons]
      omega
    · have := length_lt_of_dropWhile _h
      have : after.length ≤ inner.length := by simpa [_hr] using length_reference_le inner
      simp only [List.length_cons]
      omega
    · simp

/-! ### Runs of dollars in the walk -/

section Runs
variable (lookup : Lookup σ) {dollars : Bytes} (h : ∀ d ∈ dollars, d = dollar)
include h

/-- A run that opens nothing is copied. -/
theorem walk_run_copied {rest : Bytes} (behind : Bool) (hd : rest.head? ≠ some dollar)
    (ho : rest.head? ≠ some opening) :
    walk lookup behind (dollars ++ rest) = (dollars ++ ·) <$> walk lookup false rest := by
  induction dollars generalizing behind with
  | nil =>
    have hrest : ∀ inner, rest ≠ dollar :: opening :: inner := by
      rintro inner rfl
      exact hd rfl
    simp [walk_behind_irrelevant lookup hrest behind false]
  | cons d ds ih =>
    have hds : ∀ d ∈ ds, d = dollar := fun d hm => h d (List.mem_cons_of_mem _ hm)
    have hcopy : d = dollar → (ds ++ rest).head? ≠ some opening := by
      intro _
      cases ds with
      | nil => exact ho
      | cons d' ds' =>
        rw [hds d' List.mem_cons_self]
        simp [dollar, opening]
    rw [List.cons_append, walk_copy lookup behind hcopy, ih hds (d == dollar)]
    simp

/-- Of a run behind a dollar that was copied, the last dollar is lost before an opening brace. -/
theorem walk_run_escaped (inner : Bytes) :
    walk lookup true (dollar :: (dollars ++ opening :: inner)) =
      ((dollars ++ [opening]) ++ ·) <$> walk lookup false inner := by
  induction dollars with
  | nil => simp [walk_escape]
  | cons d ds ih =>
    have hd : d = dollar := h d List.mem_cons_self
    have hcopy : dollar = dollar → (d :: ds ++ opening :: inner).head? ≠ some opening := by
      rw [hd]
      simp [dollar, opening]
    rw [walk_copy lookup true hcopy, List.cons_append, hd, beq_self_eq_true,
      ih fun d hm => h d (List.mem_cons_of_mem _ hm)]
    simp

end Runs

/-! ### The walk reads -/

/-- A reading carried out by a lookup that lists its names. -/
def Reading.carried (m : StateM σ Reading) : StateM (σ × List String) Bytes := fun st =>
  let r := m st.1
  (r.1.out, (r.2, st.2 ++ r.1.asked))

theorem carried_pure (out : Bytes) :
    Reading.carried (pure { out } : StateM σ Reading) = pure out := by
  funext st
  exact Prod.ext rfl (Prod.ext rfl (List.append_nil _))

theorem carried_emit (bs : Bytes) (m : StateM σ Reading) :
    Reading.carried (Reading.emit bs <$> m) = (bs ++ ·) <$> Reading.carried m := rfl

theorem carried_ask (lookup : Lookup σ) (name : Bytes) (m : StateM σ Reading) :
    Reading.carried (do
      let answer ← lookup (lossyText name)
      Reading.ask (lossyText name) answer <$> m) =
    answer lookup.noted (some name) >>= fun value => (value ++ ·) <$> Reading.carried m := by
  funext st
  exact Prod.ext rfl (Prod.ext rfl (List.append_cons _ _ _))

/-- A run of dollars, and what stands behind it. -/
structure IsRun (dollars more : Bytes) : Prop where
  all : ∀ d ∈ dollars, d = dollar
  behind : more.head? ≠ some dollar

theorem run_split {rest more : Bytes} (h : rest.dropWhile (· == dollar) = more) :
    rest = rest.takeWhile (· == dollar) ++ more ∧ IsRun (rest.takeWhile (· == dollar)) more := by
  subst h
  refine ⟨List.takeWhile_append_dropWhile.symm, fun d hd => ?_, fun hd => ?_⟩
  · simpa using List.mem_takeWhile_imp hd
  · have := List.head?_dropWhile_not (· == dollar) rest
    simp [hd] at this

theorem IsRun.cons {dollars more : Bytes} (h : IsRun dollars more) :
    ∀ d ∈ dollar :: dollars, d = dollar :=
  List.forall_mem_cons.mpr ⟨rfl, h.all⟩

theorem walk_noted_reads (lookup : Lookup σ) (s : Bytes) :
    walk lookup.noted false s = Reading.carried (reading lookup s) := by
  fun_induction reading lookup s with
  | case1 => rw [walk_nil, carried_pure]
  | case2 rest dollars hmore =>
    obtain ⟨hrest, hrun⟩ : rest = dollars ++ [] ∧ IsRun dollars [] := run_split hmore
    have hwalk := walk_run_copied lookup.noted hrun.cons false hrun.behind nofun
    rw [hrest, ← List.cons_append, hwalk, walk_nil, carried_pure, map_pure, List.append_nil]
  | case3 rest dollars c inner hmore hc ih =>
    obtain ⟨hrest, hrun⟩ : rest = dollars ++ c :: inner ∧ IsRun dollars (c :: inner) :=
      run_split hmore
    have hopen : (c :: inner).head? ≠ some opening := by simpa using hc
    rw [hrest, ← List.cons_append, walk_run_copied lookup.noted hrun.cons false hrun.behind hopen,
      ih, carried_emit]
  | case4 rest dollars c inner hmore hc hne ih =>
    obtain ⟨hrest, hrun⟩ : rest = dollars ++ c :: inner ∧ IsRun dollars (c :: inner) :=
      run_split hmore
    rw [not_not] at hc
    -- The first dollar of the run is copied, so the others stand behind a dollar.
    obtain ⟨d, ds, hds⟩ := List.exists_cons_of_ne_nil hne
    rw [hds] at hrun hrest ⊢
    obtain ⟨hd, hds'⟩ := List.forall_mem_cons.mp hrun.all
    rw [hrest, hc, hd, List.cons_append, walk_copy lookup.noted false (by simp [dollar, opening]),
      beq_self_eq_true, walk_run_escaped lookup.noted hds', ih, carried_emit]
    simp
  | case5 rest dollars c inner hmore hc hone after hr ih =>
    obtain ⟨hrest, -⟩ : rest = dollars ++ c :: inner ∧ IsRun dollars (c :: inner) :=
      run_split hmore
    rw [not_not] at hc hone
    rw [hrest, hone, hc, List.nil_append, walk_reference, hr, ← ih]
    simp [answer]
  | case6 rest dollars c inner hmore hc hone name after hr ih =>
    obtain ⟨hrest, -⟩ : rest = dollars ++ c :: inner ∧ IsRun dollars (c :: inner) :=
      run_split hmore
    rw [not_not] at hc hone
    rw [hrest, hone, hc, List.nil_append, walk_reference, hr, carried_ask, ih]
  | case7 b rest hb ih =>
    have hflag : (b == dollar) = false := by simpa using hb
    rw [walk_copy lookup.noted false (fun h => absurd h hb), hflag, carried_emit, ih]
    rfl

section Watched
variable {τ : Type} {watched : Lookup (σ × τ)} {lookup : Lookup σ}

theorem answer_watches (h : ∀ name, Watches (watched name) (lookup name)) (name : Option Bytes) :
    Watches (answer watched name) (answer lookup name) := by
  cases name with
  | none => exact .pure []
  | some name => exact (h _).map encodeText

theorem walk_watches (h : ∀ name, Watches (watched name) (lookup name)) (behind : Bool)
    (s : Bytes) : Watches (walk watched behind s) (walk lookup behind s) := by
  fun_induction walk lookup behind s with
  | case1 => simpa using .pure []
  | case2 behind b => simpa [walk] using .pure [b]
  | case3 b c rest hbc ih =>
    rw [hbc.1, hbc.2, walk_escape]
    exact ih.map _
  | case4 behind b c rest hbc hbehind ih =>
    rw [hbc.1, hbc.2, Bool.eq_false_iff.mpr hbehind, walk_reference]
    exact (answer_watches h _).bind fun value => ih.map _
  | case5 behind b c rest hbc ih =>
    rw [walk_copy watched behind (by simpa using hbc)]
    exact ih.map _

end Watched

/-- **The scanner reads by the rules**: it emits the bytes, asks for the names and leaves the
state that reading from left to right does, whatever the lookup answers and remembers. -/
theorem expandBytes_reads (lookup : Lookup σ) (s : Bytes) (st : σ) :
    let r := reading lookup s st
    (Expanded.bytes <$> expandBytes lookup s) st = (r.1.out, r.2) ∧
      (Expanded.bytes <$> expandBytes lookup.noted s) (st, []) = (r.1.out, (r.2, r.1.asked)) := by
  have hnoted : walk lookup.noted false s (st, []) =
      ((reading lookup s st).1.out, ((reading lookup s st).2, (reading lookup s st).1.asked)) :=
    congrFun (walk_noted_reads lookup s) (st, [])
  obtain ⟨hout, hstate⟩ := walk_watches lookup.noted_watches false s (st, [])
  rw [hnoted] at hout hstate
  rw [bytes_expandBytes, bytes_expandBytes]
  exact ⟨Prod.ext hout.symm hstate.symm, hnoted⟩

end Stencil.Expansion
