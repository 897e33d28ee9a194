import Stencil.Proofs.Expansion.Cut
import Stencil.Proofs.Processor.Lines

/-! Line by line, and at once.

Where only expansion is on, the two ways through an input agree as long as no reference is open
at the end of a line: a line ends in a newline, which is no dollar, so nothing is pending
there and the scanner may as well start anew. A name may span lines, so the condition is needed. -/
namespace Stencil

/-- Expansion alone. -/
def Mode.expandOnly : Mode := ⟨true, false, rfl⟩

namespace Processor
open Text.Utf8 (Bytes)
open LineReader Expansion

variable {σ : Type} (p : Processor σ)

/-- Expansion alone walks over its bytes. -/
theorem run_substituteBytes_plain (h : p.mode.template = false) (bs : Bytes) (st : σ) :
    (p.substituteBytes bs).run st =
      (.ok (walk p.lookup false bs st).1, (walk p.lookup false bs st).2) := by
  rw [substituteBytes_plain p h, bytes_expandBytes]
  rfl

theorem closedFrom_line {line : Bytes} (hline : IsLine line) (hclosed : Closed line) :
    ClosedFrom false line ∧ endsInDollar false line = false := by
  obtain ⟨body, -, rfl⟩ := hline
  exact ⟨(closed_iff _).mp hclosed, endsInDollar_append false body newline []⟩

/-- Lines that leave no reference open become together what each becomes alone. -/
theorem substituteLines_plain (h : p.mode.template = false) {ls : List Bytes}
    (hls : ∀ l ∈ ls, IsLine l) (hclosed : ∀ l ∈ ls, Closed l) (st : σ) :
    let t := p.substituteLines ls st
    t.1.2 = none ∧ (t.1.1.flatten, t.2) = walk p.lookup false ls.flatten st := by
  induction ls generalizing st with
  | nil => exact ⟨rfl, by rw [List.flatten_nil, walk_nil]; rfl⟩
  | cons line more ih =>
    obtain ⟨hline, hmore⟩ := List.forall_mem_cons.mp hls
    obtain ⟨hclosedLine, hclosedMore⟩ := List.forall_mem_cons.mp hclosed
    obtain ⟨hfrom, hend⟩ := closedFrom_line hline hclosedLine
    have hrun := run_substituteBytes_plain p h line st
    obtain ⟨hnone, hwalk⟩ := ih hmore hclosedMore (walk p.lookup false line st).2
    rw [substituteLines_cons_ok p hrun, List.flatten_cons, walk_append p.lookup _ hfrom hend]
    refine ⟨hnone, ?_⟩
    show _ = ((walk p.lookup false line st).1 ++
        (walk p.lookup false more.flatten (walk p.lookup false line st).2).1,
      (walk p.lookup false more.flatten (walk p.lookup false line st).2).2)
    rw [← hwalk]
    rfl

/-- Behind a last newline nothing is left. -/
theorem lines_complete {data : Bytes} (h : data = [] ∨ data.getLast? = some newline) :
    (lines data).2 = [] := by
  obtain ⟨hflat, -, hnone⟩ := lines_spec data
  rcases h with rfl | hlast
  · rfl
  · by_contra hne
    rw [← hflat, List.getLast?_append_of_ne_nil _ hne] at hlast
    exact hnone (List.mem_of_getLast? hlast)

/-- A pass at once over a source that does not fail delivers all its bytes. -/
theorem processAll_plain (h : p.mode.template = false) (source : Source) (hchunk : 0 < source.chunk)
    (hfailure : source.failure = none) {k : Sink} (hk : k.room = none) (st : σ) :
    p.processAll source k st =
      (({ k with
          written := k.written ++ (walk p.lookup false source.data st).1
          flushes := k.flushes + 1 }, .ok ()), (walk p.lookup false source.data st).2) := by
  rw [processAll, Source.readAll_eq source hchunk, hfailure]
  exact deliver_ok p hk (run_substituteBytes_plain p h source.data st)

theorem processLines_plain (h : p.mode.template = false) {data tail : Bytes}
    (hdata : data = [] ∨ data.getLast? = some newline) (htail : newline ∉ tail)
    (hclosed : ∀ line ∈ (lines data).1, Closed line) {r : LineReader}
    (hr : r.Offers (data ++ tail) none) {k : Sink} (hk : k.room = none) (st : σ) :
    p.processLines r k st =
      (({ k with
          written := k.written ++ (walk p.lookup false data st).1
          flushes := k.flushes + (lines data).1.length }, .ok ()),
        (walk p.lookup false data st).2) := by
  obtain ⟨hflat, hlines, -⟩ := lines_spec data
  rw [lines_complete hdata, List.append_nil] at hflat
  have hcut : lines (data ++ tail) = ((lines data).1, tail) := by
    have := lines_flatten hlines htail
    rwa [hflat] at this
  obtain ⟨hnone, hwalk⟩ := substituteLines_plain p h hlines hclosed st
  have hlength : (p.substituteLines (lines data).1 st).1.1.length = (lines data).1.length := by
    rcases substituteLines_length p (lines data).1 st with ⟨-, hlen⟩ | ⟨⟨e, he⟩, -⟩
    · exact hlen
    · rw [hnone] at he
      cases he
  rw [hflat] at hwalk
  rw [processLines_offers p hr hk, hcut, ← hwalk]
  simp only [hnone, hlength]
  rfl

/-- **Without the template stage a pass line by line writes what a pass at once does**, and asks
for the same names in the same order, if no reference is open at the end of a line. What stands
behind the last newline counts for nothing. -/
theorem processLines_as_at_once (snapshot : Snapshot) (render : Renderer σ)
    (renderNoting : Renderer (List String)) (debug : Bool) (data tail : Bytes)
    (hdata : data = [] ∨ data.getLast? = some newline) (htail : newline ∉ tail)
    (hclosed : ∀ line ∈ (lines data).1, Closed line) (chunk chunk' capacity : Nat)
    (hchunk : 0 < chunk) (hchunk' : 0 < chunk') (hcapacity : 0 < capacity) (st : σ) :
    let reader : LineReader := { source := { data := data ++ tail, chunk }, capacity }
    let source : Source := { data, chunk := chunk' }
    let plain := ofSnapshot snapshot render .expandOnly debug
    let noting : Processor (List String) :=
      { lookup := Lookup.noting snapshot.getenv
        render := renderNoting
        mode := .expandOnly
        debug }
    (plain.processLines reader {} st).1.1.written = (plain.processAll source {} st).1.1.written ∧
      (plain.processLines reader {} st).1.2 = .ok () ∧
      (plain.processAll source {} st).1.2 = .ok () ∧
      (noting.processLines reader {} []).1.1.written =
        (noting.processAll source {} []).1.1.written ∧
      (noting.processLines reader {} []).2 = (noting.processAll source {} []).2 := by
  intro reader source plain noting
  have hoffers : reader.Offers (data ++ tail) none := ⟨rfl, rfl, hchunk, hcapacity⟩
  have hlines := processLines_plain plain rfl hdata htail hclosed hoffers (k := {}) rfl st
  have hall := processAll_plain plain rfl source hchunk' rfl (k := {}) rfl st
  have hlinesNoting := processLines_plain noting rfl hdata htail hclosed hoffers (k := {}) rfl []
  have hallNoting := processAll_plain noting rfl source hchunk' rfl (k := {}) rfl []
  rw [hlines, hall, hlinesNoting, hallNoting]
  exact ⟨rfl, rfl, rfl, rfl, rfl⟩

/-- A reference, a dollar at the end of its line, an escape, and an open reference that is left
behind the last newline. -/
theorem processLines_as_at_once_open_tail :
    let data : Bytes := [0x24, 0x7B, 0x41, 0x7D, 0x24, 0x0A, 0x24, 0x24, 0x7B, 0x0A]
    let tail : Bytes := [0x24, 0x7B, 0x42]
    (data = [] ∨ data.getLast? = some newline) ∧ newline ∉ tail ∧
      (∀ line ∈ (lines data).1, Closed line) ∧ 0 < 1 ∧ 0 < 3 ∧ 0 < 2 ∧
      let reader : LineReader := { source := { data := data ++ tail, chunk := 1 }, capacity := 2 }
      let source : Source := { data, chunk := 3 }
      let snapshot : Snapshot := { environment := [("A", "xy")] }
      let noting : Processor (List String) :=
        { lookup := Lookup.noting snapshot.getenv
          render := fun _ _ => pure (.ok "")
          mode := .expandOnly }
      (noting.processLines reader {} []).1.1.written =
          (noting.processAll source {} []).1.1.written ∧
        (noting.processAll source {} []).1.1.written =
          [0x78, 0x79, 0x24, 0x0A, 0x24, 0x7B, 0x0A] ∧
        (noting.processLines reader {} []).2 = ["A"] := by
  intro data tail
  refine ⟨by decide, by decide, by decide, by decide, by decide, by decide, ?_⟩
  intro reader source snapshot noting
  obtain ⟨-, -, -, hwritten, hasked⟩ := processLines_as_at_once snapshot
    (fun _ _ => pure (.ok "") : Renderer Unit) noting.render false data tail (by decide) (by decide)
    (by decide) 1 3 2 (by decide) (by decide) (by decide) ()
  exact ⟨hwritten, by cbv, hasked.trans (by cbv)⟩

end Processor
end Stencil
