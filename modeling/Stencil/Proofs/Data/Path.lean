import Mathlib.Data.List.Forall2
import Stencil.Proofs.Data.Rearranged

/-! Paths into values and their documents.

A path leads to items by number and to entries by key; in a value it takes the last of the entries
whose keys have one form. The document of what it leads to in a value is what it leads to in the
document (`document_reach`). So a map at any depth has its keys in order, and under each the last
entry with it (`document_mapped`, `document_reach_mapped`). -/
namespace Stencil
open Data

namespace Data

/-- A step into a value or a document. -/
inductive Step where
  | item (index : Nat)
  | under (key : String)

/-- The items of a value that is a list in a document. -/
def listed? : Value → Option (List Value)
  | .list vs => some vs
  | .lazy vs _ => some vs
  | .group key vs => some [key, .list vs]
  | _ => none

/-- The entries of a value that is a map in a document. -/
def mapped? : Value → Option (List (Value × Value))
  | .map es => some es
  | .workspace _ es => some es
  | .iteration _ previous next =>
    some [(.text "previtem" false, previous), (.text "nextitem" false, next)]
  | _ => none

/-- The value of the last entry whose key has the form. -/
def lastUnder? (key : String) (es : List (Value × Value)) : Option Value :=
  (es.reverse.find? fun e => (keyOf e.1).toOption = some key).map Prod.snd

end Data

/-- Where a step into a value leads. -/
def Value.at? (v : Value) : Step → Option Value
  | .item index => (listed? v).bind fun vs => vs[index]?
  | .under key => (mapped? v).bind fun es => lastUnder? key es

/-- Where a path into a value leads. -/
def Value.reach? (v : Value) (path : List Step) : Option Value := path.foldlM Value.at? v

namespace Data

/-- Where a step into a document leads. -/
def Tree.at? : Tree → Step → Option Tree
  | .list ts, .item index => ts[index]?
  | .map es, .under key => es.lookup key
  | _, _ => none

/-- Where a path into a document leads. -/
def Tree.reach? (t : Tree) (path : List Step) : Option Tree := path.foldlM Tree.at? t

variable {bounded : Bool} {v u : Value} {t : Tree}

section Found
variable {α β γ : Type} {R : α → β → Prop}

theorem rel_map_right {S : α → γ → Prop} {f : β → γ} {a : Option α} {b : Option β}
    (h : ∀ a b, R a b → S a (f b)) (hab : Option.Rel R a b) : Option.Rel S a (b.map f) := by
  cases hab with
  | some hab => exact .some (h _ _ hab)
  | none => exact .none

theorem of_rel_some {a : α} {b : Option β} (h : Option.Rel R (some a) b) :
    ∃ x, b = some x ∧ R a x := by
  cases h with
  | some h => exact ⟨_, rfl, h⟩

end Found

/-! ### Lists -/

theorem ofItems_eq_mapM (vs : List Value) : ofItems bounded vs = vs.mapM (ofValue bounded) := by
  induction vs with
  | nil => rfl
  | cons v rest ih => rw [ofItems, List.mapM_cons, ih]

theorem sortedItems_eq_map (ts : List Tree) : sortedItems ts = ts.map Tree.sorted := by
  induction ts with
  | nil => rfl
  | cons t rest ih => rw [sortedItems, List.map_cons, ih]

theorem ofValue_listed {vs : List Value} (hv : listed? v = some vs) :
    ofValue bounded v = (ofItems bounded vs).map .list := by
  cases v <;> cases hv
  case list => rfl
  case lazy => rfl
  case group key vs =>
    rw [ofValue, ofItems, ofItems, ofItems, ofValue]
    cases ofValue bounded key with
    | error flaw => rfl
    | ok k =>
      cases ofItems bounded vs with
      | error flaw => rfl
      | ok ts => rfl

/-- The document of a list has the documents of its items. -/
theorem document_listed {vs : List Value} (hv : listed? v = some vs) (h : document v = .ok t) :
    ∃ ts, t = .list ts ∧ List.Forall₂ (fun w x => document w = .ok x) vs ts := by
  obtain ⟨raw, hraw, rfl⟩ := of_map_eq_ok h
  rw [ofValue_listed hv] at hraw
  obtain ⟨ts, hts, rfl⟩ := of_map_eq_ok hraw
  rw [ofItems_eq_mapM, mapM_eq_ok_iff] at hts
  refine ⟨ts.map Tree.sorted, by rw [Tree.sorted, sortedItems_eq_map], ?_⟩
  rw [List.forall₂_map_right_iff]
  exact hts.imp fun w x hx => by rw [document, hx]; rfl

/-! ### Maps -/

theorem ofValue_mapped {es : List (Value × Value)} (hv : mapped? v = some es) :
    ofValue bounded v = (ofEntries bounded es).map .map := by
  cases v <;> cases hv
  case map => rfl
  case workspace => rfl
  case iteration position previous next =>
    rw [ofValue, ofEntries, ofEntries, ofEntries]
    cases ofValue bounded previous with
    | error flaw => rfl
    | ok p =>
      cases ofValue bounded next with
      | error flaw => rfl
      | ok n => rfl

/-- What is found first under a key is the document of the first entry with it. -/
theorem lookup_of_entries {es : List (Value × Value)} {entries : List (String × Tree)}
    (h : List.Forall₂ (fun e entry => entryOf bounded e = .ok entry) es entries) (key : String) :
    Option.Rel (fun v t => ofValue bounded v = .ok t)
      ((es.find? fun e => (keyOf e.1).toOption = some key).map Prod.snd) (entries.lookup key) := by
  induction h with
  | nil => exact .none
  | @cons e entry es entries hentry _ ih =>
    obtain ⟨hkey, ht⟩ := entryOf_eq_ok hentry
    have hform : (keyOf e.1).toOption = some entry.1 := by
      rw [hkey]
      rfl
    rw [lookup_cons_eq, List.find?_cons, hform]
    by_cases hsame : key = entry.1
    · rw [if_pos hsame, decide_eq_true (congrArg some hsame.symm)]
      exact .some ht
    · have hother : some entry.1 ≠ some key := fun h => hsame (Option.some.inj h).symm
      rw [if_neg hsame, decide_eq_false hother]
      exact ih

/-- **The document of a map shows under each key the last entry with it**, and the keys in
order. -/
theorem document_mapped {es : List (Value × Value)} (hv : mapped? v = some es)
    (h : document v = .ok t) :
    ∃ fs, t = .map fs ∧ KeysAscend fs ∧
      ∀ key, Option.Rel (fun w x => document w = .ok x) (lastUnder? key es) (fs.lookup key) := by
  obtain ⟨raw, hraw, rfl⟩ := of_map_eq_ok h
  rw [ofValue_mapped hv] at hraw
  obtain ⟨entries, hentries, rfl⟩ := of_map_eq_ok hraw
  rw [ofEntries_eq_mapM, mapM_eq_ok_iff] at hentries
  refine ⟨sortedEntries [] entries, by rw [Tree.sorted],
    sortedEntries_ascend List.Pairwise.nil entries, fun key => ?_⟩
  rw [lookup_sortedEntries, List.lookup_nil, Option.or_none]
  refine rel_map_right ?_ (lookup_of_entries (List.forall₂_reverse_iff.mpr hentries) key)
  intro w x hx
  rw [document, hx]
  rfl

/-! ### Paths -/

/-- A step into a value leads to the same place in its document. -/
theorem document_at {step : Step} (h : document v = .ok t) (hstep : v.at? step = some u) :
    ∃ x, t.at? step = some x ∧ document u = .ok x := by
  cases step with
  | item index =>
    obtain ⟨vs, hvs, hu⟩ := Option.bind_eq_some_iff.mp hstep
    obtain ⟨ts, rfl, hitems⟩ := document_listed hvs h
    obtain ⟨hindex, rfl⟩ := List.getElem?_eq_some_iff.mp hu
    have hlength : index < ts.length := hitems.length_eq ▸ hindex
    exact ⟨ts[index], List.getElem?_eq_getElem hlength, hitems.get hindex hlength⟩
  | under key =>
    obtain ⟨es, hes, hu⟩ := Option.bind_eq_some_iff.mp hstep
    obtain ⟨fs, rfl, -, hunder⟩ := document_mapped hes h
    exact of_rel_some (hu ▸ hunder key)

/-- **What a path leads to in a document is the document of what it leads to in the value.** -/
theorem document_reach {path : List Step} (h : document v = .ok t)
    (hpath : v.reach? path = some u) : ∃ x, t.reach? path = some x ∧ document u = .ok x := by
  induction path generalizing v t with
  | nil =>
    cases hpath
    exact ⟨t, rfl, h⟩
  | cons step path ih =>
    obtain ⟨w, hstep, hrest⟩ := Option.bind_eq_some_iff.mp hpath
    obtain ⟨y, hy, hw⟩ := document_at h hstep
    obtain ⟨x, hx, hu⟩ := ih hw hrest
    exact ⟨x, Option.bind_eq_some_iff.mpr ⟨y, hy, hx⟩, hu⟩

/-- Wherever a map stands in a value, a map stands in the document, with its keys in order and
under each the last of the entries whose keys have that form. -/
theorem document_reach_mapped {path : List Step} {es : List (Value × Value)}
    (h : document v = .ok t) (hpath : v.reach? path = some u) (hmapped : mapped? u = some es) :
    ∃ fs, t.reach? path = some (.map fs) ∧ KeysAscend fs ∧
      ∀ key, Option.Rel (fun last x => document last = .ok x) (lastUnder? key es)
        (fs.lookup key) := by
  obtain ⟨x, hx, hu⟩ := document_reach h hpath
  obtain ⟨fs, rfl, hascend, hlast⟩ := document_mapped hmapped hu
  exact ⟨fs, hx, hascend, hlast⟩

end Data
end Stencil
