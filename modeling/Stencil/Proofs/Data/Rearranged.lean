import Mathlib.Data.List.Forall2
import Stencil.Proofs.Data.Sorted
import Stencil.Proofs.Except

/-! Values with their maps in another order.

`Value.Rearranged` is a value with the entries of its maps in another order, wherever in the value
the maps are. Whether a value has a document does not depend on that order, and neither does the
sorted document where the keys of each map have different forms (`ofValue_rearranged`): entries
that are put in are settled by what is found under the keys. -/
namespace Stencil
open Data

mutual

/-- The second value is the first with the entries of maps in another order, at any depth. -/
inductive Value.Rearranged : Value → Value → Prop
  | refl (v : Value) : Value.Rearranged v v
  | list {vs ws : List Value} (items : Value.ItemsRearranged vs ws) :
    Value.Rearranged (.list vs) (.list ws)
  | lazy {vs ws : List Value} (items : Value.ItemsRearranged vs ws) (sized : Bool) :
    Value.Rearranged (.lazy vs sized) (.lazy ws sized)
  | group {key key' : Value} {vs ws : List Value} (heading : Value.Rearranged key key')
    (items : Value.ItemsRearranged vs ws) : Value.Rearranged (.group key vs) (.group key' ws)
  | map {es fs gs : List (Value × Value)} (entries : Value.EntriesRearranged es fs)
    (order : fs.Perm gs) : Value.Rearranged (.map es) (.map gs)
  | workspace (id : Nat) {es fs gs : List (Value × Value)}
    (entries : Value.EntriesRearranged es fs) (order : fs.Perm gs) :
    Value.Rearranged (.workspace id es) (.workspace id gs)
  | iteration (position : LoopPosition) {previous previous' next next' : Value}
    (before : Value.Rearranged previous previous') (behind : Value.Rearranged next next') :
    Value.Rearranged (.iteration position previous next) (.iteration position previous' next')

/-- Items with the entries of maps in another order. -/
inductive Value.ItemsRearranged : List Value → List Value → Prop
  | nil : Value.ItemsRearranged [] []
  | cons {v w : Value} {vs ws : List Value} (first : Value.Rearranged v w)
    (rest : Value.ItemsRearranged vs ws) : Value.ItemsRearranged (v :: vs) (w :: ws)

/-- Entries in the same order whose keys and values have the entries of maps in another. -/
inductive Value.EntriesRearranged : List (Value × Value) → List (Value × Value) → Prop
  | nil : Value.EntriesRearranged [] []
  | cons {k l v w : Value} {es fs : List (Value × Value)} (key : Value.Rearranged k l)
    (first : Value.Rearranged v w) (rest : Value.EntriesRearranged es fs) :
    Value.EntriesRearranged ((k, v) :: es) ((l, w) :: fs)

end

/-- The forms of the keys that have one. -/
def Data.keyForms (es : List (Value × Value)) : List String :=
  es.filterMap fun e => (keyOf e.1).toOption

mutual

/-- Within each map, at any depth, the keys have different forms. -/
def Value.KeysDiffer : Value → Prop
  | .list vs => Value.ItemKeysDiffer vs
  | .lazy vs _ => Value.ItemKeysDiffer vs
  | .group key vs => key.KeysDiffer ∧ Value.ItemKeysDiffer vs
  | .map es => (keyForms es).Nodup ∧ Value.EntryKeysDiffer es
  | .workspace _ es => (keyForms es).Nodup ∧ Value.EntryKeysDiffer es
  | .iteration _ previous next => previous.KeysDiffer ∧ next.KeysDiffer
  | _ => True
  termination_by structural v => v

/-- Within each map in the items the keys have different forms. -/
def Value.ItemKeysDiffer : List Value → Prop
  | [] => True
  | v :: rest => v.KeysDiffer ∧ Value.ItemKeysDiffer rest
  termination_by structural vs => vs

/-- Within each map in the values of the entries the keys have different forms. -/
def Value.EntryKeysDiffer : List (Value × Value) → Prop
  | [] => True
  | (_, v) :: rest => v.KeysDiffer ∧ Value.EntryKeysDiffer rest
  termination_by structural es => es

end

namespace Data
variable {bounded : Bool}

/-- A map has no form as a key, and keys without maps stay as they are. -/
theorem keyOf_rearranged {k l : Value} (h : k.Rearranged l) : keyOf k = keyOf l := by
  cases h <;> rfl

/-- The document for an entry. -/
def entryOf (bounded : Bool) (e : Value × Value) : Except DocumentFlaw (String × Tree) := do
  let key ← keyOf e.1
  let t ← ofValue bounded e.2
  pure (key, t)

theorem ofEntries_cons (e : Value × Value) (rest : List (Value × Value)) :
    ofEntries bounded (e :: rest) =
      entryOf bounded e >>= fun entry => (ofEntries bounded rest).map (entry :: ·) := by
  obtain ⟨k, v⟩ := e
  rw [ofEntries, entryOf]
  cases keyOf k with
  | error flaw => rfl
  | ok key =>
    cases ofValue bounded v with
    | error flaw => rfl
    | ok t => rfl

theorem ofEntries_eq_mapM (es : List (Value × Value)) :
    ofEntries bounded es = es.mapM (entryOf bounded) := by
  induction es with
  | nil => rfl
  | cons e rest ih =>
    rw [ofEntries_cons, List.mapM_cons, ih]
    rfl

theorem entryOf_eq_ok {e : Value × Value} {entry : String × Tree}
    (h : entryOf bounded e = .ok entry) :
    keyOf e.1 = .ok entry.1 ∧ ofValue bounded e.2 = .ok entry.2 := by
  obtain ⟨key, hkey, h⟩ := of_bind_eq_ok h
  obtain ⟨t, ht, h⟩ := of_bind_eq_ok h
  cases h
  exact ⟨hkey, ht⟩

/-- Where entries have documents, each of them stands under the form of its key. -/
theorem keys_of_ofEntries {es : List (Value × Value)} {entries : List (String × Tree)}
    (h : ofEntries bounded es = .ok entries) : entries.map Prod.fst = keyForms es := by
  rw [ofEntries_eq_mapM, mapM_eq_ok_iff] at h
  induction h with
  | nil => rfl
  | cons hentry _ ih =>
    rw [List.map_cons, ih, keyForms, keyForms, List.filterMap_cons, (entryOf_eq_ok hentry).1]
    rfl

/-- Entries that have the same documents in order have the same map in any order, if the forms of
their keys differ. -/
theorem ofEntries_reordered {es fs gs : List (Value × Value)}
    (h : Alike (fun ts us => Value.EntryKeysDiffer es →
        ts.map (fun e => (e.1, e.2.sorted)) = us.map fun e => (e.1, e.2.sorted))
      (ofEntries bounded es) (ofEntries bounded fs)) (order : fs.Perm gs) :
    Alike (fun ts us => (keyForms es).Nodup ∧ Value.EntryKeysDiffer es →
        sortedEntries [] ts = sortedEntries [] us)
      (ofEntries bounded es) (ofEntries bounded gs) := by
  have horder : Alike List.Perm (ofEntries bounded fs) (ofEntries bounded gs) := by
    rw [ofEntries_eq_mapM, ofEntries_eq_mapM]
    exact mapM_perm _ order
  refine h.trans horder fun ts us us' hts hvalues hperm hdiffer => ?_
  have hvalues := hvalues hdiffer.2
  have hkeys : ts.map Prod.fst = us.map Prod.fst := by
    have hfirst := congrArg (List.map Prod.fst) hvalues
    rwa [List.map_map, List.map_map] at hfirst
  have hnodup : (us.map Prod.fst).Nodup := by
    rw [← hkeys, keys_of_ofEntries hts]
    exact hdiffer.1
  exact (sortedEntries_congr hvalues []).trans (sortedEntries_perm hnodup hperm)

mutual

/-- **Whether a value has a document does not depend on the order of entries in maps, and neither
does the sorted document if in each map the forms of the keys differ.** -/
theorem ofValue_rearranged {v w : Value} (h : v.Rearranged w) :
    Alike (fun t u => v.KeysDiffer → t.sorted = u.sorted) (ofValue bounded v)
      (ofValue bounded w) := by
  -- The recursion is on how the values were found to be rearranged. Only maps have another order.
  cases h with
  | refl => exact .refl (fun _ _ => rfl) _
  | list items =>
    rw [ofValue, ofValue]
    refine (ofItems_rearranged items).bind fun ts us _ h => .ok fun hdiffer => ?_
    rw [Tree.sorted, Tree.sorted, h hdiffer]
  | lazy items sized =>
    rw [ofValue, ofValue]
    refine (ofItems_rearranged items).bind fun ts us _ h => .ok fun hdiffer => ?_
    rw [Tree.sorted, Tree.sorted, h hdiffer]
  | group heading items =>
    rw [ofValue, ofValue]
    refine (ofValue_rearranged heading).bind fun t u _ hheading => ?_
    refine (ofItems_rearranged items).bind fun ts us _ hitems => .ok fun hdiffer => ?_
    simp only [Tree.sorted, sortedItems, hheading hdiffer.1, hitems hdiffer.2]
  | map entries order =>
    rw [ofValue, ofValue]
    refine (ofEntries_reordered (ofEntries_rearranged entries) order).bind
      fun ts us _ h => .ok fun hdiffer => ?_
    rw [Tree.sorted, Tree.sorted, h hdiffer]
  | workspace id entries order =>
    rw [ofValue, ofValue]
    refine (ofEntries_reordered (ofEntries_rearranged entries) order).bind
      fun ts us _ h => .ok fun hdiffer => ?_
    rw [Tree.sorted, Tree.sorted, h hdiffer]
  | iteration position before behind =>
    rw [ofValue, ofValue]
    refine (ofValue_rearranged before).bind fun t u _ hbefore => ?_
    refine (ofValue_rearranged behind).bind fun t' u' _ hbehind => .ok fun hdiffer => ?_
    simp only [Tree.sorted, sortedEntries, hbefore hdiffer.1, hbehind hdiffer.2]

theorem ofItems_rearranged {vs ws : List Value} (h : Value.ItemsRearranged vs ws) :
    Alike (fun ts us => Value.ItemKeysDiffer vs → sortedItems ts = sortedItems us)
      (ofItems bounded vs) (ofItems bounded ws) := by
  cases h with
  | nil => exact .ok fun _ => rfl
  | cons first rest =>
    rw [ofItems, ofItems]
    refine (ofValue_rearranged first).bind fun t u _ hfirst => ?_
    refine (ofItems_rearranged rest).bind fun ts us _ hrest => .ok fun hdiffer => ?_
    rw [sortedItems, sortedItems, hfirst hdiffer.1, hrest hdiffer.2]

theorem ofEntries_rearranged {es fs : List (Value × Value)} (h : Value.EntriesRearranged es fs) :
    Alike (fun ts us => Value.EntryKeysDiffer es →
        ts.map (fun e => (e.1, e.2.sorted)) = us.map fun e => (e.1, e.2.sorted))
      (ofEntries bounded es) (ofEntries bounded fs) := by
  cases h with
  | nil => exact .ok fun _ => rfl
  | cons key first rest =>
    rw [ofEntries, ofEntries, keyOf_rearranged key]
    refine (Alike.refl (fun _ => rfl) _).bind fun k l _ hkey => ?_
    refine (ofValue_rearranged first).bind fun t u _ hfirst => ?_
    refine (ofEntries_rearranged rest).bind fun ts us _ hrest => .ok fun hdiffer => ?_
    rw [List.map_cons, List.map_cons, hkey, hfirst hdiffer.1, hrest hdiffer.2]

end

end Data
end Stencil
