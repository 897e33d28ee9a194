import Mathlib.Data.List.Nodup
import Stencil.Data.Tree
import Stencil.Proofs.Text.Order

/-! Maps in order.

Keys are compared sign by sign, which is the order of texts. Entries that are put in one after the
other stand in this order (`sortedEntries_ascend`), and under each key stands what was put in last
(`lookup_sortedEntries`). Entries in order are settled by what is found under the keys
(`KeysAscend.ext`), so nothing else is left of the order in which they came. -/
namespace Stencil.Data

theorem keyBefore_iff_lt (as bs : List Char) : keyBefore as bs = true ↔ as < bs := by
  fun_induction keyBefore as bs with
  | case1 => simp
  | case2 b bs => simp
  | case3 a as => simp
  | case4 a as b bs ih =>
    have hchar : a.toNat < b.toNat ↔ a < b := Iff.rfl
    rw [List.cons_lt_cons_iff, ← ih]
    simp [hchar]

theorem keyBefore_iff {s t : String} : keyBefore s.toList t.toList = true ↔ s < t := by
  rw [keyBefore_iff_lt, String.lt_iff_toList_lt]

/-! ### Entries in order -/

/-- Where no key comes twice, an entry is what is found under its key. -/
theorem mem_iff_lookup {es : List (String × Tree)} (h : (es.map Prod.fst).Nodup) {key : String}
    {t : Tree} : (key, t) ∈ es ↔ es.lookup key = some t := by
  constructor
  · intro hmem
    obtain ⟨before, after, rfl⟩ := List.append_of_mem hmem
    rw [List.map_append, List.map_cons, List.nodup_middle, List.nodup_cons] at h
    refine List.lookup_eq_some_iff.mpr ⟨before, after, rfl, fun other hother => ?_⟩
    have hmem : other.1 ∈ before.map Prod.fst := List.mem_map_of_mem hother
    have hne : key ≠ other.1 := fun he => h.1 (List.mem_append_left _ (he ▸ hmem))
    simpa using hne
  · intro hlookup
    obtain ⟨before, after, rfl, -⟩ := List.lookup_eq_some_iff.mp hlookup
    exact List.mem_append_right before List.mem_cons_self

/-- Each key stands before all that follow. -/
def KeysAscend (es : List (String × Tree)) : Prop := es.Pairwise fun a b => a.1 < b.1

namespace KeysAscend
variable {es fs : List (String × Tree)}

theorem nodup_keys (h : KeysAscend es) : (es.map Prod.fst).Nodup :=
  List.pairwise_map.mpr (h.imp ne_of_lt)

/-- **Entries in order are settled by what is found under the keys.** -/
theorem ext (hes : KeysAscend es) (hfs : KeysAscend fs)
    (h : ∀ key, es.lookup key = fs.lookup key) : es = fs := by
  have hmem (e : String × Tree) : e ∈ es ↔ e ∈ fs := by
    rw [mem_iff_lookup hes.nodup_keys, mem_iff_lookup hfs.nodup_keys, h]
  have hperm : es.Perm fs :=
    (List.perm_ext_iff_of_nodup hes.nodup_keys.of_map hfs.nodup_keys.of_map).mpr hmem
  exact hperm.eq_of_pairwise (fun a b _ _ hab hba => absurd hab hba.asymm) hes hfs

end KeysAscend

/-! ### Putting entries in -/

theorem lookup_cons_eq (key : String) (t : Tree) (es : List (String × Tree)) (query : String) :
    ((key, t) :: es).lookup query = if query = key then some t else es.lookup query := by
  rw [List.lookup_cons]
  by_cases h : query = key
  · simp [h]
  · have hne : (query == key) = false := by simpa using h
    rw [hne, if_neg h]

/-- An entry that is put in changes what is found under its key, and nothing else. -/
theorem lookup_putSorted (key : String) (t : Tree) (es : List (String × Tree)) (query : String) :
    (putSorted key t es).lookup query = if query = key then some t else es.lookup query := by
  fun_induction putSorted key t es with
  | case1 => exact lookup_cons_eq key t [] query
  | case2 u rest =>
    rw [lookup_cons_eq, lookup_cons_eq]
    split <;> rfl
  | case3 k u rest hkey hbefore => exact lookup_cons_eq key t _ query
  | case4 k u rest hkey hbefore ih =>
    -- The entry is put in behind one with another key.
    rw [lookup_cons_eq, lookup_cons_eq, ih]
    by_cases h : query = k
    · have hother : query ≠ key := fun he => hkey (he ▸ h)
      rw [if_pos h, if_neg hother, if_pos h]
    · rw [if_neg h, if_neg h]

theorem mem_putSorted {key : String} {t : Tree} {es : List (String × Tree)} {e : String × Tree}
    (h : e ∈ putSorted key t es) : e = (key, t) ∨ e ∈ es := by
  fun_induction putSorted key t es with
  | case1 => simpa using h
  | case2 u rest => exact (List.mem_cons.mp h).imp_right (List.mem_cons_of_mem _)
  | case3 k u rest hkey hbefore => exact List.mem_cons.mp h
  | case4 k u rest hkey hbefore ih =>
    rcases List.mem_cons.mp h with rfl | hrest
    · exact Or.inr List.mem_cons_self
    · exact (ih hrest).imp_right (List.mem_cons_of_mem _)

theorem putSorted_ascend (key : String) (t : Tree) {es : List (String × Tree)}
    (h : KeysAscend es) : KeysAscend (putSorted key t es) := by
  fun_induction putSorted key t es with
  | case1 => exact List.pairwise_singleton _ _
  | case2 u rest => exact List.pairwise_cons.mpr (List.pairwise_cons.mp h)
  | case3 k u rest hkey hbefore =>
    have hlt : key < k := keyBefore_iff.mp hbefore
    refine List.pairwise_cons.mpr ⟨fun e he => ?_, h⟩
    rcases List.mem_cons.mp he with rfl | hrest
    · exact hlt
    · exact hlt.trans ((List.pairwise_cons.mp h).1 e hrest)
  | case4 k u rest hkey hbefore ih =>
    obtain ⟨hfirst, hrest⟩ := List.pairwise_cons.mp h
    have hlt : k < key := by
      rw [keyBefore_iff] at hbefore
      exact lt_of_le_of_ne (not_lt.mp hbefore) (Ne.symm hkey)
    refine List.pairwise_cons.mpr ⟨fun e he => ?_, ih hrest⟩
    rcases mem_putSorted he with rfl | hmem
    · exact hlt
    · exact hfirst e hmem

/-- Entries are put in one after the other, each with its own maps in order. -/
theorem sortedEntries_ascend {done : List (String × Tree)} (h : KeysAscend done)
    (es : List (String × Tree)) : KeysAscend (sortedEntries done es) := by
  induction es generalizing done with
  | nil => exact h
  | cons e rest ih => exact ih (putSorted_ascend e.1 e.2.sorted h)

/-- **Under each key stands what was put in last**, with its own maps in order. -/
theorem lookup_sortedEntries (done es : List (String × Tree)) (key : String) :
    (sortedEntries done es).lookup key =
      ((es.reverse.lookup key).map Tree.sorted).or (done.lookup key) := by
  induction es generalizing done with
  | nil => rfl
  | cons e rest ih =>
    obtain ⟨k, t⟩ := e
    rw [sortedEntries, ih, lookup_putSorted, List.reverse_cons, List.lookup_append,
      lookup_cons_eq]
    cases rest.reverse.lookup key with
    | some u => rfl
    | none => split <;> rfl

/-- Where no key comes twice, the order in which entries are put in makes no difference. -/
theorem sortedEntries_perm {es fs : List (String × Tree)} (h : (es.map Prod.fst).Nodup)
    (hperm : es.Perm fs) : sortedEntries [] es = sortedEntries [] fs := by
  have hempty : KeysAscend [] := List.Pairwise.nil
  have hlookup (key : String) : es.reverse.lookup key = fs.reverse.lookup key := by
    have hrev : es.reverse.Perm fs.reverse :=
      (es.reverse_perm.trans hperm).trans fs.reverse_perm.symm
    have hes : (es.reverse.map Prod.fst).Nodup := ((es.reverse_perm.map _).nodup_iff).mpr h
    have hfs : (fs.reverse.map Prod.fst).Nodup := ((hrev.map _).nodup_iff).mp hes
    ext t
    rw [← mem_iff_lookup hes, ← mem_iff_lookup hfs, hrev.mem_iff]
  refine (sortedEntries_ascend hempty es).ext (sortedEntries_ascend hempty fs) fun key => ?_
  rw [lookup_sortedEntries, lookup_sortedEntries, hlookup]

/-- Of the entries that are put in only the sorted values matter. -/
theorem sortedEntries_congr {es fs : List (String × Tree)}
    (h : es.map (fun e => (e.1, e.2.sorted)) = fs.map fun e => (e.1, e.2.sorted))
    (done : List (String × Tree)) : sortedEntries done es = sortedEntries done fs := by
  induction es generalizing fs done with
  | nil =>
    rw [List.map_nil, eq_comm, List.map_eq_nil_iff] at h
    rw [h]
  | cons e es ih =>
    obtain ⟨f, fs, rfl, hef, hrest⟩ := List.map_eq_cons_iff.mp h.symm
    obtain ⟨hkey, hvalue⟩ := Prod.mk.inj hef
    rw [sortedEntries, sortedEntries, ih hrest.symm, hkey, hvalue]

end Stencil.Data
