import Mathlib
import Stencil.Function.Choice

/-! Maps from pairs.

`dict` puts its pairs into a map one after the other. A key stands where it came first and has the
value that came with it last: `Collects` says so of the map behind some of the pairs, and each
further pair keeps it (`Collects.insert`). `dict_first_place_last_value` also says when there is no
map: an argument without a partner comes before any look at keys, a key without a text after it. -/
namespace Stencil

namespace Value
variable {entries : List (Value × Value)} {keys : List String}

/-- Texts are one key exactly if they are equal. -/
theorem sameKey_ofString (s t : String) : sameKey (ofString s) (ofString t) = (s == t) := rfl

theorem ofString_injective : Function.Injective ofString := by
  intro s t h
  exact (Value.text.inj h).1

/-- An entry that is put in adds its key behind the others, unless it is there. -/
theorem keys_insertEntry (h : entries.map Prod.fst = keys.map ofString) (s : String) (v : Value) :
    (insertEntry (ofString s) v entries).map Prod.fst =
      (if s ∈ keys then keys else keys ++ [s]).map ofString := by
  induction entries generalizing keys with
  | nil =>
    have hkeys : keys = [] := by simpa using h.symm
    subst hkeys
    rfl
  | cons entry entries ih =>
    cases keys with
    | nil => simp at h
    | cons t keys =>
      obtain ⟨hhead, htail⟩ := List.cons.inj h
      obtain ⟨k, w⟩ := entry
      change k = ofString t at hhead
      subst hhead
      rw [insertEntry, sameKey_ofString]
      by_cases hst : t = s
      · subst hst
        simp [htail]
      · have hmem : s ∈ t :: keys ↔ s ∈ keys := by
          simp [Ne.symm hst]
        rw [if_neg (by simpa using hst), List.map_cons, ih htail]
        by_cases hs : s ∈ keys
        · rw [if_pos hs, if_pos (hmem.mpr hs), List.map_cons]
        · rw [if_neg hs, if_neg (fun h => hs (hmem.mp h)), List.cons_append, List.map_cons]

/-- An entry that is put in changes what is found under its key, and nothing else. -/
theorem lookup?_insertEntry (h : entries.map Prod.fst = keys.map ofString) (s : String) (v : Value)
    (query : String) :
    lookup? (ofString query) (insertEntry (ofString s) v entries) =
      if query = s then some v else lookup? (ofString query) entries := by
  induction entries generalizing keys with
  | nil =>
    by_cases hq : query = s
    · simp [insertEntry, lookup?, sameKey_ofString, hq]
    · simp [insertEntry, lookup?, sameKey_ofString, hq, Ne.symm hq]
  | cons entry entries ih =>
    cases keys with
    | nil => simp at h
    | cons t keys =>
      obtain ⟨hhead, htail⟩ := List.cons.inj h
      obtain ⟨k, w⟩ := entry
      change k = ofString t at hhead
      subst hhead
      rw [insertEntry, sameKey_ofString]
      by_cases hst : t = s
      · subst hst
        by_cases hq : t = query
        · subst hq
          simp [lookup?, sameKey_ofString]
        · simp [lookup?, sameKey_ofString, hq, Ne.symm hq]
      · rw [if_neg (by simpa using hst), lookup?, ih htail, lookup?, sameKey_ofString]
        by_cases hq : t = query
        · subst hq
          simp [hst]
        · simp [hq]

end Value

namespace Function
open Value (ofString insertEntry lookup?)

/-- Values two by two; one without a partner is left out. -/
def pairs : List Value → List (Value × Value)
  | key :: value :: rest => (key, value) :: pairs rest
  | _ => []

/-- The texts that are the keys of pairs. -/
def keyTexts (ps : List (Value × Value)) : List String := ps.filterMap fun p => p.1.asText?

/-- The value of the last pair with a key. -/
def lastWith? (key : String) (ps : List (Value × Value)) : Option Value :=
  (ps.reverse.find? fun p => p.1.asText? = some key).map Prod.snd

/-- A map is what pairs make: their keys stand in it in the order in which they first come, each with
the value that comes with it last. -/
structure Collects (ps entries : List (Value × Value)) : Prop where
  keys : entries.map Prod.fst = (keyTexts ps).eraseDups.map ofString
  values : ∀ key, lookup? (ofString key) entries = lastWith? key ps

theorem eraseDups_concat (keys : List String) (s : String) :
    (keys ++ [s]).eraseDups = if s ∈ keys.eraseDups then keys.eraseDups else keys.eraseDups ++ [s] := by
  rw [List.eraseDups_append]
  by_cases hs : s ∈ keys
  · simp [List.removeAll, hs]
  · simp [List.removeAll, hs, List.eraseDups_cons]

theorem nodup_eraseDups (keys : List String) : keys.eraseDups.Nodup := by
  induction keys using List.reverseRecOn with
  | nil => simp
  | append_singleton keys s ih =>
    rw [eraseDups_concat]
    by_cases hs : s ∈ keys.eraseDups
    · rwa [if_pos hs]
    · rw [if_neg hs]
      simpa using ih.concat hs

namespace Collects
variable {ps entries : List (Value × Value)}

theorem nil : Collects [] [] := ⟨rfl, fun _ => rfl⟩

/-- One more pair puts its entry in. -/
theorem insert (h : Collects ps entries) {key : Value} {s : String} (hkey : key.asText? = some s)
    (value : Value) :
    Collects (ps ++ [(key, value)]) (insertEntry (ofString s) value entries) := by
  constructor
  · have hkeys : keyTexts (ps ++ [(key, value)]) = keyTexts ps ++ [s] := by
      simp [keyTexts, hkey]
    rw [Value.keys_insertEntry h.keys, hkeys, eraseDups_concat]
  · intro query
    rw [Value.lookup?_insertEntry h.keys, h.values, lastWith?, lastWith?, List.reverse_append,
      List.reverse_singleton, List.singleton_append, List.find?_cons]
    by_cases hq : query = s
    · simp [hq, hkey]
    · simp [hq, hkey, Ne.symm hq]

theorem keys_nodup (h : Collects ps entries) : (entries.map Prod.fst).Nodup := by
  rw [h.keys]
  exact (nodup_eraseDups _).map Value.ofString_injective

/-- The keys of the map are those of the pairs. -/
theorem mem_keys (h : Collects ps entries) (key : String) :
    ofString key ∈ entries.map Prod.fst ↔ key ∈ keyTexts ps := by
  rw [h.keys, List.mem_map_of_injective Value.ofString_injective, List.mem_eraseDups]

end Collects

/-! ### Pairs one after the other -/

theorem dictFrom_keyNotText {args : List Value} (h : ∃ p ∈ pairs args, p.1.asText? = none)
    (entries : List (Value × Value)) : dictFrom entries args = .error .keyNotText := by
  fun_induction pairs args generalizing entries with
  | case1 key value rest ih =>
    rw [dictFrom]
    cases hkey : key.asText? with
    | none => rfl
    | some s =>
      obtain ⟨p, hmem, hp⟩ := h
      rcases List.mem_cons.mp hmem with rfl | hmem
      · rw [hkey] at hp
        cases hp
      · exact ih ⟨p, hmem, hp⟩ _
  | case2 args hargs =>
    obtain ⟨p, hmem, -⟩ := h
    cases hmem

/-- Pairs whose keys are texts make a map, behind those that are in it. -/
theorem dictFrom_collects {args : List Value} (h : ∀ p ∈ pairs args, p.1.asText? ≠ none)
    {before entries : List (Value × Value)} (hbefore : Collects before entries) :
    ∃ es, dictFrom entries args = .ok (.map es) ∧ Collects (before ++ pairs args) es := by
  fun_induction pairs args generalizing before entries with
  | case1 key value rest ih =>
    obtain ⟨s, hkey⟩ := Option.ne_none_iff_exists'.mp (h _ List.mem_cons_self)
    obtain ⟨es, hes, hcollects⟩ :=
      ih (fun p hmem => h p (List.mem_cons_of_mem _ hmem)) (hbefore.insert hkey value)
    refine ⟨es, ?_, ?_⟩
    · rw [dictFrom, hkey]
      exact hes
    · rwa [List.append_assoc] at hcollects
  | case2 args hargs =>
    refine ⟨entries, ?_, by rwa [List.append_nil]⟩
    rw [dictFrom]
    exact hargs

/-- Of an even number of values the keys are those at even places. -/
theorem exists_mem_pairs_iff {args : List Value} (heven : args.length % 2 = 0)
    (P : Value → Prop) :
    (∃ p ∈ pairs args, P p.1) ↔ ∃ i key, args[2 * i]? = some key ∧ P key := by
  fun_induction pairs args with
  | case1 key value rest ih =>
    have hrest : rest.length % 2 = 0 := by
      simp only [List.length_cons] at heven
      omega
    constructor
    · rintro ⟨p, hmem, hp⟩
      rcases List.mem_cons.mp hmem with rfl | hmem
      · exact ⟨0, key, rfl, hp⟩
      · obtain ⟨i, k, hk, hp⟩ := (ih hrest).mp ⟨p, hmem, hp⟩
        exact ⟨i + 1, k, hk, hp⟩
    · rintro ⟨i, k, hk, hp⟩
      cases i with
      | zero =>
        cases hk
        exact ⟨_, List.mem_cons_self, hp⟩
      | succ i =>
        obtain ⟨p, hmem, hp⟩ := (ih hrest).mpr ⟨i, k, hk, hp⟩
        exact ⟨p, List.mem_cons_of_mem _ hmem, hp⟩
  | case2 args hargs =>
    have hnil : args = [] := by
      match args with
      | [] => rfl
      | [_] => simp at heven
      | key :: value :: rest => exact absurd rfl (hargs key value rest)
    simp [hnil]

/-! ### The map -/

theorem dict_odd {args : List Value} (hodd : args.length % 2 = 1) :
    dict args = .error .oddPairs := by
  rw [dict, if_pos (by simp [hodd])]

theorem dict_even {args : List Value} (heven : args.length % 2 = 0) :
    dict args = dictFrom [] args := by
  rw [dict, if_neg (by simp [heven])]

/-- Every call ends in one of three ways. -/
theorem dict_cases (args : List Value) :
    (args.length % 2 = 1 ∧ dict args = .error .oddPairs) ∨
      (args.length % 2 = 0 ∧ (∃ p ∈ pairs args, p.1.asText? = none) ∧
        dict args = .error .keyNotText) ∨
      (args.length % 2 = 0 ∧ (¬ ∃ p ∈ pairs args, p.1.asText? = none) ∧
        ∃ entries, dict args = .ok (.map entries) ∧ Collects (pairs args) entries) := by
  rcases Nat.mod_two_eq_zero_or_one args.length with heven | hodd
  · by_cases hbad : ∃ p ∈ pairs args, p.1.asText? = none
    · exact .inr (.inl ⟨heven, hbad, by rw [dict_even heven, dictFrom_keyNotText hbad]⟩)
    · have hkeys : ∀ p ∈ pairs args, p.1.asText? ≠ none := fun p hmem hp => hbad ⟨p, hmem, hp⟩
      obtain ⟨entries, hentries, hcollects⟩ := dictFrom_collects hkeys .nil
      exact .inr (.inr ⟨heven, hbad, entries, by rw [dict_even heven, hentries], hcollects⟩)
  · exact .inl ⟨hodd, dict_odd hodd⟩

/-- **A key stands where it first comes, with the value that comes last.** Arguments make no map
exactly if one of them has no partner, which is looked at first, or one at an even place has no
text. Otherwise the map has the texts at even places as its keys, each of them once and in the order
in which they first come, and under each key the value behind the last argument with that text. -/
theorem dict_first_place_last_value (args : List Value) :
    (dict args = .error .oddPairs ↔ args.length % 2 = 1) ∧
      (dict args = .error .keyNotText ↔
        args.length % 2 = 0 ∧ ∃ i key, args[2 * i]? = some key ∧ key.asText? = none) ∧
      ((∃ problem, dict args = .error problem) ↔
        args.length % 2 = 1 ∨ ∃ i key, args[2 * i]? = some key ∧ key.asText? = none) ∧
      (Problem.oddPairs.detail? =
          some "dict requires an even number of arguments (key-value pairs)" ∧
        Problem.keyNotText.detail? = some "dict keys must be strings") ∧
      ∀ v, dict args = .ok v →
        ∃ entries, v = .map entries ∧
          (entries.map Prod.fst).Nodup ∧
          entries.map Prod.fst = (keyTexts (pairs args)).eraseDups.map ofString ∧
          (∀ key, ofString key ∈ entries.map Prod.fst ↔ key ∈ keyTexts (pairs args)) ∧
          ∀ key, lookup? (ofString key) entries = lastWith? key (pairs args) := by
  rcases dict_cases args with ⟨hodd, hd⟩ | ⟨heven, hbad, hd⟩ | ⟨heven, hgood, entries, hd, hmap⟩
  · refine ⟨?_, ?_, ?_, ⟨rfl, rfl⟩, ?_⟩ <;> simp [hd, hodd]
  · have hplaces := (exists_mem_pairs_iff heven (·.asText? = none)).mp hbad
    refine ⟨?_, ?_, ?_, ⟨rfl, rfl⟩, ?_⟩
    · simp [hd, heven]
    · exact ⟨fun _ => ⟨heven, hplaces⟩, fun _ => hd⟩
    · exact ⟨fun _ => .inr hplaces, fun _ => ⟨_, hd⟩⟩
    · intro v hv
      rw [hd] at hv
      cases hv
  · have hplaces : ¬ ∃ i key, args[2 * i]? = some key ∧ key.asText? = none :=
      fun h => hgood ((exists_mem_pairs_iff heven (·.asText? = none)).mpr h)
    have hnot : ¬ args.length % 2 = 1 := by omega
    have hok : ∀ problem, dict args ≠ .error problem := by simp [hd]
    refine ⟨?_, ?_, ?_, ⟨rfl, rfl⟩, ?_⟩
    · exact ⟨fun h => absurd h (hok _), fun h => absurd h hnot⟩
    · exact ⟨fun h => absurd h (hok _), fun h => absurd h.2 hplaces⟩
    · exact ⟨fun h => absurd h.choose_spec (hok _), fun h => absurd h (not_or.mpr ⟨hnot, hplaces⟩)⟩
    · intro v hv
      rw [hd] at hv
      cases hv
      exact ⟨entries, rfl, hmap.keys_nodup, hmap.keys, hmap.mem_keys, hmap.values⟩

/-- A key that comes again keeps its place and takes the later value; bytes that are a text are the
key that this text is. -/
theorem dict_first_place_last_value_again :
    let args : List Value :=
      [.text "b" false, .int 1, .text "a" true, .int 2, .bytes [0x62], .int 3]
    dict args = .ok (.map [(.text "b" false, .int 3), (.text "a" false, .int 2)]) ∧
      ∃ entries, Value.map [(.text "b" false, .int 3), (.text "a" false, .int 2)] = .map entries ∧
        (entries.map Prod.fst).Nodup ∧ keyTexts (pairs args) = ["b", "a", "b"] ∧
        entries.map Prod.fst = [ofString "b", ofString "a"] ∧
        lookup? (ofString "b") entries = some (.int 3) := by
  intro args
  have hok : dict args = .ok (.map [(.text "b" false, .int 3), (.text "a" false, .int 2)]) := by
    cbv
  have htexts : keyTexts (pairs args) = ["b", "a", "b"] := by cbv
  obtain ⟨-, -, -, -, hmap⟩ := dict_first_place_last_value args
  obtain ⟨entries, heq, hnodup, hkeys, -, hvalues⟩ := hmap _ hok
  refine ⟨hok, entries, heq, hnodup, htexts, ?_, ?_⟩
  · rw [hkeys, htexts]
    rfl
  · rw [hvalues]
    cbv

end Function
end Stencil
