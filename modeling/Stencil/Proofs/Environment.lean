import Mathlib
import Stencil.Function.Requirement
import Stencil.Proofs.Except
import Stencil.Proofs.Processor.Influence
import Stencil.Surroundings

/-! Variables and those who ask for them.

A snapshot keeps a variable under the text of its name, whatever bytes the name was. A reference
makes a text of its name by itself, and functions are given texts. `readers_agree` says that they
all come to the same variable, or all to none; they differ only in what they do with none. A
variable that is set to nothing is set.

An environment is a list in the order of its names, but a look-up does not need the order:
`get?_insert` holds of any list, so the last one of several variables of a name counts. -/
namespace Stencil
open Text.Utf8 (Bytes lossyText encodeText)

namespace Environment

theorem get?_cons (name value : String) (env : Environment) (query : String) :
    get? ((name, value) :: env) query = if query = name then some value else env.get? query := by
  rw [get?, List.lookup_cons]
  by_cases h : query = name
  · simp [h]
  · have hne : (query == name) = false := by simpa using h
    rw [hne, if_neg h]
    rfl

/-- A variable that is put in changes what is found under its name, and nothing else. -/
theorem get?_insert (name value : String) (env : Environment) (query : String) :
    (insert name value env).get? query = if query = name then some value else env.get? query := by
  induction env with
  | nil => exact get?_cons name value [] query
  | cons entry rest ih =>
    obtain ⟨n, v⟩ := entry
    rw [insert]
    split
    · next hname =>
      rw [get?_cons, get?_cons, hname]
      split <;> rfl
    · next hname =>
      split
      · exact get?_cons name value _ query
      · -- The variable is put in behind one of another name.
        rw [get?_cons, get?_cons, ih]
        by_cases h : query = n
        · have hother : query ≠ name := fun he => hname (he ▸ h)
          rw [if_pos h, if_neg hother, if_pos h]
        · rw [if_neg h, if_neg h]

/-- Of the entries with a name the last one is found. -/
theorem get?_ofList (entries : List (String × String)) (query : String) :
    (ofList entries).get? query = entries.reverse.lookup query := by
  induction entries using List.reverseRecOn with
  | nil => rfl
  | append_singleton entries entry ih =>
    have hlast : ofList (entries ++ [entry]) = insert entry.1 entry.2 (ofList entries) := by
      rw [ofList, List.foldl_append]
      rfl
    have hfirst := get?_cons entry.1 entry.2 entries.reverse query
    rw [hlast, get?_insert, ih, List.reverse_append, List.reverse_singleton,
      List.singleton_append]
    exact hfirst.symm

/-- Where no name comes twice, each entry is found under its name. -/
theorem get?_ofList_of_mem {entries : List (String × String)} (hnames : (entries.map (·.1)).Nodup)
    {entry : String × String} (h : entry ∈ entries) :
    (ofList entries).get? entry.1 = some entry.2 := by
  obtain ⟨before, after, rfl⟩ := List.append_of_mem h
  rw [List.map_append, List.map_cons, List.nodup_middle, List.nodup_cons] at hnames
  rw [get?_ofList, List.lookup_eq_some_iff]
  refine ⟨after.reverse, before.reverse, by simp, fun other hother => ?_⟩
  have hne : entry.1 ≠ other.1 := by
    intro he
    apply hnames.1
    rw [he]
    exact List.mem_append_right _ (List.mem_map_of_mem (List.mem_reverse.mp hother))
  simpa using hne

theorem get?_ofList_of_forall_ne {entries : List (String × String)} {query : String}
    (h : ∀ entry ∈ entries, entry.1 ≠ query) : (ofList entries).get? query = none := by
  rw [get?_ofList, List.lookup_eq_none_iff]
  intro entry hmem
  have := h entry (List.mem_reverse.mp hmem)
  simpa using this.symm

end Environment

/-- A snapshot holds the environment that was captured. -/
theorem Surroundings.capture_environment {s : Surroundings} {snapshot : Snapshot}
    (h : s.capture = .ok snapshot) : snapshot.environment = .ofBytes s.environment := by
  obtain ⟨_, -, h⟩ := of_bind_eq_ok h
  obtain ⟨_, -, h⟩ := of_bind_eq_ok h
  obtain ⟨_, -, h⟩ := of_bind_eq_ok h
  obtain ⟨_, -, h⟩ := of_bind_eq_ok h
  obtain ⟨_, -, h⟩ := of_bind_eq_ok h
  obtain ⟨_, -, h⟩ := of_bind_eq_ok h
  cases h
  rfl

namespace Snapshot
variable {s : Surroundings} {snapshot : Snapshot}

/-- A variable is found under the text of its name, if no other name has that text. -/
theorem lookupEnv_of_mem (hcapture : s.capture = .ok snapshot)
    (hnames : (s.environment.map fun v => lossyText v.1).Nodup) {entry : Bytes × Bytes}
    (h : entry ∈ s.environment) :
    snapshot.lookupEnv (lossyText entry.1) = some (lossyText entry.2) := by
  rw [lookupEnv, Surroundings.capture_environment hcapture, Environment.ofBytes]
  have htexts : (lossyText entry.1, lossyText entry.2) ∈
      s.environment.map fun v => (lossyText v.1, lossyText v.2) :=
    List.mem_map_of_mem h
  refine Environment.get?_ofList_of_mem ?_ htexts
  rwa [List.map_map]

theorem lookupEnv_of_forall_ne (hcapture : s.capture = .ok snapshot) {query : String}
    (h : ∀ entry ∈ s.environment, lossyText entry.1 ≠ query) : snapshot.lookupEnv query = none := by
  rw [lookupEnv, Surroundings.capture_environment hcapture, Environment.ofBytes]
  apply Environment.get?_ofList_of_forall_ne
  intro text htext
  obtain ⟨entry, hmem, rfl⟩ := List.mem_map.mp htext
  exact h entry hmem

end Snapshot

namespace Processor
open Expansion
variable {σ : Type}

/-- A name between its braces is one stretch. -/
theorem spans_reference {name : Bytes} (hne : name ≠ []) (hclosing : closing ∉ name) :
    spans (Span.reference name).source = [.reference name] := by
  have hread : reference (name ++ [closing]) = (some name, []) := by
    rw [reference_closed hclosing, if_neg hne]
  rw [spans, Span.source, spansFrom, if_pos ⟨rfl, rfl⟩, if_neg Bool.false_ne_true, Span.opened,
    hread, spansFrom]

/-- Expansion alone puts a variable in the place of a reference, or nothing. -/
theorem substituteBytes_reference (snapshot : Snapshot) {name : Bytes} (hne : name ≠ [])
    (hclosing : closing ∉ name) (render : Renderer σ) (debug : Bool) (st : σ) :
    ((ofSnapshot snapshot render .expandOnly debug).substituteBytes
        (Span.reference name).source).run st =
      (.ok (encodeText ((snapshot.lookupEnv (lossyText name)).getD "")), st) := by
  rw [substituteBytes_expandOnly, spans_reference hne hclosing]
  simp [names, fill, Snapshot.getenv]

/-- **All readers of a captured environment agree.** Where no two names have the same text, a
variable whose name has the text of another name is what a reference by that name gives way to, what
`getenv` yields in spite of any fallback, and enough for `required_envs`. Without such a variable a
reference gives way to nothing, `getenv` yields its fallback, and `required_envs` names what is
missing. -/
theorem readers_agree (s : Surroundings) {snapshot : Snapshot} (hcapture : s.capture = .ok snapshot)
    (hnames : (s.environment.map fun v => lossyText v.1).Nodup) {name : Bytes} (hne : name ≠ [])
    (hclosing : closing ∉ name) (render : Renderer σ) (debug : Bool) (st : σ) :
    let expanded := ((ofSnapshot snapshot render .expandOnly debug).substituteBytes
      (Span.reference name).source).run st
    let query := lossyText name
    (∀ entry ∈ s.environment, lossyText entry.1 = query →
        expanded = (.ok (encodeText (lossyText entry.2)), st) ∧
          (∀ fallback, Function.getenv snapshot query fallback = lossyText entry.2) ∧
          Function.requiredEnvs snapshot [query] = .ok "") ∧
      ((∀ entry ∈ s.environment, lossyText entry.1 ≠ query) →
        expanded = (.ok [], st) ∧
          (∀ fallback, Function.getenv snapshot query fallback = fallback.getD "") ∧
          Function.requiredEnvs snapshot [query] = .error (.missingEnvironment query) ∧
          (Problem.missingEnvironment query).sort = .invalidOperation ∧
          (Problem.missingEnvironment query).detail? =
            some ("required environmental variable missing: $\x7b" ++ query ++ "\x7d")) := by
  intro expanded query
  have hexpanded : expanded = (.ok (encodeText ((snapshot.lookupEnv query).getD "")), st) :=
    substituteBytes_reference snapshot hne hclosing render debug st
  constructor
  · intro entry hmem htext
    have hfound : snapshot.lookupEnv query = some (lossyText entry.2) :=
      htext ▸ Snapshot.lookupEnv_of_mem hcapture hnames hmem
    refine ⟨by rw [hexpanded, hfound]; rfl, fun fallback => ?_, ?_⟩
    · rw [Function.getenv, hfound]
    · simp [Function.requiredEnvs, hfound]
  · intro hnone
    have hmissing : snapshot.lookupEnv query = none :=
      Snapshot.lookupEnv_of_forall_ne hcapture hnone
    refine ⟨by rw [hexpanded, hmissing]; rfl, fun fallback => ?_, ?_, rfl, rfl⟩
    · rw [Function.getenv, hmissing]
    · simp [Function.requiredEnvs, hmissing]

/-- A name whose text is that of another one, which is set to nothing, and a special name that is
not set. -/
theorem readers_agree_not_text :
    let s : Surroundings :=
      { environment := [([0xFF], []), ([0x48, 0x4F, 0x4D, 0x45], [0x2F, 0xFE])]
        directory := .ok [0x2F] }
    let render : Renderer Unit := fun template _ => pure (.ok template)
    let name : Bytes := [0xFE]
    let sign : Bytes := [0x23]
    ∃ snapshot, s.capture = .ok snapshot ∧ (s.environment.map fun v => lossyText v.1).Nodup ∧
      (name ≠ [] ∧ closing ∉ name ∧ ([0xFF], []) ∈ s.environment ∧
        lossyText [0xFF] = lossyText name ∧
        ((ofSnapshot snapshot render .expandOnly false).substituteBytes
          (Span.reference name).source).run () = (.ok [], ()) ∧
        Function.getenv snapshot (lossyText name) (some "x") = "" ∧
        Function.requiredEnvs snapshot [lossyText name] = .ok "") ∧
      sign ≠ [] ∧ closing ∉ sign ∧
        (∀ entry ∈ s.environment, lossyText entry.1 ≠ lossyText sign) ∧
        Function.getenv snapshot (lossyText sign) (some "x") = "x" ∧
        Function.requiredEnvs snapshot [lossyText sign] =
          .error (.missingEnvironment (lossyText sign)) := by
  intro s render name sign
  obtain ⟨snapshot, hcapture⟩ : ∃ snapshot, s.capture = .ok snapshot := ⟨_, by cbv⟩
  have hnames : (s.environment.map fun v => lossyText v.1).Nodup := by decide +kernel
  have hname : name ≠ [] ∧ closing ∉ name := by decide
  have hsign : sign ≠ [] ∧ closing ∉ sign := by decide
  have hmem : ([0xFF], []) ∈ s.environment := List.mem_cons_self
  have htext : lossyText [0xFF] = lossyText name := by decide +kernel
  have hempty : lossyText [] = "" := by decide +kernel
  have hother : ∀ entry ∈ s.environment, lossyText entry.1 ≠ lossyText sign := by decide +kernel
  obtain ⟨hset, -⟩ := readers_agree s hcapture hnames hname.1 hname.2 render false ()
  obtain ⟨-, hunset⟩ := readers_agree s hcapture hnames hsign.1 hsign.2 render false ()
  obtain ⟨hexpanded, hgetenv, hrequired⟩ := hset _ hmem htext
  obtain ⟨-, hfallback, hmissing, -⟩ := hunset hother
  refine ⟨snapshot, hcapture, hnames, ⟨hname.1, hname.2, hmem, htext, ?_, ?_, hrequired⟩,
    hsign.1, hsign.2, hother, hfallback _, hmissing⟩
  · rw [hexpanded, hempty]
    rfl
  · rw [hgetenv, hempty]

end Processor
end Stencil
