import Mathlib.Data.List.TakeWhile
import Stencil.CommandLine
import Stencil.Proofs.Except

/-! The switches of a command line.

`given` says which switches the arguments spell, by their long names and by their letters, wherever
they stand. A command line that is accepted turns these on and nothing else (`options_of_read`). -/
namespace Stencil.CommandLine

/-- The switches that an argument spells: one by its long name, or one by each letter. -/
def spelled : List Char → List Switch
  | '-' :: '-' :: name => (Switch.ofName? (String.ofList name)).toList
  | '-' :: letters => letters.filterMap Switch.ofLetter?
  | _ => []

/-- The switches that arguments spell. -/
def given (arguments : List String) : List Switch := arguments.flatMap fun a => spelled a.toList

/-- Options with more switches on. -/
def Options.on (o : Options) (switches : List Switch) : Options :=
  { expandOnly := o.expandOnly || switches.contains .expandOnly
    templateOnly := o.templateOnly || switches.contains .templateOnly
    debug := o.debug || switches.contains .debug
    verbose := o.verbose || switches.contains .verbose }

@[simp]
theorem Options.on_nil (o : Options) : o.on [] = o := by
  simp [Options.on]

theorem Options.on_append (o : Options) (a b : List Switch) : o.on (a ++ b) = (o.on a).on b := by
  simp [Options.on, Bool.or_assoc]

/-! ### Reading -/

theorem turnOn_eq_ok {o o' : Options} {isLong : Bool} {s : Switch}
    (h : o.turnOn isLong s = .ok o') : o' = o.on [s] := by
  have honce {before : Bool} {after : Options} (h : Options.turnOn.once before after = .ok o') :
      after = o' := by
    cases before with
    | true => cases h
    | false => exact Except.ok.inj h
  cases s with
  | expandOnly | templateOnly | debug | verbose =>
    rw [← honce h]
    simp [Options.on]
  | help | version => cases h

theorem readName_eq_ok {o o' : Options} {name : List Char}
    (h : readName o (String.ofList (name.takeWhile (· != '='))) (name.contains '=') = .ok o') :
    o' = o.on (Switch.ofName? (String.ofList name)).toList := by
  unfold readName at h
  split at h
  · cases h
  · next s hs =>
    split at h
    · cases h
    · next hplain =>
      -- Without a value the name is all of the argument.
      have hname : name.takeWhile (· != '=') = name := by
        rw [List.contains_iff_mem] at hplain
        rw [List.takeWhile_eq_self_iff]
        intro c hc
        rw [bne_iff_ne]
        rintro rfl
        exact hplain hc
      rw [hname] at hs
      rw [hs, turnOn_eq_ok h]
      rfl

theorem readLetters_eq_ok {o o' : Options} {letters : List Char}
    (h : readLetters o letters = .ok o') : o' = o.on (letters.filterMap Switch.ofLetter?) := by
  induction letters generalizing o with
  | nil =>
    cases h
    rw [List.filterMap_nil, Options.on_nil]
  | cons c rest ih =>
    rw [readLetters] at h
    split at h
    · cases h
    · next s hs =>
      obtain ⟨o₁, hon, hrest⟩ := of_bind_eq_ok h
      rw [List.filterMap_cons_some hs, ← List.singleton_append, Options.on_append,
        ← turnOn_eq_ok hon, ih hrest]

theorem readArgument_eq_ok {o o' : Options} {argument : List Char}
    (h : readArgument o argument = .ok o') : o' = o.on (spelled argument) := by
  unfold readArgument at h
  split at h
  · exact readName_eq_ok h
  · next c cs hc =>
    rw [readLetters_eq_ok h, spelled]
    intro name he
    exact hc (List.cons.inj he).1
  · cases h

theorem readFrom_eq_ok {o o' : Options} {arguments : List String}
    (h : readFrom o arguments = .ok o') : o' = o.on (given arguments) := by
  induction arguments generalizing o with
  | nil =>
    cases h
    exact (Options.on_nil _).symm
  | cons a rest ih =>
    rw [given, List.flatMap_cons, Options.on_append]
    unfold readFrom at h
    split at h
    · next he => cases he
    · next he =>
      -- Two dashes are the last argument, and spell nothing.
      obtain ⟨rfl, rfl⟩ := List.cons.inj he
      split at h
      · next hrest =>
        cases h
        have hdashes : spelled "--".toList = [] := by decide
        rw [List.isEmpty_iff.mp hrest, hdashes, List.flatMap_nil, Options.on_nil, Options.on_nil]
      · cases h
    · next he =>
      obtain ⟨rfl, rfl⟩ := List.cons.inj he
      obtain ⟨o₁, ha, hrest⟩ := of_bind_eq_ok h
      rw [← readArgument_eq_ok ha]
      exact ih hrest

/-- **An accepted command line turns on the switches that it spells**, and no others. -/
theorem options_of_read {arguments : List String} {o : Options} (h : read arguments = .ok o) :
    o = ({} : Options).on (given arguments) :=
  readFrom_eq_ok h

end Stencil.CommandLine
