import Mathlib
import Stencil.Program
import Stencil.Proofs.CommandLine
import Stencil.Proofs.Except
import Stencil.Proofs.Processor.AtOnce

/-! What a run leaves behind.

A run goes through stages: it settles on a mode, takes the snapshot, reads its input, decodes it and
renders it. `FirstFault` names the stage that fails first, and `Yields` is what the input becomes if
none does. One of these is the case, and it settles the outcome (`run_writes_or_tells`): the output
and nothing else, or the words for the failure and nothing else, or not even words if the runtime
ends the run. This is so with every engine, and so on every machine. -/
namespace Stencil.Program
open CommandLine Processor
open Text.Utf8 (Bytes decodeText encodeText)

/-! ### The snapshot -/

/-- A computation fails for nothing but the process. -/
def ProcessOnly {α : Type} (x : Except Error α) : Prop :=
  ∀ e, x = .error e → ∃ reason, e = .process reason

namespace ProcessOnly

theorem ok {α : Type} (a : α) : ProcessOnly (.ok a) := by
  intro e h
  cases h

theorem bind {α β : Type} {x : Except Error α} {f : α → Except Error β} (hx : ProcessOnly x)
    (hf : ∀ a, ProcessOnly (f a)) : ProcessOnly (x >>= f) := by
  intro e h
  rcases of_bind_eq_error h with h | ⟨a, -, h⟩
  · exact hx e h
  · exact hf a e h

theorem told (kind : String) (answer : Except String Bytes) :
    ProcessOnly (Surroundings.told kind answer) := by
  intro e h
  cases answer with
  | ok bytes => cases h
  | error reason =>
    cases h
    exact ⟨_, rfl⟩

theorem required (kind : String) (path : Option Bytes) :
    ProcessOnly (Surroundings.required kind path) := by
  intro e h
  cases path with
  | some path => cases h
  | none =>
    cases h
    exact ⟨_, rfl⟩

end ProcessOnly

/-- Taking a snapshot fails for nothing else. -/
theorem capture_processOnly (s : Surroundings) : ProcessOnly s.capture := by
  refine .bind (.told _ _) fun cwd => .bind (.told _ _) fun hostname =>
    .bind (.told _ _) fun executable => ?_
  refine .bind (.required _ _) fun cache => .bind (.required _ _) fun config =>
    .bind (.required _ _) fun home => ?_
  exact .ok _

/-! ### Stages -/

section Stages
variable {σ : Type} (engine : Engine σ) (start : σ) (arguments : List String) (s : Surroundings)
  (input : Source)

/-- The arguments spell a switch. -/
def holds (x : Switch) : Bool := (given arguments).contains x

/-- Arguments that are accepted, and that ask for no log. -/
def Accepted : Prop := (∃ o, read arguments = .ok o) ∧ holds arguments .verbose = false

/-- The mode that the arguments select: each stage is on unless the other one is to be alone. -/
def modeOf : Except Error Mode :=
  Mode.of (!holds arguments .templateOnly) (!holds arguments .expandOnly)

/-- The pass over the input in a mode, once the snapshot is taken. -/
def passOf (mode : Mode) (snapshot : Snapshot) : Processor σ :=
  ofSnapshot snapshot (engine snapshot) mode (holds arguments .debug)

/-- What bytes become. -/
def substituted (mode : Mode) (snapshot : Snapshot) (bs : Bytes) : Except Error Bytes :=
  (((passOf engine arguments mode snapshot).substituteBytes bs).run start).1

/-- What the engine makes of the template that a text is. -/
def rendered (mode : Mode) (snapshot : Snapshot) (text : String) : Except Error String :=
  (engine snapshot (template snapshot mode text) (holds arguments .debug) start).1

/-- A mode is selected and the snapshot is taken. -/
structure Prepared (mode : Mode) (snapshot : Snapshot) : Prop where
  selected : modeOf arguments = .ok mode
  captured : s.capture = .ok snapshot

/-- The input is read and becomes some bytes. -/
inductive Yields : Bytes → Prop
  | intro {mode : Mode} {snapshot : Snapshot} {out : Bytes}
      (prepared : Prepared arguments s mode snapshot)
      (isRead : input.failure = none)
      (done : substituted engine start arguments mode snapshot input.data = .ok out) : Yields out

/-- The failure of the first stage that fails. -/
inductive FirstFault : Error → Prop
  | options (noExpand : holds arguments .templateOnly = true)
      (noTemplate : holds arguments .expandOnly = true) :
      FirstFault (.options "must expand or template")
  | capture {mode : Mode} {reason : String} (selected : modeOf arguments = .ok mode)
      (failed : s.capture = .error (.process reason)) : FirstFault (.process reason)
  | reading {mode : Mode} {snapshot : Snapshot} {reason : String}
      (prepared : Prepared arguments s mode snapshot)
      (failed : input.failure = some reason) : FirstFault (.io reason)
  | decoding {mode : Mode} {snapshot : Snapshot} {flaw : Text.Utf8.Flaw}
      (prepared : Prepared arguments s mode snapshot)
      (isRead : input.failure = none)
      (isTemplate : mode.template = true)
      (failed : decodeText input.data = .error flaw) : FirstFault (.utf8 flaw)
  | rendering {mode : Mode} {snapshot : Snapshot} {text : String} {e : Error}
      (prepared : Prepared arguments s mode snapshot)
      (isRead : input.failure = none)
      (isTemplate : mode.template = true)
      (decoded : decodeText input.data = .ok text)
      (failed : rendered engine start arguments mode snapshot text = .error e) : FirstFault e

end Stages

/-! ### The outcome -/

theorem diagnosis_eq (e : Error) : diagnosis e = "subst: " ++ e.message ++ "\n" := by
  have hname : CommandLine.programName ++ ": " = "subst: " := by decide
  rw [diagnosis, hname]

section Outcome
variable {σ : Type} {engine : Engine σ} {start : σ} {arguments : List String} {o : Options}
  {s : Surroundings} {input : Source}

/-- What the program does with arguments that are accepted. -/
theorem run_accepted (h : read arguments = .ok o) :
    run engine start arguments s input =
      runPass engine start (({} : Options).on (given arguments)) s input := by
  rw [run, h, options_of_read h]

/-- A run that has no pass fails with what keeps it from one. -/
theorem run_unprepared (h : read arguments = .ok o) {e : Error}
    (hfail : (do
      let mode ← modeOf arguments
      let snapshot ← s.capture
      return passOf engine arguments mode snapshot) = .error e) :
    run engine start arguments s input = failed [] e := by
  have hprocessor : processor engine (({} : Options).on (given arguments)) s = .error e := hfail
  rw [run_accepted h, runPass, hprocessor]

variable {mode : Mode} {snapshot : Snapshot}

/-- A run that has a pass ends as the pass does. -/
theorem run_prepared (h : read arguments = .ok o) (hprepared : Prepared arguments s mode snapshot) :
    run engine start arguments s input =
      match ((passOf engine arguments mode snapshot).processAll input {} start).1 with
      | (sink, .ok ()) => { output := sink.written }
      | (sink, .error e) => failed sink.written e := by
  have hprocessor : processor engine (({} : Options).on (given arguments)) s =
      .ok (passOf engine arguments mode snapshot) := by
    show modeOf arguments >>= _ = _
    rw [hprepared.selected]
    show s.capture >>= _ = _
    rw [hprepared.captured]
    rfl
  rw [run_accepted h, runPass, hprocessor]
  rfl

theorem run_substituted (h : read arguments = .ok o) (hchunk : 0 < input.chunk)
    (hprepared : Prepared arguments s mode snapshot) (hread : input.failure = none) :
    run engine start arguments s input =
      match substituted engine start arguments mode snapshot input.data with
      | .ok out => { output := out }
      | .error e => failed [] e := by
  rw [run_prepared h hprepared]
  simp only [processAll_read _ hchunk hread, substituted]
  rcases hrun : ((passOf engine arguments mode snapshot).substituteBytes input.data).run start with
    ⟨e | out, st⟩
  · rw [deliver_error _ hrun]
  · rw [deliver_ok _ rfl hrun]
    rfl

/-- Bytes fail where they have to be rendered but are no text, or where the template that they are
fails. -/
theorem substituted_eq_error_iff {bs : Bytes} {e : Error} :
    substituted engine start arguments mode snapshot bs = .error e ↔
      mode.template = true ∧
        ((∃ flaw, decodeText bs = .error flaw ∧ e = .utf8 flaw) ∨
          ∃ text, decodeText bs = .ok text ∧
            rendered engine start arguments mode snapshot text = .error e) := by
  have hobstacle : substituted engine start arguments mode snapshot bs = .error e ↔
      obstacle snapshot (engine snapshot) mode (holds arguments .debug) bs start = some e := by
    rw [obstacle_eq, substituted, passOf]
    cases (((ofSnapshot snapshot (engine snapshot) mode
      (holds arguments .debug)).substituteBytes bs).run start).1 <;> simp
  rw [hobstacle, obstacle]
  cases ht : mode.template with
  | false => simp
  | true =>
    cases hdecode : decodeText bs with
    | error flaw => simp [eq_comm]
    | ok text =>
      simp only [if_true, rendered]
      cases hrender : (engine snapshot (template snapshot mode text) (holds arguments .debug)
        start).1 with
      | error e' => simp [hrender]
      | ok out => simp [hrender]

/-! ### Exactly one way -/

theorem selected_or_alone (arguments : List String) :
    (∃ mode, modeOf arguments = .ok mode) ∨
      holds arguments .templateOnly = true ∧ holds arguments .expandOnly = true := by
  rw [modeOf, Mode.of]
  split
  · exact .inl ⟨_, rfl⟩
  · next hoff =>
    simp only [Bool.or_eq_true, Bool.not_eq_true', not_or, Bool.not_eq_false] at hoff
    exact .inr hoff

variable (engine start) in
/-- If no stage fails, there is an output. -/
theorem yields_or_fault (arguments : List String) (s : Surroundings) (input : Source) :
    (∃ out, Yields engine start arguments s input out) ∨
      ∃ e, FirstFault engine start arguments s input e := by
  rcases selected_or_alone arguments with ⟨mode, hmode⟩ | ⟨ht, he⟩
  · cases hcapture : s.capture with
    | error e =>
      obtain ⟨reason, rfl⟩ := capture_processOnly s e hcapture
      exact .inr ⟨_, .capture hmode hcapture⟩
    | ok snapshot =>
      have hprepared : Prepared arguments s mode snapshot := ⟨hmode, hcapture⟩
      cases hread : input.failure with
      | some reason => exact .inr ⟨_, .reading hprepared hread⟩
      | none =>
        cases hdone : substituted engine start arguments mode snapshot input.data with
        | ok out => exact .inl ⟨out, .intro hprepared hread hdone⟩
        | error e =>
          obtain ⟨ht, ⟨flaw, hdecode, -⟩ | ⟨text, hdecode, hrender⟩⟩ :=
            substituted_eq_error_iff.mp hdone
          · exact .inr ⟨_, .decoding hprepared hread ht hdecode⟩
          · exact .inr ⟨_, .rendering hprepared hread ht hdecode hrender⟩
  · exact .inr ⟨_, .options ht he⟩

/-- An output is written, and nothing is told. -/
theorem run_of_yields (h : read arguments = .ok o) (hchunk : 0 < input.chunk) {out : Bytes}
    (hyields : Yields engine start arguments s input out) :
    run engine start arguments s input = { output := out } := by
  obtain ⟨hprepared, hread, hdone⟩ := hyields
  rw [run_substituted h hchunk hprepared hread, hdone]

/-- With a failure the run fails, and nothing is written. -/
theorem run_of_fault (h : read arguments = .ok o) (hchunk : 0 < input.chunk) {e : Error}
    (hfault : FirstFault engine start arguments s input e) :
    run engine start arguments s input = failed [] e := by
  cases hfault with
  | options ht he =>
    refine run_unprepared h ?_
    rw [modeOf, ht, he]
    rfl
  | capture hmode hcapture =>
    refine run_unprepared h ?_
    rw [hmode]
    show s.capture >>= _ = _
    rw [hcapture]
    rfl
  | reading hprepared hread =>
    rw [run_prepared h hprepared]
    simp only [processAll_unread _ hchunk hread]
  | decoding hprepared hread ht hdecode =>
    rw [run_substituted h hchunk hprepared hread,
      substituted_eq_error_iff.mpr ⟨ht, .inl ⟨_, hdecode, rfl⟩⟩]
  | rendering hprepared hread ht hdecode hrender =>
    rw [run_substituted h hchunk hprepared hread,
      substituted_eq_error_iff.mpr ⟨ht, .inr ⟨_, hdecode, hrender⟩⟩]

theorem output_failed (e : Error) : (failed [] e).output = [] := by
  rw [failed]
  split <;> rfl

theorem ending_failed_ne (e : Error) : (failed [] e).ending ≠ .status 0 := by
  rw [failed]
  split <;> simp

/-- A run that fails writes nothing, whatever its arguments are. -/
theorem output_of_failed (arguments : List String) (s : Surroundings) (hchunk : 0 < input.chunk)
    (hending : (run engine start arguments s input).ending ≠ .status 0) :
    (run engine start arguments s input).output = [] := by
  cases h : read arguments with
  | error stop =>
    rw [run, h] at hending ⊢
    cases stop with
    | help | version => exact absurd rfl hending
    | misuse m => rfl
  | ok o =>
    rcases yields_or_fault engine start arguments s input with ⟨out, hout⟩ | ⟨e, he⟩
    · rw [run_of_yields h hchunk hout] at hending
      exact absurd rfl hending
    · rw [run_of_fault h hchunk he, output_failed]

/-- **A run writes its whole output or tells its first failure**, and never does both, with every
engine in every state. It ends with 0 exactly if a mode is selected, the snapshot is taken and the
input becomes some bytes; these are the output then, and nothing is told. In all other cases nothing
is written, and the first stage that fails decides: the run ends with 1 and what is told are the
words for its failure, or, if it asked for more room than there can be, the runtime ends the run and
the program tells nothing. No arguments at all let a run fail that has written something. -/
theorem run_writes_or_tells (engine : Engine σ) (start : σ) (h : Accepted arguments)
    (s : Surroundings) (hchunk : 0 < input.chunk) :
    ((run engine start arguments s input).ending = .status 0 ↔
        ∃ out, Yields engine start arguments s input out) ∧
      (∀ out, Yields engine start arguments s input out →
        run engine start arguments s input = { output := out }) ∧
      ((run engine start arguments s input).ending ≠ .status 0 →
        ∃ e, FirstFault engine start arguments s input e) ∧
      (∀ e, FirstFault engine start arguments s input e →
        run engine start arguments s input =
          if e.aborts then { ending := .aborted, output := [], diagnosis := "" }
          else
            { ending := .status 1, output := [], diagnosis := "subst: " ++ e.message ++ "\n" }) ∧
      ∀ others, (run engine start others s input).ending ≠ .status 0 →
        (run engine start others s input).output = [] := by
  obtain ⟨⟨o, hread⟩, -⟩ := h
  have hyields : ∀ out, Yields engine start arguments s input out →
      run engine start arguments s input = { output := out } :=
    fun out => run_of_yields hread hchunk
  have hfault : ∀ e, FirstFault engine start arguments s input e →
      run engine start arguments s input = failed [] e :=
    fun e => run_of_fault hread hchunk
  have htold : ∀ e, FirstFault engine start arguments s input e →
      run engine start arguments s input =
        if e.aborts then { ending := .aborted, output := [], diagnosis := "" }
        else
          { ending := .status 1, output := [], diagnosis := "subst: " ++ e.message ++ "\n" } := by
    intro e he
    rw [hfault e he, failed, diagnosis_eq]
  have hnone : ∀ others, (run engine start others s input).ending ≠ .status 0 →
      (run engine start others s input).output = [] :=
    fun others => output_of_failed others s hchunk
  rcases yields_or_fault engine start arguments s input with ⟨out, hout⟩ | ⟨e, he⟩
  · have hending : (run engine start arguments s input).ending = .status 0 := by
      rw [hyields out hout]
    exact ⟨⟨fun _ => ⟨out, hout⟩, fun _ => hending⟩, hyields, fun h => absurd hending h, htold, hnone⟩
  · have hending : (run engine start arguments s input).ending ≠ .status 0 := by
      rw [hfault e he]
      exact ending_failed_ne e
    refine ⟨⟨fun h => absurd h hending, ?_⟩, hyields, fun _ => ⟨e, he⟩, htold, hnone⟩
    rintro ⟨out, hout⟩
    rw [hyields out hout]

/-- A text that asks for no name and that a machine's templates cannot render is the fault of the run. -/
theorem firstFault_on {machine : Machine} {arguments : List String} {s : Surroundings} {mode : Mode}
    {snapshot : Snapshot} {text : String} {flaw : Template.Fault}
    (hprepared : Prepared arguments s mode snapshot) (ht : mode.template = true)
    (hplain : template snapshot mode text = text)
    (hrender : ({ snapshot, machine } : Template.World).render text (holds arguments .debug) =
      .error flaw) :
    FirstFault (engineOn machine) () arguments s { data := encodeText text } (.template flaw) := by
  have hengine : engineOn machine snapshot text (holds arguments .debug) () =
      (((({ snapshot, machine } : Template.World).render text (holds arguments .debug)).mapError
        Error.template), ()) := rfl
  have hfailed : rendered (engineOn machine) () arguments mode snapshot text =
      .error (.template flaw) := by
    rw [rendered, hplain, hengine, hrender]
    rfl
  exact .rendering hprepared rfl ht (Text.Utf8.decodeText_encodeText text) hfailed

/-- A byte that belongs to no text passes without templates. A command that fails when it runs a second
time keeps back what stands before it. -/
theorem run_writes_or_tells_second_command :
    let machine : Machine :=
      { command := fun earlier _ => if earlier.isEmpty then .exited 0 [0x61] else .exited 3 []
        kind? := fun _ _ => none }
    let s : Surroundings :=
      { environment := [([0x41], [0x61])]
        directory := .ok [0x2F]
        accountHome := some [0x2F, 0x72] }
    let input : Source := { data := [0x24, 0x7B, 0x41, 0x7D, 0xFF] }
    let twice : Source :=
      { data := encodeText "a\x7b\x7b sh('x') \x7d\x7d\x7b\x7b sh('x') \x7d\x7d" }
    Accepted ["-e"] ∧ Accepted ["--debug"] ∧ 0 < input.chunk ∧ 0 < twice.chunk ∧
      runOn machine ["-e"] s input = { output := [0x61, 0xFF] } ∧
      runOn machine ["--debug"] s twice =
        { ending := .status 1
          diagnosis :=
            "subst: input is invalid: invalid operation: exit status 3 (in <stdin>:1)\n" } := by
  intro machine s input twice
  have hplain : Accepted ["-e"] := ⟨⟨_, rfl⟩, rfl⟩
  have hboth : Accepted ["--debug"] := ⟨⟨_, rfl⟩, rfl⟩
  have hchunk : 0 < input.chunk := by decide
  have htwice : 0 < twice.chunk := by decide
  let snapshot : Snapshot :=
    { environment := [("A", "a")]
      process :=
        { cwd := "/"
          tempDir := "/tmp"
          userCacheDir := "/r/.cache"
          userConfigDir := "/r/.config"
          userHomeDir := "/r" } }
  have hcapture : s.capture = .ok snapshot := by cbv
  have hyields : Yields (engineOn machine) () ["-e"] s input [0x61, 0xFF] := by
    have hdone (engine : Engine Unit) :
        substituted engine () ["-e"] ⟨true, false, rfl⟩ snapshot input.data = .ok [0x61, 0xFF] := by
      cbv
    exact .intro ⟨rfl, hcapture⟩ rfl (hdone _)
  have hlexemes : Template.Lexemes.ofText "a\x7b\x7b sh('x') \x7d\x7d\x7b\x7b sh('x') \x7d\x7d" =
      ⟨[⟨.data ['a'], 1⟩, ⟨.expressionStart, 1⟩, ⟨.name "sh", 1⟩, ⟨.sign .openParen, 1⟩, ⟨.text "x", 1⟩,
        ⟨.sign .closeParen, 1⟩, ⟨.expressionEnd, 1⟩, ⟨.expressionStart, 1⟩, ⟨.name "sh", 1⟩,
        ⟨.sign .openParen, 1⟩, ⟨.text "x", 1⟩, ⟨.sign .closeParen, 1⟩, ⟨.expressionEnd, 1⟩], none⟩ := by
    rfl
  have hrender : ({ snapshot, machine } : Template.World).render
      "a\x7b\x7b sh('x') \x7d\x7d\x7b\x7b sh('x') \x7d\x7d" true =
      .error ⟨.problem (.command (.exited 3)), some 1⟩ := by
    rw [Template.World.render, Template.Document.ofText, hlexemes]
    rfl
  have hfault : FirstFault (engineOn machine) () ["--debug"] s twice
      (.template ⟨.problem (.command (.exited 3)), some 1⟩) :=
    firstFault_on ⟨rfl, hcapture⟩ rfl (by cbv) hrender
  have hwords : "subst: " ++ (Error.template ⟨.problem (.command (.exited 3)), some 1⟩).message ++ "\n" =
      "subst: input is invalid: invalid operation: exit status 3 (in <stdin>:1)\n" := by decide
  obtain ⟨-, hwritten, -⟩ := run_writes_or_tells (engineOn machine) () hplain s hchunk
  obtain ⟨-, -, -, htold, -⟩ := run_writes_or_tells (engineOn machine) () hboth s htwice
  refine ⟨hplain, hboth, hchunk, htwice, hwritten _ hyields, ?_⟩
  rw [← hwords]
  exact htold _ hfault

/-- A width that no text can have ends the program without a word, on every machine: the run neither
ends with 0 nor tells what failed. -/
theorem run_aborts_on_width :
    let s : Surroundings := { directory := .ok [0x2F], accountHome := some [0x2F, 0x72] }
    let input : Source :=
      { data := encodeText "\x7b\x7b ''|nindent(9223372036854775808) \x7d\x7d" }
    Accepted [] ∧ 0 < input.chunk ∧ ∀ machine : Machine,
      runOn machine [] s input = { ending := .aborted } ∧
      (runOn machine [] s input).ending ≠ .status 0 ∧
      ∀ e : Error, runOn machine [] s input ≠
        { ending := .status 1, output := [], diagnosis := "subst: " ++ e.message ++ "\n" } := by
  intro s input
  have haccepted : Accepted [] := ⟨⟨_, rfl⟩, rfl⟩
  have hchunk : 0 < input.chunk := by decide
  refine ⟨haccepted, hchunk, fun machine => ?_⟩
  let snapshot : Snapshot :=
    { process :=
        { cwd := "/"
          tempDir := "/tmp"
          userCacheDir := "/r/.cache"
          userConfigDir := "/r/.config"
          userHomeDir := "/r" } }
  have hcapture : s.capture = .ok snapshot := by cbv
  have hlexemes : Template.Lexemes.ofText "\x7b\x7b ''|nindent(9223372036854775808) \x7d\x7d" =
      ⟨[⟨.expressionStart, 1⟩, ⟨.text "", 1⟩, ⟨.sign .pipe, 1⟩, ⟨.name "nindent", 1⟩,
        ⟨.sign .openParen, 1⟩, ⟨.int 9223372036854775808, 1⟩, ⟨.sign .closeParen, 1⟩,
        ⟨.expressionEnd, 1⟩], none⟩ := by
    rfl
  have hrender : ({ snapshot, machine } : Template.World).render
      "\x7b\x7b ''|nindent(9223372036854775808) \x7d\x7d" false =
      .error ⟨.problem .overCapacity, some 1⟩ := by
    rw [Template.World.render, Template.Document.ofText, hlexemes]
    rfl
  have hfault : FirstFault (engineOn machine) () [] s input
      (.template ⟨.problem .overCapacity, some 1⟩) :=
    firstFault_on ⟨rfl, hcapture⟩ rfl (by cbv) hrender
  have hrun : runOn machine [] s input = { ending := .aborted } := run_of_fault rfl hchunk hfault
  exact ⟨hrun, by simp [hrun], by simp [hrun]⟩

end Outcome

end Stencil.Program
