import Mathlib
import Stencil.Proofs.Template.Plain
import Stencil.Proofs.Template.Reading
import Stencil.Proofs.Template.Words

/-! Paths in expressions.

A path is a name with attributes and items under texts behind it. `pathWords` says which words it has,
and `Follows` which expression is made of them, from left to right and in whatever lines. A path in
double braces is read as one (`document_path`), and so is a call with a path as its only argument
(`document_call`). -/
namespace Stencil.Template

/-- A part of a path behind its first name: an attribute, or an item under a text. -/
inductive Access where
  | field (name : String)
  | item (key : String)
  deriving DecidableEq, Repr

/-- The words of a part. -/
def Access.words : Access → List Token
  | .field name => [.sign .dot, .name name]
  | .item key => [.sign .openBracket, .text key, .sign .closeBracket]

/-- The words of a path. -/
def pathWords (start : String) (accesses : List Access) : List Token :=
  .name start :: accesses.flatMap Access.words

/-- The words of a call with a path as its only argument. -/
def callWords (name start : String) (accesses : List Access) : List Token :=
  .name name :: .sign .openParen :: (pathWords start accesses ++ [.sign .closeParen])

/-- An expression goes on from another with some parts. -/
inductive Follows : Expr → List Access → Expr → Prop
  | nil (e : Expr) : Follows e [] e
  | field {base e : Expr} {name : String} {line : Nat} {accesses : List Access}
      (h : Follows (.field base name line) accesses e) : Follows base (.field name :: accesses) e
  | item {base e : Expr} {key : String} {line : Nat} {accesses : List Access}
      (h : Follows (.item base (.const (.ofString key) line)) accesses e) :
      Follows base (.item key :: accesses) e

namespace Reads
variable {depth fuel : Nat} {c t : Token} {ts us vs : List Token} {P Q : Expr → Prop}

/-! ### Operands -/

/-- An operand begins with something that is no sign of a number. -/
theorem minus (hdepth : depth < Parser.deepest) (ht : t ≠ .badText)
    (hsign : Parser.isSign .minus (some t) = false)
    (h : Reads (Parser.atom fuel) (depth + 1) (t :: ts) us P) :
    Reads (Parser.minus (fuel + 2)) depth (t :: ts) us P := by
  rw [Parser.minus]
  refine bind nextLine fun line _ => unlessSign ht hsign ?_
  rw [Parser.primary]
  exact deeper hdepth h

theorem signed (hc : c.EndsExpr) (hfirst : Reads (Parser.minus (fuel + 1)) depth ts us P)
    (hparts : ∀ e, P e → Reads (Parser.parts (fuel + 1) e) depth us (c :: vs) Q) :
    Reads (Parser.signed (fuel + 2)) depth ts (c :: vs) Q := by
  rw [Parser.signed]
  exact bind hfirst fun first hP => bind (hparts first hP) fun whole hQ => (filters hc).of_eq hQ

theorem atom_name {s : String} (hs : Parser.constant? s = none) :
    Reads (Parser.atom (fuel + 1)) depth (.name s :: us) us fun e => ∃ line, e = .var s line := by
  rw [Parser.atom]
  refine bind_eq (next (by simp)) (bind get fun p _ => ?_)
  simp only [hs]
  exact pure ⟨_, rfl⟩

/-- No text follows where an expression ends. -/
theorem nextText? (hc : c.EndsExpr) :
    Reads Parser.nextText? depth (c :: us) (c :: us) fun s => s = none := by
  intro p hp
  obtain ⟨rest, fault, line, d, inLoop, inMacro, blocks⟩ := p
  obtain ⟨⟨token, here⟩, rest, rfl, rfl, hrest⟩ := List.map_eq_cons_iff.mp hp.rest
  refine ⟨none, _, ?_, rfl, hp⟩
  rcases hc with h | h | h <;> (subst h; rfl)

theorem atom_text {s : String} (hc : c.EndsExpr) :
    Reads (Parser.atom (fuel + 2)) depth (.text s :: c :: us) (c :: us)
      fun e => ∃ line, e = .const (.ofString s) line := by
  have hmore : Reads (Parser.moreText (fuel + 1)) depth (c :: us) (c :: us) fun s => s = "" := by
    rw [Parser.moreText]
    exact bind_eq (nextText? hc) (pure rfl)
  rw [Parser.atom]
  refine bind_eq (next (by simp)) (bind get fun p _ => bind_eq hmore ?_)
  rw [String.append_empty]
  exact pure ⟨_, rfl⟩

/-! ### Parts -/

theorem parts_end (hc : c.EndsExpr) {base : Expr} :
    Reads (Parser.parts (fuel + 1) base) depth (c :: us) (c :: us) fun e => e = base := by
  rw [Parser.parts]
  refine bind nextLine fun line _ => unlessSign hc.ne_badText (hc.isSign_eq (by simp)) <|
    unlessSign hc.ne_badText (hc.isSign_eq (by simp)) ?_
  refine bind_eq (peek hc.ne_badText) ?_
  rw [if_neg (by simp [hc.isSign_eq])]
  exact pure rfl

/-- A text between brackets is the key of an item. -/
theorem sliceEnd_text (hdepth : depth + 1 < Parser.deepest) (key : String) :
    Reads (Parser.sliceEnd (fuel + 21) [.colon]) depth (.text key :: .sign .closeBracket :: us)
      (.sign .closeBracket :: us) fun e => ∃ line, e = some (.const (.ofString key) line) := by
  have hc : (Token.sign .closeBracket).EndsExpr := .inr (.inr rfl)
  have hkey : Reads (Parser.expr (fuel + 20)) depth (.text key :: .sign .closeBracket :: us)
      (.sign .closeBracket :: us) fun e => ∃ line, e = .const (.ofString key) line := by
    refine expr (by omega) hc (by simp) rfl (signed hc (minus hdepth (by simp) rfl (atom_text hc)) ?_)
    exact fun first hfirst => (parts_end hc).of_eq hfirst
  rw [Parser.sliceEnd]
  refine bind_eq (peek (by simp)) ?_
  rw [if_neg (by simp [Parser.isSign])]
  refine bind hkey fun e he => pure ?_
  obtain ⟨line, rfl⟩ := he
  exact ⟨line, rfl⟩

/-- Attributes and items are read one behind the other, each from what stands before it. -/
theorem parts (hdepth : depth + 1 < Parser.deepest) (hc : c.EndsExpr) (accesses : List Access)
    (base : Expr) :
    Reads (Parser.parts (accesses.length + (fuel + 22)) base) depth
      (accesses.flatMap Access.words ++ c :: us) (c :: us) (Follows base accesses) := by
  -- Each part takes one of the fuel away. What is left is enough for the levels of a key.
  induction accesses generalizing base with
  | nil =>
    rw [List.length_nil, Nat.zero_add]
    exact (parts_end hc).of_eq (.nil base)
  | cons access accesses ih =>
    have hfuel : (access :: accesses).length + (fuel + 22) = accesses.length + fuel + 22 + 1 := by
      rw [List.length_cons]
      omega
    rw [hfuel, Parser.parts]
    refine bind nextLine fun line _ => ?_
    cases access with
    | field name =>
      refine ifSign (bind_eq (next (by simp)) ?_)
      exact (ih (.field base name line)).imp fun e he => .field he
    | item key =>
      refine unlessSign (by simp) rfl (ifSign (bind (sliceEnd_text hdepth key) fun start hstart => ?_))
      obtain ⟨here, rfl⟩ := hstart
      refine unlessSign (by simp) rfl (bind (expect (by simp) rfl) fun _ _ => ?_)
      exact (ih (.item base (.const (.ofString key) here))).imp fun e he => .item he

/-- A path is an expression, whatever ends it. -/
theorem path (hdepth : depth + 2 < Parser.deepest) (hc : c.EndsExpr) {start : String}
    (hnot : start ≠ "not") (hstart : Parser.constant? start = none) (accesses : List Access) :
    Reads (Parser.expr (accesses.length + fuel + 38)) depth
      (pathWords start accesses ++ c :: us) (c :: us)
      fun e => ∃ line, Follows (.var start line) accesses e := by
  refine expr (by omega) hc (by simp) (by simpa [Parser.isWord] using hnot) ?_
  refine signed hc (minus (by omega) (by simp) rfl (atom_name hstart)) ?_
  rintro _ ⟨line, rfl⟩
  have hparts : Reads (Parser.parts (accesses.length + (fuel + 22)) (.var start line)) (depth + 1)
      (accesses.flatMap Access.words ++ c :: us) (c :: us) (Follows (.var start line) accesses) :=
    parts hdepth hc accesses (.var start line)
  exact hparts.imp fun e he => ⟨line, he⟩

/-- One argument without a name stands in parentheses. -/
theorem arguments {s : String}
    (h : Reads (Parser.expr (fuel + 1)) depth (.name s :: ts) (.sign .closeParen :: us) P) :
    Reads (Parser.arguments (fuel + 3)) depth (.sign .openParen :: .name s :: ts) us
      fun args => ∃ e, P e ∧ args = [.positional e] := by
  have hend : Reads (Parser.argumentsFrom (fuel + 1) (0 + 1) false) depth (.sign .closeParen :: us) us
      fun args => args = [] := by
    rw [Parser.argumentsFrom]
    exact ifSign (pure rfl)
  rw [Parser.arguments]
  refine bind (expect (by simp) rfl) fun _ _ => ?_
  rw [Parser.argumentsFrom]
  refine unlessSign (by simp) rfl ?_
  rw [if_neg (Nat.lt_irrefl 0)]
  refine bind_eq (passSign (by simp) rfl) (bind_eq (passSign (by simp) rfl) (bind h fun e he => ?_))
  have hrest : Reads (do return Arg.positional e :: (← Parser.argumentsFrom (fuel + 1) (0 + 1) false))
      depth (.sign .closeParen :: us) us fun args => ∃ e, P e ∧ args = [.positional e] :=
    bind_eq hend (pure ⟨e, he, rfl⟩)
  -- A name could be that of an argument; no sign of an assignment follows it.
  cases e <;> first
    | exact hrest
    | exact bind_eq (passSign (by simp) rfl) hrest

/-- A name with one argument in parentheses is a call. -/
theorem call (hdepth : depth + 1 < Parser.deepest) (hc : c.EndsExpr) {name : String} (hnot : name ≠ "not")
    (hname : Parser.constant? name = none) {s : String}
    (h : Reads (Parser.expr (fuel + 1)) (depth + 1) (.name s :: ts) (.sign .closeParen :: c :: us) P) :
    Reads (Parser.expr (fuel + 20)) depth (.name name :: .sign .openParen :: .name s :: ts) (c :: us)
      fun e => ∃ a here there, P a ∧ e = .call (.var name here) [.positional a] there := by
  refine expr (by omega) hc (by simp) (by simpa [Parser.isWord] using hnot) ?_
  refine signed hc (minus hdepth (by simp) rfl (atom_name hname)) ?_
  rintro _ ⟨here, rfl⟩
  rw [Parser.parts]
  refine bind nextLine fun there _ => unlessSign (by simp) rfl <| unlessSign (by simp) rfl ?_
  refine bind_eq (peek (by simp)) ?_
  rw [if_pos (by simp [Parser.isSign])]
  refine bind (arguments h) fun args hargs => ?_
  obtain ⟨a, ha, rfl⟩ := hargs
  exact (parts_end hc).of_eq ⟨a, here, there, ha, rfl⟩

/-- An expression in double braces is a statement, and nothing stands behind it. -/
theorem statement (h : Reads (Parser.expr (fuel + 1)) depth ts [.expressionEnd] P) :
    Reads (Parser.statements (fuel + 2) []) depth (.expressionStart :: ts) []
      fun ss => ∃ e, P e ∧ ss = [.emit e] := by
  have hend : Reads (Parser.statements (fuel + 1) []) depth [] [] fun ss => ss = [] := by
    intro p hp
    have hrest : p.rest = [] := List.map_eq_nil_iff.mp hp.rest
    exact ⟨[], p, statements_end fuel [] p hrest hp.fault, rfl, hp⟩
  rw [Parser.statements]
  refine bind_eq (next (by simp)) (bind h fun e he => bind (expect (by simp) rfl) fun _ _ => ?_)
  exact bind_eq hend (pure ⟨e, he, rfl⟩)

end Reads

/-! ### Documents -/

theorem closed_accesses (accesses : List Access) :
    ((accesses.flatMap Access.words).map Token.deepening).sum = 0 := by
  induction accesses with
  | nil => rfl
  | cons access accesses ih =>
    rw [List.flatMap_cons, List.map_append, List.sum_append, ih]
    cases access <;> rfl

theorem length_accesses_le (accesses : List Access) :
    accesses.length ≤ (accesses.flatMap Access.words).length := by
  induction accesses with
  | nil => exact Nat.le_refl 0
  | cons access accesses ih =>
    rw [List.flatMap_cons, List.length_append, List.length_cons]
    cases access <;> simp only [Access.words, List.length_cons, List.length_nil] <;> omega

/-- What can be read as an expression is the only statement of a document that spells it between
double braces. -/
theorem document_expression {token : Token} {tokens : List Token} {text : String} {P : Expr → Prop}
    (hspells : Spells (token :: tokens) text.toList)
    (hclosed : ((token :: tokens).map Token.deepening).sum = 0)
    (hreads : Reads (Parser.expr (32 * (token :: tokens).length + 575)) 0
      (token :: tokens ++ [.expressionEnd]) [.expressionEnd] P) :
    ∃ e, P e ∧ Document.ofText ("\x7b\x7b " ++ text ++ " \x7d\x7d") = .ok ⟨[.emit e], []⟩ := by
  obtain ⟨words, hwords, hlexemes⟩ := lexemes_expression hspells hclosed
  have hfuel : 32 * (words.length + 16) = 32 * (token :: tokens).length + 574 + 2 := by
    have hlength := congrArg List.length hwords
    simp only [List.length_map, List.length_cons, List.length_append, List.length_nil] at hlength ⊢
    omega
  obtain ⟨_, p, hrun, ⟨e, he, rfl⟩, -⟩ :=
    hreads.statement { rest := words, fault := none } ⟨rfl, hwords, rfl⟩
  refine ⟨e, he, ?_⟩
  rw [Document.ofText, hlexemes]
  simp only [hfuel, hrun]
  rfl

variable {start text : String} {accesses : List Access}

theorem closed_path (start : String) (accesses : List Access) :
    ((pathWords start accesses).map Token.deepening).sum = 0 := by
  rw [pathWords, List.map_cons, List.sum_cons, closed_accesses]
  rfl

/-- A path in double braces. -/
theorem document_path (hspells : Spells (pathWords start accesses) text.toList) (hnot : start ≠ "not")
    (hstart : Parser.constant? start = none) :
    ∃ e line, Follows (.var start line) accesses e ∧
      Document.ofText ("\x7b\x7b " ++ text ++ " \x7d\x7d") = .ok ⟨[.emit e], []⟩ := by
  obtain ⟨fuel, hfuel⟩ : ∃ fuel,
      32 * (pathWords start accesses).length + 575 = accesses.length + fuel + 38 := by
    have hlength := length_accesses_le accesses
    rw [pathWords, List.length_cons]
    exact ⟨32 * (accesses.flatMap Access.words).length + 569 - accesses.length, by omega⟩
  have hreads : Reads (Parser.expr (32 * (pathWords start accesses).length + 575)) 0
      (pathWords start accesses ++ [.expressionEnd]) [.expressionEnd]
      fun e => ∃ line, Follows (.var start line) accesses e := by
    rw [hfuel]
    exact .path (by decide) (.inl rfl) hnot hstart accesses
  obtain ⟨e, ⟨line, he⟩, hdocument⟩ := document_expression hspells (closed_path start accesses) hreads
  exact ⟨e, line, he, hdocument⟩

/-- A call with a path as its argument, in double braces. -/
theorem document_call (hspells : Spells (pathWords start accesses) text.toList) (hnot : start ≠ "not")
    (hstart : Parser.constant? start = none) {name : String}
    (hname : (Token.name name).WrittenAs name.toList) (hcallee : name ≠ "not")
    (hconstant : Parser.constant? name = none) :
    ∃ e line here there, Follows (.var start line) accesses e ∧
      Document.ofText ("\x7b\x7b " ++ (name ++ "(" ++ text ++ ")") ++ " \x7d\x7d") =
        .ok ⟨[.emit (.call (.var name here) [.positional e] there)], []⟩ := by
  obtain ⟨fuel, hfuel⟩ : ∃ fuel,
      32 * (callWords name start accesses).length + 575 = accesses.length + fuel + 37 + 20 := by
    have hlength := length_accesses_le accesses
    simp only [callWords, pathWords, List.length_cons, List.length_append, List.length_nil]
    exact ⟨32 * (accesses.flatMap Access.words).length + 646 - accesses.length, by omega⟩
  have hcall : Spells (callWords name start accesses) (name ++ "(" ++ text ++ ")").toList := by
    have hcall := hspells.call hname
    simpa [callWords] using hcall
  have hclosed : ((callWords name start accesses).map Token.deepening).sum = 0 := by
    rw [callWords, List.map_cons, List.map_cons, List.map_append, List.sum_cons, List.sum_cons,
      List.sum_append, closed_path]
    rfl
  have hpath : Reads (Parser.expr (accesses.length + fuel + 38)) 1
      (pathWords start accesses ++ [.sign .closeParen, .expressionEnd])
      [.sign .closeParen, .expressionEnd] fun e => ∃ line, Follows (.var start line) accesses e :=
    .path (by decide) (.inr (.inl rfl)) hnot hstart accesses
  have hreads : Reads (Parser.expr (32 * (callWords name start accesses).length + 575)) 0
      (callWords name start accesses ++ [.expressionEnd]) [.expressionEnd]
      fun e => ∃ a here there, (∃ line, Follows (.var start line) accesses a) ∧
        e = .call (.var name here) [.positional a] there := by
    rw [hfuel, callWords, List.cons_append, List.cons_append, List.append_assoc]
    exact .call (by decide) (.inl rfl) hcallee hconstant hpath
  obtain ⟨e, ⟨a, here, there, ⟨line, ha⟩, rfl⟩, hdocument⟩ := document_expression hcall hclosed hreads
  exact ⟨a, line, here, there, ha, hdocument⟩

end Stencil.Template
