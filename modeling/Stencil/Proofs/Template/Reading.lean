import Mathlib
import Stencil.Template.Document

/-! Reading words, one reader after the other.

`Reads` says of a reader which words it takes from those it stands before, and what it makes of them;
lines are left open. Readers that follow each other take their words one behind the other
(`Reads.bind`). An operand is a whole expression if a word stands behind it that ends one:
none of the operators that could go on with it begins there (`Reads.expr`). -/
namespace Stencil.Template

/-- A reader stands at some depth before some words, with nothing wrong behind them. -/
structure Stands (depth : Nat) (tokens : List Token) (p : Progress) : Prop where
  depth : p.depth = depth
  rest : p.rest.map (·.token) = tokens
  fault : p.fault = none

/-- Wherever it stands before the words `before`, a reader goes on to the words `after` and makes
something of what it took. -/
def Reads {α : Type} (m : Parser α) (depth : Nat) (before after : List Token) (made : α → Prop) : Prop :=
  ∀ p, Stands depth before p → ∃ a p', m.run p = .ok (a, p') ∧ made a ∧ Stands depth after p'

namespace Reads
variable {α β : Type} {m : Parser α} {f : α → Parser β} {depth : Nat} {ts us vs : List Token}
  {P : α → Prop} {Q : β → Prop}

theorem pure {a : α} (ha : P a) : Reads (Pure.pure a) depth ts ts P :=
  fun p hp => ⟨a, p, rfl, ha, hp⟩

theorem bind (hm : Reads m depth ts us P) (hf : ∀ a, P a → Reads (f a) depth us vs Q) :
    Reads (m >>= f) depth ts vs Q := by
  intro p hp
  obtain ⟨a, p', hrun, ha, hp'⟩ := hm p hp
  obtain ⟨b, p'', hrun', hb, hp''⟩ := hf a ha p' hp'
  refine ⟨b, p'', ?_, hb, hp''⟩
  rw [StateT.run_bind, hrun]
  exact hrun'

theorem imp {P' : α → Prop} (hm : Reads m depth ts us P) (h : ∀ a, P a → P' a) :
    Reads m depth ts us P' := by
  intro p hp
  obtain ⟨a, p', hrun, ha, hp'⟩ := hm p hp
  exact ⟨a, p', hrun, h a ha, hp'⟩

/-- What is known exactly is handed on as it is. -/
theorem bind_eq {a : α} (hm : Reads m depth ts us fun b => b = a) (hf : Reads (f a) depth us vs Q) :
    Reads (m >>= f) depth ts vs Q :=
  bind hm fun _ h => h ▸ hf

theorem of_eq {a : α} (hm : Reads m depth ts us fun b => b = a) (ha : P a) : Reads m depth ts us P :=
  hm.imp fun _ h => h ▸ ha

/-! ### Single words -/

variable {t : Token}

theorem get : Reads (MonadState.get : Parser Progress) depth ts ts fun _ => True :=
  fun p hp => ⟨p, p, rfl, trivial, hp⟩

theorem nextLine : Reads Parser.nextLine depth ts ts fun _ => True := by
  intro p hp
  obtain ⟨rest, fault, line, d, inLoop, inMacro, blocks⟩ := p
  cases rest with
  | nil => exact ⟨_, _, rfl, trivial, hp⟩
  | cons l rest => exact ⟨_, _, rfl, trivial, hp⟩

theorem peek (ht : t ≠ .badText) :
    Reads Parser.peek depth (t :: ts) (t :: ts) fun token => token = some t := by
  intro p hp
  obtain ⟨rest, fault, line, d, inLoop, inMacro, blocks⟩ := p
  obtain ⟨⟨token, here⟩, rest, rfl, rfl, hrest⟩ := List.map_eq_cons_iff.mp hp.rest
  refine ⟨some token, _, ?_, rfl, hp⟩
  cases token <;> first | rfl | exact absurd rfl ht

theorem next (ht : t ≠ .badText) : Reads Parser.next depth (t :: ts) ts fun token => token = some t := by
  refine bind (peek ht) fun token htoken => ?_
  intro p hp
  obtain ⟨rest, fault, line, d, inLoop, inMacro, blocks⟩ := p
  obtain ⟨l, rest, rfl, -, hrest⟩ := List.map_eq_cons_iff.mp hp.rest
  exact ⟨token, _, rfl, htoken, hp.depth, hrest, hp.fault⟩

theorem skipSign {s : Sign} : Reads (Parser.skipSign s) depth (.sign s :: ts) ts fun b => b = true := by
  refine bind_eq (peek (by simp)) ?_
  rw [if_pos (by simp [Parser.isSign])]
  exact bind (next (by simp)) fun _ _ => pure rfl

theorem passSign {s : Sign} (ht : t ≠ .badText) (hs : Parser.isSign s (some t) = false) :
    Reads (Parser.skipSign s) depth (t :: ts) (t :: ts) fun b => b = false := by
  refine bind_eq (peek ht) ?_
  rw [if_neg (by simp [hs])]
  exact pure rfl

theorem passWord {name : String} (ht : t ≠ .badText) (hs : Parser.isWord name (some t) = false) :
    Reads (Parser.skipWord name) depth (t :: ts) (t :: ts) fun b => b = false := by
  refine bind_eq (peek ht) ?_
  rw [if_neg (by simp [hs])]
  exact pure rfl

theorem expect {wanted : String} {p : Option Token → Bool} (ht : t ≠ .badText)
    (hp : p (some t) = true) : Reads (Parser.expect wanted p) depth (t :: ts) ts fun _ => True := by
  refine bind_eq (next ht) ?_
  rw [if_neg (by simp [hp])]
  exact pure trivial

/-- Where a sign stands, a reader that asks for it goes on behind it. -/
theorem ifSign {s : Sign} {yes no : Parser α} (h : Reads yes depth ts us P) :
    Reads (do if ← Parser.skipSign s then yes else no) depth (.sign s :: ts) us P := by
  refine bind_eq skipSign ?_
  rw [if_pos rfl]
  exact h

/-- Where a sign does not stand, a reader that asks for it goes on without it. -/
theorem unlessSign {s : Sign} {yes no : Parser α} (ht : t ≠ .badText)
    (hs : Parser.isSign s (some t) = false) (h : Reads no depth (t :: ts) us P) :
    Reads (do if ← Parser.skipSign s then yes else no) depth (t :: ts) us P := by
  refine bind_eq (passSign ht hs) ?_
  rw [if_neg (by simp)]
  exact h

theorem unlessWord {name : String} {yes no : Parser α} (ht : t ≠ .badText)
    (hs : Parser.isWord name (some t) = false) (h : Reads no depth (t :: ts) us P) :
    Reads (do if ← Parser.skipWord name then yes else no) depth (t :: ts) us P := by
  refine bind_eq (passWord ht hs) ?_
  rw [if_neg (by simp)]
  exact h

theorem deeper (hdepth : depth < Parser.deepest) (h : Reads m (depth + 1) ts us P) :
    Reads (Parser.deeper m) depth ts us P := by
  intro p hp
  obtain ⟨a, p', hrun, ha, hp'⟩ := h { p with depth := p.depth + 1 } ⟨by simp [hp.depth], hp.rest, hp.fault⟩
  refine ⟨a, { p' with depth := p'.depth - 1 }, ?_, ha, by simp [hp'.depth], hp'.rest, hp'.fault⟩
  have hlevel : ¬ Parser.deepest < p.depth + 1 := by
    rw [hp.depth]
    omega
  simp [Parser.deeper, hlevel, hrun]

end Reads

/-! ### Whole expressions -/

/-- A word ends an expression: none of those that could go on with it begins with this word. -/
def Token.EndsExpr (t : Token) : Prop :=
  t = .expressionEnd ∨ t = .sign .closeParen ∨ t = .sign .closeBracket

namespace Token.EndsExpr
variable {t : Token}

theorem ne_badText (h : t.EndsExpr) : t ≠ .badText := by
  rcases h with rfl | rfl | rfl <;> simp

theorem isSign_eq (h : t.EndsExpr) {s : Sign} (hs : s ≠ .closeParen ∧ s ≠ .closeBracket) :
    Parser.isSign s (some t) = false := by
  rcases h with rfl | rfl | rfl
  · rfl
  · simpa [Parser.isSign] using hs.1
  · simpa [Parser.isSign] using hs.2

theorem isWord_eq (h : t.EndsExpr) (name : String) : Parser.isWord name (some t) = false := by
  rcases h with rfl | rfl | rfl <;> rfl

theorem operator?_eq (h : t.EndsExpr) (level : Parser.Level) : level.operator? t = none := by
  rcases h with rfl | rfl | rfl <;> cases level <;> rfl

theorem comparison?_eq (h : t.EndsExpr) : Parser.comparison? t = none := by
  rcases h with rfl | rfl | rfl <;> rfl

end Token.EndsExpr

namespace Reads
variable {depth fuel : Nat} {t c : Token} {ts us : List Token} {P : Expr → Prop} {left : Expr}

theorem moreOperands (hc : c.EndsExpr) (level : Parser.Level) :
    Reads (Parser.moreOperands (fuel + 1) level left) depth (c :: us) (c :: us) fun e => e = left := by
  rw [Parser.moreOperands]
  refine bind_eq (peek hc.ne_badText) ?_
  rw [Option.bind_some, hc.operator?_eq]
  exact pure rfl

theorem operand (hc : c.EndsExpr) (level : Parser.Level)
    (h : Reads (Parser.tighter (fuel + 1) level) depth ts (c :: us) P) :
    Reads (Parser.operand (fuel + 2) level) depth ts (c :: us) P := by
  rw [Parser.operand]
  exact bind h fun e he => (moreOperands hc level).of_eq he

theorem comparisons (hc : c.EndsExpr) :
    Reads (Parser.comparisons (fuel + 1)) depth (c :: us) (c :: us) fun rest => rest = [] := by
  rw [Parser.comparisons]
  refine bind_eq (peek hc.ne_badText) ?_
  rw [if_neg (by simp [hc.isWord_eq]), Option.bind_some, hc.comparison?_eq]
  exact pure rfl

theorem conditions (hc : c.EndsExpr) :
    Reads (Parser.conditions (fuel + 1) left) depth (c :: us) (c :: us) fun e => e = left := by
  rw [Parser.conditions]
  exact unlessWord hc.ne_badText (hc.isWord_eq _) (pure rfl)

theorem filters (hc : c.EndsExpr) :
    Reads (Parser.filters (fuel + 1) left) depth (c :: us) (c :: us) fun e => e = left := by
  rw [Parser.filters]
  exact unlessSign hc.ne_badText (hc.isSign_eq (by simp))
    (unlessWord hc.ne_badText (hc.isWord_eq _) (pure rfl))

/-- Nothing but a negation stands before the operands of a comparison. -/
theorem negation (hc : c.EndsExpr) (ht : t ≠ .badText) (hnot : Parser.isWord "not" (some t) = false)
    (h : Reads (Parser.operand (fuel + 1) .sum) depth (t :: ts) (c :: us) P) :
    Reads (Parser.negation (fuel + 2)) depth (t :: ts) (c :: us) P := by
  rw [Parser.negation]
  exact unlessWord ht hnot (bind h fun first hfirst => bind_eq (comparisons hc) (pure hfirst))

/-- What binds most strongly is a whole expression where a word stands behind it that ends one. -/
theorem expr (hdepth : depth < Parser.deepest) (hc : c.EndsExpr) (ht : t ≠ .badText)
    (hnot : Parser.isWord "not" (some t) = false)
    (h : Reads (Parser.signed fuel) (depth + 1) (t :: ts) (c :: us) P) :
    Reads (Parser.expr (fuel + 15)) depth (t :: ts) (c :: us) P := by
  have hpower : Reads (Parser.operand (fuel + 2) .power) (depth + 1) (t :: ts) (c :: us) P :=
    operand hc .power (by rw [Parser.tighter]; exact h)
  have hproduct := operand hc .product (by rw [Parser.tighter]; exact hpower)
  have hjoin := operand hc .join (by rw [Parser.tighter]; exact hproduct)
  have hsum := operand hc .sum (by rw [Parser.tighter]; exact hjoin)
  have hnegation := negation hc ht hnot hsum
  have hboth := operand hc .both (by rw [Parser.tighter]; exact hnegation)
  have heither := operand hc .either (by rw [Parser.tighter]; exact hboth)
  rw [Parser.expr]
  refine deeper hdepth ?_
  rw [Parser.choice]
  exact bind heither fun first hfirst => (conditions hc).of_eq hfirst

end Reads
end Stencil.Template
