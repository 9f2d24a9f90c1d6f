import UnitCalc.Expr.Grammar

/-!
# Derivations by the shape of their rule

The rules of the grammar have eight shapes, from an operator between two categories down to a
lone terminal. `Derives.shapeInduction` is the induction over derivations with one case for
each shape, so that a proof about derivations names the two or three rules it is about and
not the table of all of them. The introduction lemmas before it are the same shapes read the
other way.
-/

namespace UnitCalc.Expr.Grammar

/-! ## Introduction by shape -/

section Introduction

variable {c d d' : Category} {p : Production} {x y : Terminal} {t t' : Token}
  {a b : List Token} {l r : Tree}

theorem DerivesAll.single (h : Derives d a l) : DerivesAll [.category d] a [l] := by
  simpa using DerivesAll.category h .nil

theorem DerivesAll.cons_terminal {symbols : List Symbol} {operands : List Tree}
    (ht : t.terminal = x) (hx : operand? t = none) (h : DerivesAll symbols a operands) :
    DerivesAll (.terminal x :: symbols) (t :: a) operands := by
  subst ht
  simpa [hx] using DerivesAll.terminal (t := t) h

/-- A rule that hands a category on. -/
theorem Derives.promoted (rule : ⟨c, [.category d], none⟩ ∈ rules) (h : Derives d a l) :
    Derives c a l :=
  .same rule (.single h)

/-- A rule with an operator between two categories. -/
theorem Derives.between (rule : ⟨c, [.category d, .terminal x, .category d'], some p⟩ ∈ rules)
    (ht : t.terminal = x) (hx : operand? t = none) (hl : Derives d a l) (hr : Derives d' b r) :
    Derives c (a ++ t :: b) (.node p [l, r]) :=
  .node rule (.category hl (.cons_terminal ht hx (.single hr)))

/-- A rule with two categories side by side. -/
theorem Derives.beside (rule : ⟨c, [.category d, .category d'], some p⟩ ∈ rules)
    (hl : Derives d a l) (hr : Derives d' b r) : Derives c (a ++ b) (.node p [l, r]) :=
  .node rule (.category hl (.single hr))

/-- A rule with an operator behind a category. -/
theorem Derives.ended (rule : ⟨c, [.category d, .terminal x], some p⟩ ∈ rules)
    (ht : t.terminal = x) (hx : operand? t = none) (hl : Derives d a l) :
    Derives c (a ++ [t]) (.node p [l]) :=
  .node rule (.category hl (.cons_terminal ht hx .nil))

/-- A rule with an operator in front of a category. -/
theorem Derives.headed (rule : ⟨c, [.terminal x, .category d], some p⟩ ∈ rules)
    (ht : t.terminal = x) (hx : operand? t = none) (hl : Derives d a l) :
    Derives c (t :: a) (.node p [l]) :=
  .node rule (.cons_terminal ht hx (.single hl))

/-- A rule that drops a sign in front of a category. -/
theorem Derives.unsigned (rule : ⟨c, [.terminal x, .category d], none⟩ ∈ rules)
    (ht : t.terminal = x) (hx : operand? t = none) (hl : Derives d a l) : Derives c (t :: a) l :=
  .same rule (.cons_terminal ht hx (.single hl))

/-- A rule that drops brackets around a category. -/
theorem Derives.enclosed (rule : ⟨c, [.terminal x, .category d, .terminal y], none⟩ ∈ rules)
    (ht : t.terminal = x) (hx : operand? t = none) (ht' : t'.terminal = y)
    (hy : operand? t' = none) (hl : Derives d a l) : Derives c (t :: (a ++ [t'])) l :=
  .same rule (.cons_terminal ht hx (.category hl (.cons_terminal ht' hy .nil)))

/-- A rule with a single terminal. -/
theorem Derives.lone (rule : ⟨c, [.terminal x], some p⟩ ∈ rules) (ht : t.terminal = x) :
    Derives c [t] (.node p (operand? t).toList) := by
  subst ht
  exact .node rule (by simpa using DerivesAll.terminal (t := t) .nil)

end Introduction

/-! ## Induction by shape -/

/-- Tokens cut into pieces, one for each symbol: a piece for a category has a tree with the
property, and a piece for a terminal is a token with it. -/
def Splits (P : Category → List Token → Tree → Prop) :
    List Symbol → List Token → List Tree → Prop
  | [], tokens, operands => tokens = [] ∧ operands = []
  | .category c :: symbols, tokens, operands =>
    ∃ first rest tree others, tokens = first ++ rest ∧ operands = tree :: others ∧
      P c first tree ∧ Splits P symbols rest others
  | .terminal x :: symbols, tokens, operands =>
    ∃ t rest others, t.terminal = x ∧ tokens = t :: rest ∧
      operands = (operand? t).toList ++ others ∧ Splits P symbols rest others

/-- Induction over derivations with one case for each of the two ways a rule makes a tree. -/
theorem Derives.ruleInduction {P : Category → List Token → Tree → Prop}
    (node : ∀ {c symbols p tokens operands}, ⟨c, symbols, some p⟩ ∈ rules →
      Splits (fun c tokens tree => Derives c tokens tree ∧ P c tokens tree)
        symbols tokens operands → P c tokens (.node p operands))
    (same : ∀ {c symbols tokens tree}, ⟨c, symbols, none⟩ ∈ rules →
      Splits (fun c tokens tree => Derives c tokens tree ∧ P c tokens tree)
        symbols tokens [tree] → P c tokens tree)
    {c : Category} {tokens : List Token} {tree : Tree} (h : Derives c tokens tree) :
    P c tokens tree :=
  Derives.rec
    (motive_1 := fun c tokens tree _ => P c tokens tree)
    (motive_2 := fun symbols tokens operands _ =>
      Splits (fun c tokens tree => Derives c tokens tree ∧ P c tokens tree)
        symbols tokens operands)
    (fun rule _ parts => node rule parts)
    (fun rule _ parts => same rule parts)
    ⟨rfl, rfl⟩
    (fun head _ headIH tailIH => ⟨_, _, _, _, rfl, rfl, ⟨head, headIH⟩, tailIH⟩)
    (fun _ tailIH => ⟨_, _, _, rfl, rfl, rfl, tailIH⟩)
    h

/-- The shapes of rules. An operator or bracket beside a category leaves no operand. -/
inductive Rule.Shape : Rule → Prop where
  | promoted (c d : Category) : Shape ⟨c, [.category d], none⟩
  | between (c d d' : Category) (x : Terminal) (p : Production)
      (hx : ∀ t : Token, t.terminal = x → operand? t = none) :
      Shape ⟨c, [.category d, .terminal x, .category d'], some p⟩
  | beside (c d d' : Category) (p : Production) :
      Shape ⟨c, [.category d, .category d'], some p⟩
  | ended (c d : Category) (x : Terminal) (p : Production)
      (hx : ∀ t : Token, t.terminal = x → operand? t = none) :
      Shape ⟨c, [.category d, .terminal x], some p⟩
  | headed (c d : Category) (x : Terminal) (p : Production)
      (hx : ∀ t : Token, t.terminal = x → operand? t = none) :
      Shape ⟨c, [.terminal x, .category d], some p⟩
  | unsigned (c d : Category) (x : Terminal)
      (hx : ∀ t : Token, t.terminal = x → operand? t = none) :
      Shape ⟨c, [.terminal x, .category d], none⟩
  | enclosed (c d : Category) (x y : Terminal)
      (hx : ∀ t : Token, t.terminal = x → operand? t = none)
      (hy : ∀ t : Token, t.terminal = y → operand? t = none) :
      Shape ⟨c, [.terminal x, .category d, .terminal y], none⟩
  | lone (c : Category) (x : Terminal) (p : Production) : Shape ⟨c, [.terminal x], some p⟩

theorem Rule.shape_of_mem : ∀ r ∈ rules, r.Shape := by
  simp only [rules, List.forall_mem_cons, List.not_mem_nil, false_imp_iff, implies_true, and_true]
  repeat' constructor
  all_goals
    intro t ht
    simp [operand?, ht]

/-- Induction over derivations with one case for each shape of a rule. -/
@[elab_as_elim]
theorem Derives.shapeInduction {P : Category → List Token → Tree → Prop}
    (promoted : ∀ {c d tokens tree}, ⟨c, [.category d], none⟩ ∈ rules →
      Derives d tokens tree → P d tokens tree → P c tokens tree)
    (between : ∀ {c d d' x p a b l r} {t : Token},
      ⟨c, [.category d, .terminal x, .category d'], some p⟩ ∈ rules → t.terminal = x →
      Derives d a l → P d a l → Derives d' b r → P d' b r → P c (a ++ t :: b) (.node p [l, r]))
    (beside : ∀ {c d d' p a b l r}, ⟨c, [.category d, .category d'], some p⟩ ∈ rules →
      Derives d a l → P d a l → Derives d' b r → P d' b r → P c (a ++ b) (.node p [l, r]))
    (ended : ∀ {c d x p a l} {t : Token}, ⟨c, [.category d, .terminal x], some p⟩ ∈ rules →
      t.terminal = x → Derives d a l → P d a l → P c (a ++ [t]) (.node p [l]))
    (headed : ∀ {c d x p a l} {t : Token}, ⟨c, [.terminal x, .category d], some p⟩ ∈ rules →
      t.terminal = x → Derives d a l → P d a l → P c (t :: a) (.node p [l]))
    (unsigned : ∀ {c d x a l} {t : Token}, ⟨c, [.terminal x, .category d], none⟩ ∈ rules →
      t.terminal = x → Derives d a l → P d a l → P c (t :: a) l)
    (enclosed : ∀ {c d x y a l} {t t' : Token},
      ⟨c, [.terminal x, .category d, .terminal y], none⟩ ∈ rules →
      t.terminal = x → t'.terminal = y → Derives d a l → P d a l → P c (t :: (a ++ [t'])) l)
    (lone : ∀ {c x p} {t : Token}, ⟨c, [.terminal x], some p⟩ ∈ rules → t.terminal = x →
      P c [t] (.node p (operand? t).toList))
    {c : Category} {tokens : List Token} {tree : Tree} (h : Derives c tokens tree) :
    P c tokens tree := by
  refine Derives.ruleInduction ?node ?same h
  case node =>
    intro c symbols p tokens operands rule parts
    -- The rule is kept under a name: its shape fixes the symbols, and with them the pieces.
    generalize hr : (⟨c, symbols, some p⟩ : Rule) = r at rule
    cases Rule.shape_of_mem r rule with
    | promoted | unsigned | enclosed => cases hr
    | between c d d' x p hx =>
      cases hr
      obtain ⟨a, _, l, _, rfl, rfl, hl, t, _, _, ht, rfl, rfl, b, _, r, _, rfl, rfl, hr,
        rfl, rfl⟩ := parts
      simpa [hx t ht] using between rule ht hl.1 hl.2 hr.1 hr.2
    | beside c d d' p =>
      cases hr
      obtain ⟨a, _, l, _, rfl, rfl, hl, b, _, r, _, rfl, rfl, hr, rfl, rfl⟩ := parts
      simpa using beside rule hl.1 hl.2 hr.1 hr.2
    | ended c d x p hx =>
      cases hr
      obtain ⟨a, _, l, _, rfl, rfl, hl, t, _, _, ht, rfl, rfl, rfl, rfl⟩ := parts
      simpa [hx t ht] using ended rule ht hl.1 hl.2
    | headed c d x p hx =>
      cases hr
      obtain ⟨t, _, _, ht, rfl, rfl, a, _, l, _, rfl, rfl, hl, rfl, rfl⟩ := parts
      simpa [hx t ht] using headed rule ht hl.1 hl.2
    | lone c x p =>
      cases hr
      obtain ⟨t, _, _, ht, rfl, rfl, rfl, rfl⟩ := parts
      simpa using lone rule ht
  case same =>
    intro c symbols tokens tree rule parts
    generalize hr : (⟨c, symbols, none⟩ : Rule) = r at rule
    cases Rule.shape_of_mem r rule with
    | between | beside | ended | headed | lone => cases hr
    | promoted c d =>
      cases hr
      obtain ⟨a, _, l, _, rfl, h, hl, rfl, rfl⟩ := parts
      cases h
      simpa using promoted rule hl.1 hl.2
    | unsigned c d x hx =>
      cases hr
      obtain ⟨t, _, _, ht, rfl, h, a, _, l, _, rfl, rfl, hl, rfl, rfl⟩ := parts
      rw [hx t ht] at h
      cases h
      simpa using unsigned rule ht hl.1 hl.2
    | enclosed c d x y hx hy =>
      cases hr
      obtain ⟨t, _, _, ht, rfl, h, a, _, l, _, rfl, rfl, hl, t', _, _, ht', rfl, rfl, rfl, rfl⟩ :=
        parts
      rw [hx t ht, hy t' ht'] at h
      cases h
      exact enclosed rule ht ht' hl.1 hl.2

end UnitCalc.Expr.Grammar
