import UnitCalc.Proofs.Exact.Factor
import UnitCalc.Proofs.Exact.Reference
import UnitCalc.Proofs.Grammar.Derivation

/-!
# Units are positive

What the grammar derives as units is made of units by products, quotients and powers alone,
so its amount is positive. A quotient of units never divides by zero.
-/

namespace UnitCalc.Exact

open UnitCalc.Expr UnitCalc.Expr.Grammar

/-! ## Rules of units -/

/-- The categories of units. -/
def isUnits : Category → Bool
  | .units | .unitFactor | .unitName => true
  | _ => false

/-- The productions that combine two units. -/
def combinesUnits : Production → Bool
  | .unitMul | .unitDiv => true
  | _ => false

/-- Whether a rule makes units out of units only, and has units around each slash of units. -/
def keepsUnits (rule : Grammar.Rule) : Bool :=
  match rule.symbols, rule.production with
  | [.category d], none => !isUnits rule.category || isUnits d
  | [.category d, .terminal _, .category d'], some p =>
    !(isUnits rule.category || p == .unitDiv) ||
      isUnits d && (p == .unitPow || combinesUnits p && isUnits d')
  | [.category d, .category d'], some p =>
    !(isUnits rule.category || p == .unitDiv) || isUnits d && combinesUnits p && isUnits d'
  | [.terminal t], some p =>
    !(isUnits rule.category || p == .unitDiv) || p == .unit && t == .unit
  | _, some p => !(isUnits rule.category || p == .unitDiv)
  | _, none => !isUnits rule.category

theorem keepsUnits_of_mem : ∀ rule ∈ rules, keepsUnits rule = true := by
  decide

/-! ## Amounts of units -/

theorem pow_pos_of_ok {a n x : Amount} (h : a.pow n = .ok x) (ha : 0 < a.magnitude) :
    0 < x.magnitude := by
  unfold Amount.pow at h
  cases hn : n.number with
  | error failure =>
    rw [hn] at h
    cases h
  | ok k =>
    rw [hn] at h
    simp only [bind, Except.bind, ha.ne', false_and, if_false] at h
    cases h
    exact zpow_pos ha _

variable [Given] {r : Registry ℚ}

theorem combine_pos {p : Production} {a b x : Amount} (hp : combinesUnits p = true)
    (h : amountOf p [a, b] = .ok x) (ha : 0 < a.magnitude) (hb : 0 < b.magnitude) :
    0 < x.magnitude := by
  cases p <;> simp only [combinesUnits, reduceCtorEq] at hp
  case unitMul =>
    cases h
    exact mul_pos ha hb
  case unitDiv =>
    simp only [amountOf, Amount.div, if_neg hb.ne'] at h
    cases h
    exact div_pos ha hb

/-- The amount of a node with two operands is made of theirs. -/
theorem amount_node_two {p : Production} {t u : Tree} {x : Amount}
    (h : amount r (.node p [t, u]) = .ok x) :
    ∃ a b, amount r t = .ok a ∧ amount r u = .ok b ∧ amountOf p [a, b] = .ok x := by
  simp only [amount, amounts] at h
  cases ht : amount r t with
  | error failure =>
    rw [ht] at h
    cases h
  | ok a =>
    cases hu : amount r u with
    | error failure =>
      rw [ht, hu] at h
      cases h
    | ok b =>
      rw [ht, hu] at h
      exact ⟨a, b, rfl, rfl, h⟩

/-- What is derived as units has a positive amount. -/
theorem amount_pos (hr : Coherent r) {c : Category} {tokens : List Token} {t : Tree}
    (h : Derives c tokens t) :
    isUnits c = true → ∀ a, amount r t = .ok a → 0 < a.magnitude := by
  refine h.shapeInduction ?promoted ?between ?beside ?ended ?headed ?unsigned ?enclosed ?lone
  case promoted =>
    intro c d _ t rule _ hd hc
    have hrule := keepsUnits_of_mem _ rule
    simp only [keepsUnits, hc, Bool.not_true, Bool.false_or] at hrule
    exact hd hrule
  case between =>
    intro c d d' _ p _ _ t u _ rule _ _ ht _ hu hc x hx
    have hrule := keepsUnits_of_mem _ rule
    simp only [keepsUnits, hc, Bool.true_or, Bool.not_true, Bool.false_or, Bool.and_eq_true,
      Bool.or_eq_true, beq_iff_eq] at hrule
    obtain ⟨hd, hp⟩ := hrule
    obtain ⟨a, b, ha, hb, hx⟩ := amount_node_two hx
    rcases hp with rfl | ⟨hp, hd'⟩
    · exact pow_pos_of_ok hx (ht hd a ha)
    · exact combine_pos hp hx (ht hd a ha) (hu hd' b hb)
  case beside =>
    intro c d d' p _ _ t u rule _ ht _ hu hc x hx
    have hrule := keepsUnits_of_mem _ rule
    simp only [keepsUnits, hc, Bool.true_or, Bool.not_true, Bool.false_or,
      Bool.and_eq_true] at hrule
    obtain ⟨⟨hd, hp⟩, hd'⟩ := hrule
    obtain ⟨a, b, ha, hb, hx⟩ := amount_node_two hx
    exact combine_pos hp hx (ht hd a ha) (hu hd' b hb)
  case ended | headed =>
    intro c d _ p _ _ _ rule _ _ _ hc
    have hrule := keepsUnits_of_mem _ rule
    simp [keepsUnits, hc] at hrule
  case unsigned =>
    intro c d _ _ _ _ rule _ _ _ hc
    have hrule := keepsUnits_of_mem _ rule
    simp [keepsUnits, hc] at hrule
  case enclosed =>
    intro c d _ _ _ _ _ _ rule _ _ _ _ hc
    have hrule := keepsUnits_of_mem _ rule
    simp [keepsUnits, hc] at hrule
  case lone =>
    intro c _ p k rule hk hc x hx
    have hrule := keepsUnits_of_mem _ rule
    simp only [keepsUnits, hc, Bool.true_or, Bool.not_true, Bool.false_or, Bool.and_eq_true,
      beq_iff_eq] at hrule
    obtain ⟨rfl, rfl⟩ := hrule
    have hoperand : operand? k = some (.leaf .unit k.text) := by
      simp [operand?, hk]
    cases hu : r.find? k.text with
    | none =>
      simp only [hoperand, Option.toList_some, amount, amounts, unitAmount, hu, if_true] at hx
      cases hx
    | some u =>
      simp only [hoperand, Option.toList_some, amount, amounts, unitAmount, hu, if_true] at hx
      cases hx
      exact hr.positive u (mem_known_of_find? hu)

end UnitCalc.Exact
