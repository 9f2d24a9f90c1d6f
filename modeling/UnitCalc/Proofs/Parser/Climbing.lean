import Mathlib.Data.List.Forall2
import UnitCalc.Proofs.Parser.Yield

/-!
# Precedence climbing

A reference for what operators between operands mean, which knows nothing of the grammar: a tree
grows to the right as long as the operators bind tightly enough, and the right operand of an
operator is grown first, by the operators that bind tighter. A sum or product takes its right
operand from the operators above it, and so groups to the left; a power takes it from powers,
too, and groups to the right.

Growing never looks into the operands, so the readings of the tree are the trees of the readings.
-/

namespace UnitCalc.Expr

/-! ## Operators -/

/-- An operator between two operands. -/
inductive BinaryOperator where
  | plus
  | minus
  | star
  | slash
  | percent
  | caret
deriving Repr, DecidableEq

namespace BinaryOperator

/-- The sign of an operator. -/
def text : BinaryOperator → String
  | .plus => "+"
  | .minus => "-"
  | .star => "*"
  | .slash => "/"
  | .percent => "%"
  | .caret => "^"

/-- What an operator and its operands make. -/
def production : BinaryOperator → Production
  | .plus => .add
  | .minus => .sub
  | .star => .mul
  | .slash => .div
  | .percent => .mod
  | .caret => .pow

/-- How tightly an operator binds. -/
def precedence : BinaryOperator → Nat
  | .plus | .minus => 0
  | .star | .slash | .percent => 1
  | .caret => 2

/-- Whether operators of one precedence group to the right. -/
def groupsRight : BinaryOperator → Bool
  | .caret => true
  | _ => false

/-- The least precedence of an operator that belongs to the right operand. -/
def least (op : BinaryOperator) : Nat :=
  if op.groupsRight then op.precedence else op.precedence + 1

end BinaryOperator

/-! ## Climbing -/

/-- What has been grown, and the operators and operands that are left of some `n`. -/
structure Climbed (n : Nat) where
  tree : Tree
  rest : List (BinaryOperator × Tree)
  length_le : rest.length ≤ n

/-- Grows a tree by the operators behind it that bind at least as tightly as `least`. -/
def climb (least : Nat) (left : Tree) (links : List (BinaryOperator × Tree)) :
    Climbed links.length :=
  match links with
  | [] => ⟨left, [], Nat.le_refl _⟩
  | (op, operand) :: links =>
    if op.precedence < least then ⟨left, (op, operand) :: links, Nat.le_refl _⟩
    else
      match climb op.least operand links with
      | ⟨right, rest, hrest⟩ =>
        match climb least (.node op.production [left, right]) rest with
        | ⟨whole, rest', hrest'⟩ =>
          ⟨whole, rest', Nat.le_succ_of_le (Nat.le_trans hrest' hrest)⟩
termination_by links.length
decreasing_by
  · simp
  · exact Nat.lt_succ_of_le hrest

/-- The tree of some operators and operands behind a first operand. -/
def climbing (first : Tree) (links : List (BinaryOperator × Tree)) : Tree :=
  (climb 0 first links).tree

section Climb

variable {least high : Nat} {op : BinaryOperator} {left operand : Tree}
  {links : List (BinaryOperator × Tree)}

@[simp] theorem climb_nil_tree : (climb least left []).tree = left := by
  rw [climb]

@[simp] theorem climb_nil_rest : (climb least left []).rest = [] := by
  rw [climb]

/-- An operator that binds too loosely is left. -/
theorem climb_of_lt (h : op.precedence < least) (left operand : Tree)
    (links : List (BinaryOperator × Tree)) :
    (climb least left ((op, operand) :: links)).tree = left ∧
      (climb least left ((op, operand) :: links)).rest = (op, operand) :: links := by
  rw [climb, if_pos h]
  exact ⟨rfl, rfl⟩

/-- An operator that binds tightly enough takes its right operand, and growing goes on. -/
theorem climb_of_le (h : least ≤ op.precedence) (left operand : Tree)
    (links : List (BinaryOperator × Tree)) :
    let right := climb op.least operand links
    let whole := climb least (.node op.production [left, right.tree]) right.rest
    (climb least left ((op, operand) :: links)).tree = whole.tree ∧
      (climb least left ((op, operand) :: links)).rest = whole.rest := by
  rw [climb, if_neg (Nat.not_lt.mpr h)]
  exact ⟨rfl, rfl⟩

/-- Nothing is left that binds tightly enough. -/
theorem precedence_lt_of_climb {rest : List (BinaryOperator × Tree)}
    (h : (climb least left links).rest = (op, operand) :: rest) : op.precedence < least := by
  fun_induction climb least left links with
  | case1 => cases h
  | case2 least left op' operand' links hlt =>
    cases h
    exact hlt
  | case3 least left op' operand' links _ right between _ _ whole behind _ hwhole _ ihwhole =>
    rw [hwhole] at ihwhole
    exact ihwhole h

/-- What has been left does not make a tree grow. -/
theorem climb_rest (left next : Tree) (links : List (BinaryOperator × Tree)) :
    let rest := (climb least next links).rest
    (climb least left rest).tree = left ∧ (climb least left rest).rest = rest := by
  intro rest
  cases hrest : rest with
  | nil => exact ⟨climb_nil_tree, climb_nil_rest⟩
  | cons link rest' => exact climb_of_lt (precedence_lt_of_climb hrest) left link.2 rest'

/-- Growing down to a low precedence starts with growing down to a higher one. -/
theorem climb_climb (hle : least ≤ high) (left : Tree) (links : List (BinaryOperator × Tree)) :
    let grown := climb high left links
    (climb least left links).tree = (climb least grown.tree grown.rest).tree ∧
      (climb least left links).rest = (climb least grown.tree grown.rest).rest := by
  fun_induction climb high left links with
  | case1 => exact ⟨rfl, rfl⟩
  | case2 => exact ⟨rfl, rfl⟩
  | case3 high left op operand links hhigh right between _ hright whole behind _ hwhole _ ihwhole =>
    obtain ⟨htree, hrest⟩ :=
      climb_of_le (Nat.le_trans hle (Nat.not_lt.mp hhigh)) left operand links
    rw [htree, hrest, hright]
    rw [hwhole] at ihwhole
    exact ihwhole hle

end Climb

example (a b c d e : Tree) : climbing a [(.minus, b), (.star, c), (.caret, d), (.caret, e)] =
    .node .sub [a, .node .mul [b, .node .pow [c, .node .pow [d, e]]]] := by
  cbv

/-! ## Readings -/

/-- The same operator with a reading of its operand. -/
abbrev ReadsLink (link' link : BinaryOperator × Tree) : Prop :=
  link'.1 = link.1 ∧ link'.2 ∈ link.2.readings

section Readings

variable {least : Nat} {left left' t : Tree} {links links' : List (BinaryOperator × Tree)}

/-- Growing a reading of a tree by readings of operands makes a reading, and leaves readings. -/
theorem climb_readings (hleft : left' ∈ left.readings)
    (hlinks : List.Forall₂ ReadsLink links' links) :
    (climb least left' links').tree ∈ (climb least left links).tree.readings ∧
      List.Forall₂ ReadsLink (climb least left' links').rest (climb least left links).rest := by
  fun_induction climb least left links generalizing left' links' with
  | case1 =>
    cases hlinks
    rw [climb_nil_tree, climb_nil_rest]
    exact ⟨hleft, .nil⟩
  | case2 least left op operand links hlt =>
    obtain ⟨⟨op', operand'⟩, links', ⟨rfl, hoperand⟩, hrest, rfl⟩ :=
      List.forall₂_cons_right_iff.mp hlinks
    obtain ⟨htree, hrest'⟩ := climb_of_lt hlt left' operand' links'
    rw [htree, hrest']
    exact ⟨hleft, .cons ⟨rfl, hoperand⟩ hrest⟩
  | case3 least left op operand links hle right between _ hright whole behind _ hwhole
      ihright ihwhole =>
    obtain ⟨⟨op', operand'⟩, links', ⟨rfl, hoperand⟩, hrest, rfl⟩ :=
      List.forall₂_cons_right_iff.mp hlinks
    obtain ⟨htree, hrest'⟩ := climb_of_le (Nat.not_lt.mp hle) left' operand' links'
    rw [hright] at ihright
    rw [hwhole] at ihwhole
    obtain ⟨hmem, hbetween⟩ := ihright hoperand hrest
    rw [htree, hrest']
    exact ihwhole (Tree.mem_readings_two.mpr ⟨_, hleft, _, hmem, rfl⟩) hbetween

/-- Every reading of what has been grown, with readings of what is left, comes of readings. -/
theorem exists_climb_of_readings (ht : t ∈ (climb least left links).tree.readings)
    {rest : List (BinaryOperator × Tree)}
    (hrest : List.Forall₂ ReadsLink rest (climb least left links).rest) :
    ∃ left' links', left' ∈ left.readings ∧ List.Forall₂ ReadsLink links' links ∧
      (climb least left' links').tree = t ∧ (climb least left' links').rest = rest := by
  fun_induction climb least left links generalizing t rest with
  | case1 =>
    cases hrest
    exact ⟨t, [], ht, .nil, climb_nil_tree, climb_nil_rest⟩
  | case2 least left op operand links hlt =>
    refine ⟨t, rest, ht, hrest, ?_⟩
    obtain ⟨⟨op', operand'⟩, links', ⟨rfl, _⟩, _, rfl⟩ := List.forall₂_cons_right_iff.mp hrest
    exact climb_of_lt hlt _ _ _
  | case3 least left op operand links hle right between _ hright whole behind _ hwhole
      ihright ihwhole =>
    rw [hright] at ihright
    rw [hwhole] at ihwhole
    obtain ⟨_, between', hnode, hbetween, rfl, rfl⟩ := ihwhole ht hrest
    obtain ⟨left', hleft, right', hmem, rfl⟩ := Tree.mem_readings_two.mp hnode
    obtain ⟨operand', links', hoperand, hlinks, rfl, rfl⟩ := ihright hmem hbetween
    exact ⟨left', (op, operand') :: links', hleft, .cons ⟨rfl, hoperand⟩ hlinks,
      climb_of_le (Nat.not_lt.mp hle) _ _ _⟩

/-- The readings of a tree that has been grown to the end are grown of readings. -/
theorem mem_readings_climbing : t ∈ (climbing left links).readings ↔
    ∃ left' links', left' ∈ left.readings ∧ List.Forall₂ ReadsLink links' links ∧
      t = climbing left' links' := by
  constructor
  · intro ht
    have hnothing : (climb 0 left links).rest = [] := by
      rw [List.eq_nil_iff_forall_not_mem]
      intro link hlink
      obtain ⟨⟨op, operand⟩, rest, hcons⟩ := List.exists_cons_of_ne_nil (List.ne_nil_of_mem hlink)
      exact Nat.not_lt_zero _ (precedence_lt_of_climb hcons)
    have hrest : List.Forall₂ ReadsLink [] (climb 0 left links).rest := by
      rw [hnothing]
      exact .nil
    obtain ⟨left', links', hleft, hlinks, rfl, _⟩ := exists_climb_of_readings ht hrest
    exact ⟨left', links', hleft, hlinks, rfl⟩
  · rintro ⟨left', links', hleft, hlinks, rfl⟩
    exact (climb_readings hleft hlinks).1

end Readings

end UnitCalc.Expr
