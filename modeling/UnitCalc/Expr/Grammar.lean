import UnitCalc.Expr.Tree

/-!
# The grammar of expressions

The grammar is a table of rules over categories and terminals. `Derives` says which trees a
list of tokens derives from a category: a rule with a production makes a node of it, and a
rule without one hands its only operand on. Of the terminals only numbers and units are
operands; signs and keywords leave no trace in trees.

The grammar is ambiguous on purpose: in `2^3 m` the units may belong to the exponent or to
the whole power, and which reading has a value is not for the grammar to say.
-/

namespace UnitCalc.Expr.Grammar

/-- What a part of an expression can be. -/
inductive Category where
  | equation
  | expr
  | term
  | signedTerm
  | juxtaposed
  | factor
  | signedFactor
  | power
  | postfixed
  | atom
  | group
  | function
  | argument
  | constant
  | plainNumber
  | signedNumber
  | quantity
  | magnitude
  | signedQuantity
  | signedMagnitude
  | exponent
  | units
  | unitFactor
  | unitName
deriving Repr, DecidableEq

/-- A place in a rule: a category or a terminal. -/
inductive Symbol where
  | category (c : Category)
  | terminal (t : Terminal)
deriving Repr, DecidableEq

/-- What a category can consist of. Without a production the rule hands on its only
operand. -/
structure Rule where
  category : Category
  symbols : List Symbol
  production : Option Production
deriving Repr, DecidableEq

/-- A rule that makes a node. -/
def node (c : Category) (symbols : List Symbol) (p : Production) : Rule := ⟨c, symbols, some p⟩

/-- A rule that hands on its only operand. -/
def same (c : Category) (symbols : List Symbol) : Rule := ⟨c, symbols, none⟩

instance : Coe Category Symbol := ⟨.category⟩
instance : Coe Terminal Symbol := ⟨.terminal⟩

open Category Terminal in
/-- The rules of the grammar, from the whole expression down to its units. -/
def rules : List Rule := [
  same equation [expr],
  node equation [expr, arrow, units] .convert,
  -- sums
  same expr [term],
  node expr [expr, plus, term] .add,
  node expr [expr, minus, term] .sub,
  node expr [expr, signedTerm] .add,
  -- products
  same term [factor],
  node term [term, star, factor] .mul,
  node term [term, slash, factor] .div,
  node term [term, percent, factor] .mod,
  node term [term, juxtaposed] .mul,
  same signedTerm [signedFactor],
  node signedTerm [signedTerm, star, factor] .mul,
  node signedTerm [signedTerm, slash, factor] .div,
  node signedTerm [signedTerm, percent, factor] .mod,
  node signedTerm [signedTerm, juxtaposed] .mul,
  same juxtaposed [group],
  same juxtaposed [constant],
  same juxtaposed [function],
  -- signs and powers
  same factor [power],
  same factor [signedFactor],
  same factor [quantity],
  node factor [minus, factor] .neg,
  same factor [plus, factor],
  same signedFactor [signedNumber],
  node signedFactor [signedNumber, caret, factor] .signedPow,
  node signedFactor [signedNumber, bang] .signedFactorial,
  same signedFactor [signedQuantity],
  same power [postfixed],
  node power [postfixed, caret, factor] .pow,
  same postfixed [atom],
  node postfixed [postfixed, bang] .factorial,
  -- atoms
  same atom [plainNumber],
  same atom [group],
  same atom [function],
  same atom [constant],
  same group [leftParen, expr, rightParen],
  node function [sqrt, argument] .sqrt,
  node function [log, argument] .log,
  node function [ln, argument] .ln,
  same argument [group],
  same argument [plainNumber],
  same argument [constant],
  node constant [e] .e,
  node constant [pi] .pi,
  node plainNumber [number] .number,
  node signedNumber [positiveNumber] .signedNumber,
  node signedNumber [negativeNumber] .signedNumber,
  -- quantities
  node quantity [magnitude, units] .quantity,
  same magnitude [plainNumber],
  node magnitude [plainNumber, caret, exponent] .scaled,
  node signedQuantity [signedMagnitude, units] .signedQuantity,
  same signedMagnitude [signedNumber],
  node signedMagnitude [signedNumber, caret, exponent] .signedScaled,
  same exponent [plainNumber],
  same exponent [signedNumber],
  -- units
  same units [unitFactor],
  node units [units, star, unitFactor] .unitMul,
  node units [units, slash, unitFactor] .unitDiv,
  node units [units, unitFactor] .unitMul,
  same unitFactor [unitName],
  node unitFactor [unitName, caret, exponent] .unitPow,
  node unitName [unit] .unit]

/-- The operand that a token is, if it is one. -/
def operand? (t : Token) : Option Tree :=
  match t.terminal with
  | .number | .positiveNumber | .negativeNumber | .unit => some (.leaf t.terminal t.text)
  | _ => none

mutual

/-- A list of tokens derives a tree from a category. -/
inductive Derives : Category → List Token → Tree → Prop where
  | node {c : Category} {symbols : List Symbol} {p : Production} {tokens : List Token}
      {operands : List Tree} (rule : ⟨c, symbols, some p⟩ ∈ rules)
      (parts : DerivesAll symbols tokens operands) : Derives c tokens (.node p operands)
  | same {c : Category} {symbols : List Symbol} {tokens : List Token} {tree : Tree}
      (rule : ⟨c, symbols, none⟩ ∈ rules) (parts : DerivesAll symbols tokens [tree]) :
      Derives c tokens tree

/-- A list of tokens derives the operands of some symbols in a row. -/
inductive DerivesAll : List Symbol → List Token → List Tree → Prop where
  | nil : DerivesAll [] [] []
  | category {c : Category} {symbols : List Symbol} {first rest : List Token} {tree : Tree}
      {operands : List Tree} (head : Derives c first tree)
      (tail : DerivesAll symbols rest operands) :
      DerivesAll (.category c :: symbols) (first ++ rest) (tree :: operands)
  | terminal {t : Token} {symbols : List Symbol} {rest : List Token} {operands : List Tree}
      (tail : DerivesAll symbols rest operands) :
      DerivesAll (.terminal t.terminal :: symbols) (t :: rest)
        ((operand? t).toList ++ operands)

end

end UnitCalc.Expr.Grammar
