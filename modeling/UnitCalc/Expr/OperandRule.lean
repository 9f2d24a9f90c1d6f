import UnitCalc.Expr.Tree

/-!
# Operands of productions

A derivation tree that is given, and not parsed, can have a node with the wrong number of
operands. This module says how many operands each production takes, and how a wrong number of
them is described.
-/

namespace UnitCalc.Expr

/-- How a production that got the wrong number of operands is described. -/
inductive OperandRule where
  /-- An operator with two operands. -/
  | binary (name : String)
  /-- An operator with one operand. -/
  | unary (name : String)
  /-- A function with named operands. -/
  | named (name : String) (operands : List String)
  /-- A function with operands that can be left out. -/
  | ranged (name : String) (least most : Nat)
deriving Repr, DecidableEq

/-- Quoted names in a row, with `and` before the last. -/
def enumerate (names : List String) : String :=
  let quoted := names.map fun name => s!"'{name}'"
  match quoted with
  | [a, b] => s!"{a} and {b}"
  | _ =>
    match quoted.dropLast, quoted.getLast? with
    | [], last? => last?.getD ""
    | others, last? => ", ".intercalate others ++ ", and " ++ last?.getD ""

/-- A count with a noun, which takes an `s` unless the count is one. -/
def plural (count : Nat) (noun : String) : String :=
  if count = 1 then s!"{count} {noun}" else s!"{count} {noun}s"

/-- How many operands were given where they are not those that a function takes. -/
def givenText (given : Nat) : String :=
  let verb := if given = 1 then "was" else "were"
  s!"but {given} {verb} given"

/-- The description of a wrong number of operands. -/
def OperandRule.message (rule : OperandRule) (given : Nat) : String :=
  match rule with
  | .binary name => s!"{name} expected 2 arguments, got {given}"
  | .unary name => s!"{name}() takes exactly one argument ({given} given)"
  | .named name operands =>
    if given < operands.length then
      let missing := operands.drop given
      let count := plural missing.length "required positional argument"
      s!"{name}() missing {count}: " ++ enumerate missing
    else
      let count := plural operands.length "positional argument"
      s!"{name}() takes {count} {givenText given}"
  | .ranged name least most =>
    s!"{name}() takes from {least} to {most} positional arguments {givenText given}"

/-- The operands of a production whose name is in the messages, given `count` of them. -/
def Production.operandRule (p : Production) (count : Nat) : OperandRule :=
  let anonymous := "<lambda>"
  let plain := OperandRule.named "_math.<locals>.reduce" ["q"]
  let power := OperandRule.named "_pow" ["base", "exponent"]
  let signed (rule : OperandRule) :=
    if count = 0 then OperandRule.named "_signed.<locals>.signed" ["base"] else rule
  match p with
  | .convert => .named anonymous ["expr", "units"]
  | .add => .binary "add"
  | .sub => .binary "sub"
  | .mul => .binary "mul"
  | .div => .binary "truediv"
  | .mod => .binary "mod"
  | .neg => .unary "_operator.neg"
  | .pow | .scaled | .unitPow => power
  | .signedPow | .signedScaled => signed power
  | .factorial | .log | .ln => plain
  | .signedFactorial => signed plain
  | .quantity | .signedQuantity => .named "_attach" ["magnitude", "units"]
  | .sqrt | .number | .signedNumber | .unit => .named anonymous ["q"]
  | .e | .pi => .named anonymous []
  | .unitMul | .unitDiv => .named anonymous ["a", "b"]
  | .other name => .named name []

end UnitCalc.Expr
