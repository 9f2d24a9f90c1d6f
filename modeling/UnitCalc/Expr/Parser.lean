import UnitCalc.Expr.Tree

/-!
# Parsing

The parser is an automaton that takes one token at a time. Its state holds what has been read
as the operands of open operators: sums outside products, products outside prefix operators
and powers, and all of it once more for every open bracket. A token that no expression can go
on with is refused at once, so the refused token is the place of a syntax error.

The grammar can be read in two ways in one place only. In `2^3 m` the units may belong to the
exponent or to the power: the state is the same for both until the units end, and there a
choice is made of the two readings, the power first.
-/

namespace UnitCalc.Expr

/-! ## Operands -/

/-- A node for an open operator and its right operand; without an operator, the operand. -/
def Tree.closeOver (left : Option (Production × Tree)) (right : Tree) : Tree :=
  match left with
  | some (production, tree) => .node production [tree, right]
  | none => right

/-- A numeral, which has a sign of its own or none. -/
structure Literal where
  signed : Bool
  terminal : Terminal
  text : String
deriving Repr, DecidableEq

namespace Literal

/-- The literal that a token is. -/
def ofToken? (t : Token) : Option Literal :=
  match t.terminal with
  | .number => some ⟨false, t.terminal, t.text⟩
  | .positiveNumber => some ⟨true, t.terminal, t.text⟩
  | .negativeNumber => some ⟨true, t.terminal, t.text⟩
  | _ => none

/-- A numeral as an operand. -/
def tree (l : Literal) : Tree :=
  .node (if l.signed then .signedNumber else .number) [.leaf l.terminal l.text]

/-- A numeral raised to a power; a sign applies to the power. -/
def power (l : Literal) (exponent : Tree) : Tree :=
  .node (if l.signed then .signedPow else .pow) [l.tree, exponent]

/-- The factorial of a numeral; a sign applies to the factorial. -/
def factorial (l : Literal) : Tree :=
  .node (if l.signed then .signedFactorial else .factorial) [l.tree]

/-- A numeral with units. -/
def quantity (l : Literal) (units : Tree) : Tree :=
  .node (if l.signed then .signedQuantity else .quantity) [l.tree, units]

/-- A power of two numerals with units. -/
def scaledQuantity (l exponent : Literal) (units : Tree) : Tree :=
  .node (if l.signed then .signedQuantity else .quantity)
    [.node (if l.signed then .signedScaled else .scaled) [l.tree, exponent.tree], units]

end Literal

/-- The functions. -/
inductive FunctionName where
  | sqrt
  | log
  | ln
deriving Repr, DecidableEq

namespace FunctionName

/-- The function whose name a token is. -/
def ofToken? (t : Token) : Option FunctionName :=
  match t.terminal with
  | .sqrt => some .sqrt
  | .log => some .log
  | .ln => some .ln
  | _ => none

/-- A function of an argument. -/
def apply (f : FunctionName) (argument : Tree) : Tree :=
  .node (match f with | .sqrt => .sqrt | .log => .log | .ln => .ln) [argument]

end FunctionName

/-- The constant that a token names. -/
def constant? (t : Token) : Option Tree :=
  match t.terminal with
  | .e => some (.node .e [])
  | .pi => some (.node .pi [])
  | _ => none

/-! ## Units -/

/-- A run of units as far as it has been read. -/
inductive UnitRun where
  /-- Nothing, where a unit has to follow. -/
  | start
  /-- A unit, which can be raised to a power, behind an open operator. -/
  | named (left : Option (Production × Tree)) (unit : Tree)
  /-- A unit and the sign of a power. -/
  | raised (left : Option (Production × Tree)) (unit : Tree)
  /-- A unit with its exponent. -/
  | whole (left : Option (Production × Tree)) (factor : Tree)
  /-- A run and the sign of a product or quotient. -/
  | joined (production : Production) (run : Tree)

namespace UnitRun

/-- The tree of a run that can end here. -/
def tree? : UnitRun → Option Tree
  | .named left unit => some (.closeOver left unit)
  | .whole left factor => some (.closeOver left factor)
  | _ => none

/-- The leaf of a unit with its node. -/
def unit (t : Token) : Tree :=
  .node .unit [.leaf t.terminal t.text]

/-- Goes on behind a run that can end here: with another unit, or with the sign of a product
or quotient. -/
def extend (run : Tree) (t : Token) : Option UnitRun :=
  match t.terminal with
  | .unit => some (.named (some (.unitMul, run)) (unit t))
  | .star => some (.joined .unitMul run)
  | .slash => some (.joined .unitDiv run)
  | _ => none

/-- Takes one token. -/
def step (u : UnitRun) (t : Token) : Option UnitRun :=
  match u with
  | .start => if t.terminal = .unit then some (.named none (unit t)) else none
  | .joined production run =>
    if t.terminal = .unit then some (.named (some (production, run)) (unit t)) else none
  | .raised left base =>
    (Literal.ofToken? t).map fun l => .whole left (.node .unitPow [base, l.tree])
  | .named left base =>
    if t.terminal = .caret then some (.raised left base) else extend (.closeOver left base) t
  | .whole left factor => extend (.closeOver left factor) t

end UnitRun

/-! ## Levels -/

/-- What is open in front of an operand. -/
inductive OpenPrefix where
  | plus
  | minus
  | power (base : Tree)
  /-- A power whose base is a numeral, which can also be the magnitude of a quantity. -/
  | literalPower (base : Literal)

/-- The tree of an open operator and the operand behind it. -/
def OpenPrefix.close (o : OpenPrefix) (operand : Tree) : Tree :=
  match o with
  | .plus => operand
  | .minus => .node .neg [operand]
  | .power base => .node .pow [base, operand]
  | .literalPower base => base.power operand

/-- The open operators of one pair of brackets: of sums, of products, and those in front of an
operand, the innermost first. -/
structure Level where
  sum : Option (Production × Tree)
  product : Option (Production × Tree)
  inFront : List OpenPrefix

namespace Level

/-- The level where nothing is open. -/
def empty : Level := ⟨none, none, []⟩

/-- The factor that an operand completes. -/
def factor (level : Level) (operand : Tree) : Tree :=
  level.inFront.foldl (fun tree o => o.close tree) operand

/-- The term that a factor completes. -/
def term (level : Level) (factor : Tree) : Tree :=
  .closeOver level.product factor

/-- The expression that a factor completes. -/
def expression (level : Level) (factor : Tree) : Tree :=
  .closeOver level.sum (level.term factor)

/-- Opens an operator in front of the next operand. -/
def openPrefix (level : Level) (o : OpenPrefix) : Level :=
  { level with inFront := o :: level.inFront }

/-- Opens a product or quotient behind a factor. -/
def openProduct (level : Level) (production : Production) (factor : Tree) : Level :=
  ⟨level.sum, some (production, level.term factor), []⟩

/-- Opens a sum or difference behind a factor. -/
def openSum (level : Level) (production : Production) (factor : Tree) : Level :=
  ⟨some (production, level.expression factor), none, []⟩

/-- The factor that a quantity completes. Behind the power of a numeral it has two readings:
the power of the numeral to the quantity, and the quantity of the power. -/
def quantityFactor (level : Level) (l : Literal) (units : Tree) : Tree :=
  match level.inFront with
  | .literalPower base :: rest =>
    let readings := [base.power (l.quantity units), base.scaledQuantity l units]
    factor { level with inFront := rest } (.choice readings)
  | _ => level.factor (l.quantity units)

end Level

/-! ## States -/

/-- What has been read last. -/
inductive Operand where
  /-- A numeral; a factorial, a power or units may follow. -/
  | literal (l : Literal)
  /-- A constant, function, group or factorial; a factorial or a power may follow. -/
  | primary (tree : Tree)
  /-- An operand that neither factorial nor power may follow. -/
  | closed (tree : Tree)

/-- The tree of an operand. -/
def Operand.tree : Operand → Tree
  | .literal l => l.tree
  | .primary tree => tree
  | .closed tree => tree

/-- What a group or function is for: an operand of its own, or, behind another one, the right
operand of a product without a sign. -/
def Operand.ofTree (juxtaposed : Bool) (tree : Tree) : Operand :=
  if juxtaposed then .closed tree else .primary tree

/-- An open bracket: the level outside, the function that the group is the argument of, and
whether it stands behind another operand. -/
structure Frame where
  level : Level
  function : Option FunctionName
  juxtaposed : Bool

/-- The operand that a group becomes. -/
def Frame.operand (frame : Frame) (group : Tree) : Operand :=
  .ofTree frame.juxtaposed <|
    match frame.function with
    | some f => f.apply group
    | none => group

/-- What the parser waits for inside an expression. -/
inductive Progress where
  /-- An operand. -/
  | before
  /-- The argument of a function. -/
  | argument (function : FunctionName) (juxtaposed : Bool)
  /-- Whatever may follow an operand. -/
  | behind (operand : Operand)
  /-- Whatever may follow a numeral and a run of units. -/
  | quantity (l : Literal) (units : UnitRun)

/-- The state of the parser: inside an expression, with the open brackets, the innermost
first, or in the units of a conversion. -/
inductive State where
  | expression (frames : List Frame) (level : Level) (progress : Progress)
  | conversion (source : Tree) (units : UnitRun)

namespace State

/-- The state before the first token. -/
def start : State := .expression [] .empty .before

/-- Takes a token where an operand has to start. -/
def beforeOperand (frames : List Frame) (level : Level) (t : Token) : Option State :=
  match Literal.ofToken? t, constant? t, FunctionName.ofToken? t with
  | some l, _, _ => some (.expression frames level (.behind (.literal l)))
  | none, some tree, _ => some (.expression frames level (.behind (.primary tree)))
  | none, none, some f => some (.expression frames level (.argument f false))
  | none, none, none =>
    match t.terminal with
    | .plus => some (.expression frames (level.openPrefix .plus) .before)
    | .minus => some (.expression frames (level.openPrefix .minus) .before)
    | .leftParen => some (.expression (⟨level, none, false⟩ :: frames) .empty .before)
    | _ => none

/-- Takes a token where the argument of a function has to start. -/
def beforeArgument (frames : List Frame) (level : Level) (f : FunctionName)
    (juxtaposed : Bool) (t : Token) : Option State :=
  let done (tree : Tree) : Option State :=
    some (.expression frames level (.behind (.ofTree juxtaposed (f.apply tree))))
  match t.terminal with
  | .number => done (Literal.tree ⟨false, t.terminal, t.text⟩)
  | .leftParen => some (.expression (⟨level, some f, juxtaposed⟩ :: frames) .empty .before)
  | _ =>
    match constant? t with
    | some tree => done tree
    | none => none

/-- Takes a token behind a complete factor. -/
def behindFactor (frames : List Frame) (level : Level) (factor : Tree) (t : Token) :
    Option State :=
  let product (production : Production) : Option State :=
    some (.expression frames (level.openProduct production factor) .before)
  let sum (production : Production) : Option State :=
    some (.expression frames (level.openSum production factor) .before)
  let juxtaposition := level.openProduct .mul factor
  match t.terminal with
  | .star => product .mul
  | .slash => product .div
  | .percent => product .mod
  | .plus => sum .add
  | .minus => sum .sub
  | .leftParen => some (.expression (⟨juxtaposition, none, true⟩ :: frames) .empty .before)
  | .rightParen =>
    match frames with
    | frame :: frames =>
      some (.expression frames frame.level (.behind (frame.operand (level.expression factor))))
    | [] => none
  | .arrow =>
    match frames with
    | _ :: _ => none
    | [] => some (.conversion (level.expression factor) .start)
  | _ =>
    match Literal.ofToken? t, constant? t, FunctionName.ofToken? t with
    | some l, _, _ =>
      if l.signed then
        some (.expression frames (level.openSum .add factor) (.behind (.literal l)))
      else none
    | none, some tree, _ => some (.expression frames juxtaposition (.behind (.closed tree)))
    | none, none, some f => some (.expression frames juxtaposition (.argument f true))
    | none, none, none => none

/-- Takes a token behind an operand. -/
def behindOperand (frames : List Frame) (level : Level) (o : Operand) (t : Token) : Option State :=
  match o, t.terminal with
  | .literal l, .bang =>
    some (.expression frames level
      (.behind (if l.signed then .closed l.factorial else .primary l.factorial)))
  | .literal l, .caret =>
    some (.expression frames (level.openPrefix (.literalPower l)) .before)
  | .literal l, .unit =>
    some (.expression frames level (.quantity l (.named none (UnitRun.unit t))))
  | .primary tree, .bang =>
    some (.expression frames level (.behind (.primary (.node .factorial [tree]))))
  | .primary tree, .caret =>
    some (.expression frames (level.openPrefix (.power tree)) .before)
  | o, _ => behindFactor frames level (level.factor o.tree) t

/-- The production of a product of terms that has the sign of a product of units. -/
def productOfUnits : Production → Production
  | .unitDiv => .div
  | _ => .mul

/-- Takes a token behind the units of a quantity. Where the token cannot be part of the units,
the quantity ends; a product sign read last then belongs to the expression. -/
def behindUnits (frames : List Frame) (level : Level) (l : Literal) (units : UnitRun)
    (t : Token) : Option State :=
  match units.step t with
  | some units => some (.expression frames level (.quantity l units))
  | none =>
    match units with
    | .joined production run =>
      let factor := level.quantityFactor l run
      beforeOperand frames (level.openProduct (productOfUnits production) factor) t
    | _ =>
      match units.tree? with
      | some run => behindFactor frames level (level.quantityFactor l run) t
      | none => none

/-- Takes one token, or refuses it. -/
def step (s : State) (t : Token) : Option State :=
  match s with
  | .expression frames level .before => beforeOperand frames level t
  | .expression frames level (.argument f juxtaposed) => beforeArgument frames level f juxtaposed t
  | .expression frames level (.behind o) => behindOperand frames level o t
  | .expression frames level (.quantity l units) => behindUnits frames level l units t
  | .conversion source units => (units.step t).map (.conversion source)

/-- Takes tokens until one is refused; the rest starts with the refused token. -/
def run (s : State) : List Token → Except (List Token) State
  | [] => .ok s
  | t :: ts =>
    match s.step t with
    | some s => run s ts
    | none => .error (t :: ts)

/-- Tokens can be taken in two goes. -/
theorem run_append (s : State) (ts us : List Token) :
    s.run (ts ++ us) =
      match s.run ts with
      | .ok s' => s'.run us
      | .error rest => .error (rest ++ us) := by
  induction ts generalizing s with
  | nil => rfl
  | cons t ts ih =>
    simp only [List.cons_append, run]
    split
    · exact ih _
    · rfl

/-- The derivation tree of a state that the input may end in. -/
def finish? : State → Option Tree
  | .expression [] level (.behind o) => some (level.expression (level.factor o.tree))
  | .expression [] level (.quantity l units) =>
    units.tree?.map fun run => level.expression (level.quantityFactor l run)
  | .conversion source units => units.tree?.map fun run => .node .convert [source, run]
  | _ => none

end State

/-- The derivation tree of an expression. Failing that, the first token that no expression
can go on with, or no token if the expression is not complete. -/
def parse (tokens : List Token) : Except (Option Token) Tree :=
  match State.start.run tokens with
  | .ok s =>
    match s.finish? with
    | some tree => .ok tree
    | none => .error none
  | .error rest => .error rest.head?

end UnitCalc.Expr
