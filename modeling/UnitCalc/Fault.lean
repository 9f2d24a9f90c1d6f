import UnitCalc.Quantity.Basic

/-!
# Faults

Why a calculation has no result. A fault is a cause with the operands that show it; the
wording is in the `message` functions. Faults of dimension and of domain rule out one reading
of an ambiguous expression. All faults but breakdowns are reported to whoever typed the
expression; a breakdown ends the calculation outright.
-/

namespace UnitCalc

/-! ## Operations that faults name -/

/-- Operations on two quantities of one dimension. -/
inductive Comparison where
  | add
  | subtract
  | modulo
  | compare
deriving Repr, DecidableEq

/-- What an operation on two quantities of one dimension does to them. -/
def Comparison.phrase : Comparison → String
  | .add => "add"
  | .subtract => "subtract"
  | .modulo => "take the modulo of"
  | .compare => "compare"

/-- Operations with a result that has to be finite. -/
inductive Operation where
  | convert
  | add
  | subtract
  | multiply
  | divide
  | modulo
  | power
deriving Repr, DecidableEq

/-- The name of an operation. -/
def Operation.name : Operation → String
  | .convert => "convert"
  | .add => "add"
  | .subtract => "subtract"
  | .multiply => "multiply"
  | .divide => "divide"
  | .modulo => "modulo"
  | .power => "power"

/-- Functions of a plain number. -/
inductive PlainFunction where
  | log
  | ln
  | factorial
deriving Repr, DecidableEq

/-- The name of a function. -/
def PlainFunction.name : PlainFunction → String
  | .log => "log"
  | .ln => "ln"
  | .factorial => "factorial"

/-- Places where only a plain number can stand. -/
inductive PlainPlace where
  | argument (function : PlainFunction)
  | unitMagnitude
deriving Repr, DecidableEq

/-- The name of a place for a plain number. -/
def PlainPlace.name : PlainPlace → String
  | .argument f => f.name
  | .unitMagnitude => "unit magnitude"

/-! ## Faults of dimension -/

/-- Operands whose dimensions do not go together. -/
inductive DimensionFault (K : Type) where
  | mismatch (operation : Comparison) (left right : Quantity K)
  | exponent (base exponent : Quantity K)
  | operand (place : PlainPlace) (operand : Quantity K)
  | notPlain (operand : Quantity K)

namespace DimensionFault

variable {K : Type} [Scalar K]

/-- The operand on the left, or the only one. -/
def left : DimensionFault K → Quantity K
  | .mismatch _ left _ => left
  | .exponent base _ => base
  | .operand _ q => q
  | .notPlain q => q

/-- The operand on the right, if there are two. -/
def right? : DimensionFault K → Option (Quantity K)
  | .mismatch _ _ right => some right
  | .exponent _ n => some n
  | .operand _ _ => none
  | .notPlain _ => none

/-- The name of the operation that failed. -/
def operation : DimensionFault K → String
  | .mismatch operation _ _ => operation.phrase
  | .exponent _ _ => "power"
  | .operand place _ => place.name
  | .notPlain _ => "float"

/-- What a fault of dimension says. -/
def message : DimensionFault K → String
  | .mismatch operation left right =>
    s!"Cannot {operation.phrase} quantities with different dimensions: " ++
      s!"{left.dim.text} and {right.dim.text}"
  | .exponent _ n => s!"Exponent must be dimensionless, got {n.dim.text}"
  | .operand place q => s!"{place.name} requires a dimensionless operand, got {q.dim.text}"
  | .notPlain q => s!"Cannot convert a quantity with dimension {q.dim.text} to float"

end DimensionFault

/-! ## Faults of domain -/

/-- Operands for which an operation has no result. -/
inductive DomainFault (K : Type) where
  | divisionByZero
  | moduloByZero
  | notFinite (operation : Operation) (result : K)
  | exponentNotFinite (exponent : K)
  | zeroToNegative
  | powerTooLarge (base exponent : K)
  | noRealPower (base exponent : K)
  | dimensionPowerTooLarge (dim : Dimension K) (exponent : K)
  | productTooLarge (left right : Dimension K)
  | quotientTooLarge (left right : Dimension K)
  | undefined (function : PlainFunction) (argument : K)
  | numeralTooLarge (text : String)

/-- What a fault of domain says. -/
def DomainFault.message {K : Type} [Scalar K] : DomainFault K → String
  | .divisionByZero => "division by zero"
  | .moduloByZero => "modulo by zero"
  | .notFinite operation r => s!"{operation.name} has no finite result ({Scalar.fullText r})"
  | .exponentNotFinite n => s!"exponent {Scalar.fullText n} is not finite"
  | .zeroToNegative => "zero raised to a negative power"
  | .powerTooLarge x n => s!"{Scalar.fullText x} ** {Scalar.fullText n} overflows"
  | .noRealPower x n => s!"{Scalar.fullText x} ** {Scalar.fullText n} has no real result"
  | .dimensionPowerTooLarge d n => s!"{d.text} ** {Scalar.fullText n} overflows"
  | .productTooLarge d e => s!"cannot multiply {d.text} by {e.text}: exponents overflow"
  | .quotientTooLarge d e => s!"cannot divide {d.text} by {e.text}: exponents overflow"
  | .undefined f x => s!"{f.name}({Scalar.fullText x}) is undefined"
  | .numeralTooLarge text => s!"Numeric literal {Text.quote text} overflows"

/-! ## Breakdowns -/

/-- Causes that end a calculation outright. -/
inductive Breakdown where
  /-- The power of a unit's factor is too large in a conversion. -/
  | factorTooLarge
  /-- A conversion divides by a factor that has become zero. -/
  | factorZero
  /-- The remainder of an infinite value. -/
  | remainderUndefined
  /-- A comparison with a negative tolerance. -/
  | negativeTolerance
  /-- A derivation tree with a production that the grammar does not have. -/
  | unknownProduction (name : String)
  /-- A production with the wrong number of operands; the text says which. -/
  | arity (text : String)
  /-- An ambiguous span without readings. -/
  | noReadings
deriving Repr, DecidableEq

/-- What a breakdown says. -/
def Breakdown.message : Breakdown → String
  | .factorTooLarge => "(34, 'Numerical result out of range')"
  | .factorZero => "float division by zero"
  | .remainderUndefined => "math domain error"
  | .negativeTolerance => "tolerances must be non-negative"
  | .unknownProduction name => s!"Invalid derivation node: {Text.quote name}"
  | .arity text => text
  | .noReadings => "list index out of range"

/-! ## Faults -/

/-- Why a calculation has no result. -/
inductive Fault (K : Type) where
  /-- A lexeme that no expression can go on with. -/
  | unexpected (lexeme : String) (position : Nat) (input : String)
  /-- An expression that is not complete. -/
  | unexpectedEnd (input : String)
  | dimension (cause : DimensionFault K)
  | domain (cause : DomainFault K)
  | unknownUnit (symbol : String)
  | badNumeral (text : String)
  | breakdown (cause : Breakdown)

namespace Fault

variable {K : Type}

/-- Whether a fault only rules out one reading of an ambiguous span. -/
def rulesOutReading : Fault K → Bool
  | .dimension _ => true
  | .domain _ => true
  | _ => false

theorem rulesOutReading_iff {f : Fault K} :
    f.rulesOutReading = true ↔ (∃ cause, f = .dimension cause) ∨ ∃ cause, f = .domain cause := by
  cases f <;> simp [rulesOutReading]

/-- Whether a fault is reported to whoever typed the expression. -/
def isReported : Fault K → Bool
  | .breakdown _ => false
  | _ => true

variable [Scalar K]

/-- What a fault says. -/
def message : Fault K → String
  | .unexpected lexeme position input =>
    s!"Unexpected {Text.quote lexeme} at position {position} in {Text.quote input}"
  | .unexpectedEnd input => s!"Unexpected end of input in {Text.quote input}"
  | .dimension cause => cause.message
  | .domain cause => cause.message
  | .unknownUnit symbol => s!"Unknown unit symbol: {Text.quote symbol}"
  | .badNumeral text => s!"Invalid numeric literal {Text.quote text}"
  | .breakdown cause => cause.message

end Fault

end UnitCalc
