import UnitCalc.Expr.OperandRule
import UnitCalc.Quantity.Order
import UnitCalc.Script.Plain

/-!
# Errors of scripts

The ways in which a step of a script can fail. An error is a cause with the names that show
it; the wording is in the `message` functions.
-/

namespace UnitCalc.Script

/-- Why a text cannot be filled in. -/
inductive TemplateFault where
  /-- A value that no place in the text takes. -/
  | valuesLeft
  | valuesMissing
  | incomplete
  /-- A place with a letter that has no meaning. -/
  | unknownLetter (letter : Char) (index : Nat)
  | nameNeeded
  | numberNeeded (letter : Char) (kind : String)
  | integerNeeded (letter : Char) (kind : String)
  | notANumber
  | infinite
deriving Repr, DecidableEq

/-- What is said of a text that cannot be filled in. -/
def TemplateFault.message : TemplateFault → String
  | .valuesLeft => "not all arguments converted during string formatting"
  | .valuesMissing => "not enough arguments for format string"
  | .incomplete => "incomplete format"
  | .unknownLetter letter index =>
    let code := String.ofList (Nat.toDigits 16 letter.toNat)
    let shown := if 31 ≤ letter.toNat ∧ letter.toNat < 127 then letter else '?'
    s!"unsupported format character '{shown}' (0x{code}) at index {index}"
  | .nameNeeded => "format requires a mapping"
  | .numberNeeded letter kind => s!"%{letter} format: a real number is required, not {kind}"
  | .integerNeeded letter kind => s!"%{letter} format: an integer is required, not {kind}"
  | .notANumber => "cannot convert float NaN to integer"
  | .infinite => "cannot convert float infinity to integer"

/-- Why a step of a script fails. -/
inductive Error where
  | fault (cause : Fault Plain)
  | plain (cause : PlainFault)
  | exponents (cause : ExponentFault)
  | axis (cause : AxisFault)
  | template (cause : TemplateFault)
  /-- An expression without any text; what is given in its place is shown. -/
  | emptyInput (shown : String)
  | badFactor
  /-- A wrong number of operands. -/
  | arity (rule : Expr.OperandRule) (given : Nat)
  /-- Two sequences of different lengths where equal ones are needed. -/
  | unequalLengths (secondLonger : Bool)
  | indexOutOfRange (kind : String)
  /-- An index that is too large for any sequence. -/
  | indexTooLarge
  /-- A number of repetitions that is too large for any sequence. -/
  | countTooLarge
  /-- A repeated sequence that is too long to be held. -/
  | noMemory
  /-- A repeated text that is too long for any index. -/
  | repeatedTooLong
  | noAttribute (kind name : String)
  | noRegister (name : String)
  /-- An operator that two kinds do not have. -/
  | unsupported (operator left right : String)
  /-- A power by a modulus that three kinds do not have. -/
  | unsupportedModulus (left right modulus : String)
  | badOperand (operator kind : String)
  | notOrdered (operator left right : String)
  | notComparable (qualifiedKind : String)
  | notANumber (kind : String)
  | numberNeeded (kind : String)
  | notIterable (kind : String)
  | notIndexable (kind : String)
  | badIndex (kind index : String)
  | notACount (kind : String)
  | notJoinable (kind other : String)
  | notAnExponent (kind : String)
  | noModulus
  | notCallable (kind : String)
  | noLength (kind : String)
  | unhashable (kind : String)
  | unknownDisplay
  | noDisplays (kind : String)
  | displayNotText (kind : String)
  /-- A word for the display of a plain number or a text that has no meaning. -/
  | badDisplay (word kind : String)
  | badDisplayLetter (letter : Char) (kind : String)
  /-- A step with operands that no operation takes. -/
  | unknownStep

/-- What is said of a failed step. -/
def Error.message : Error → String
  | .fault cause => cause.message
  | .plain cause => cause.message
  | .exponents cause => cause.message
  | .axis cause => cause.message
  | .template cause => cause.message
  | .emptyInput shown => s!"Unexpected end of input in {shown}"
  | .badFactor => CatalogFault.badFactor.message
  | .arity rule given => rule.message given
  | .unequalLengths true => "zip() argument 2 is longer than argument 1"
  | .unequalLengths false => "zip() argument 2 is shorter than argument 1"
  | .indexOutOfRange kind => s!"{kind} index out of range"
  | .indexTooLarge => "cannot fit 'int' into an index-sized integer"
  | .countTooLarge => "cannot fit 'int' into an index-sized integer"
  | .noMemory => ""
  | .repeatedTooLong => "repeated string is too long"
  | .noAttribute kind name => s!"'{kind}' object has no attribute '{name}'"
  | .noRegister name => Text.quote name
  | .unsupported operator left right =>
    s!"unsupported operand type(s) for {operator}: '{left}' and '{right}'"
  | .unsupportedModulus left right modulus =>
    s!"unsupported operand type(s) for ** or pow(): '{left}', '{right}', '{modulus}'"
  | .badOperand operator kind => s!"bad operand type for {operator}: '{kind}'"
  | .notOrdered operator left right =>
    s!"'{operator}' not supported between instances of '{left}' and '{right}'"
  | .notComparable kind => s!"Cannot compare Quantity with type <class '{kind}'>"
  | .notANumber kind => s!"float() argument must be a string or a real number, not '{kind}'"
  | .numberNeeded kind => s!"must be real number, not {kind}"
  | .notIterable kind => s!"'{kind}' object is not iterable"
  | .notIndexable kind => s!"'{kind}' object is not subscriptable"
  | .badIndex "string" index => s!"string indices must be integers, not '{index}'"
  | .badIndex kind index => s!"{kind} indices must be integers or slices, not {index}"
  | .notACount kind => s!"can't multiply sequence by non-int of type '{kind}'"
  | .notJoinable kind other =>
    "can only concatenate " ++ kind ++ " (not " ++ "\"" ++ other ++ "\") to " ++ kind
  | .notAnExponent kind => s!"Exponent must be int or float, got {kind}"
  | .noModulus => "Modulo exponentiation is not supported for Dimension."
  | .notCallable kind => s!"'{kind}' object is not callable"
  | .noLength kind => s!"object of type '{kind}' has no len()"
  | .unhashable kind => s!"unhashable type: '{kind}'"
  | .unknownDisplay => Display.unknownMessage
  | .noDisplays kind => s!"unsupported format string passed to {kind}.__format__"
  | .displayNotText kind => s!"format() argument 2 must be str, not {kind}"
  | .badDisplay word kind =>
    s!"Invalid format specifier '{word}' for object of type '{kind}'"
  | .badDisplayLetter letter kind =>
    let shown := if 32 < letter.toNat ∧ letter.toNat < 128 then String.singleton letter
      else "\\x" ++ String.ofList (Nat.toDigits 16 letter.toNat)
    s!"Unknown format code '{shown}' for object of type '{kind}'"
  | .unknownStep => "unknown step"

/-- Passes on the result of a calculation with quantities. -/
def ofFault {α : Type} : Except (Fault Plain) α → Except Error α :=
  Except.mapError .fault

/-- Passes on the result of a calculation with plain numbers. -/
def ofPlain {α : Type} : Except PlainFault α → Except Error α :=
  Except.mapError .plain

/-- Passes on a dimension. -/
def ofExponents {α : Type} : Except ExponentFault α → Except Error α :=
  Except.mapError .exponents

/-- Passes on a context. -/
def ofAxes {α : Type} : Except AxisFault α → Except Error α :=
  Except.mapError .axis

/-- A dimension that is missing where its exponents were not finite. -/
def finiteDimension : Option (Dimension Plain) → Except Error (Dimension Plain)
  | some d => .ok d
  | none => .error (.exponents .notFinite)

end UnitCalc.Script
