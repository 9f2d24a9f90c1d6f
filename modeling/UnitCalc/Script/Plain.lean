import UnitCalc.Number.Given
import UnitCalc.Number.Modular
import UnitCalc.Number.Quotient

/-!
# Plain numbers of scripts

The plain numbers of a script are truth values, integers of any size and doubles. They are
compared exactly, whatever their kinds, and integers stay exact where an operation allows it.
Quantities are made of them as well: they calculate with doubles only, but a unit keeps its
factor in the form in which it was given.

Not-a-number is equal to nothing, not even to itself. Tuples and tables still have to tell
whether they hold the same one, so each has a mark.
-/

namespace UnitCalc.Script

/-- The place in a script where a value arose: a step, and maybe an operand of it and an item
of that. -/
abbrev Mark := List Nat

/-- A plain number. -/
inductive Plain where
  | truth (b : Bool)
  | int (n : Int)
  | float (x : Float)
  /-- Not-a-number. While a step is performed, it is a `float` that has no mark yet. -/
  | nan (mark : Mark)

/-- Why an operation on plain numbers has no result. -/
inductive PlainFault where
  | given (cause : Number.GivenFault)
  | divisionByZero
  | doubleDivisionByZero
  | quotientTooLarge
  | moduloByZero
  | doubleModuloByZero
  | zeroToNegative
  | powerTooLarge
  /-- A power that is neither real nor small enough. -/
  | complexTooLarge
  /-- A negative number raised to a fractional power. -/
  | notReal
  | modular (cause : Number.ModularFault)
  /-- A power by a modulus where not all numbers are integers. -/
  | modularDoubles
  /-- An integer with too many digits to be written. -/
  | tooManyDigits
deriving Repr, DecidableEq

/-- The number of digits up to which integers are written. -/
def digitLimit : Nat := 4300

/-- What is said of an operation without a result. -/
def PlainFault.message : PlainFault → String
  | .given cause => cause.message
  | .divisionByZero => "division by zero"
  | .doubleDivisionByZero => "float division by zero"
  | .quotientTooLarge => "integer division result too large for a float"
  | .moduloByZero => "integer modulo by zero"
  | .doubleModuloByZero => "float modulo"
  | .zeroToNegative => "0.0 cannot be raised to a negative power"
  | .powerTooLarge => "(34, 'Numerical result out of range')"
  | .complexTooLarge => "complex exponentiation"
  | .notReal => "the power of a negative number by a fraction is not real"
  | .modular cause => cause.message
  | .modularDoubles => "pow() 3rd argument not allowed unless all arguments are integers"
  | .tooManyDigits =>
    s!"Exceeds the limit ({digitLimit} digits) for integer string conversion; " ++
      "use sys.set_int_max_str_digits() to increase the limit"

namespace Plain

/-! ## Kinds -/

/-- The name of the kind of a number. -/
def kind : Plain → String
  | .truth _ => "bool"
  | .int _ => "int"
  | .float _ => "float"
  | .nan _ => "float"

/-- The integer that a number is by its kind. -/
def integer? : Plain → Option Int
  | .truth b => some (if b then 1 else 0)
  | .int n => some n
  | _ => none

/-- The double nearest to a number; one that is too large is infinite. -/
def toDouble : Plain → Float
  | .truth b => if b then 1 else 0
  | .int n => Float.ofInt n
  | .float x => x
  | .nan _ => 0 / 0

/-- A number in the form of a double, if there is one near it. -/
def asDouble (x : Plain) : Except PlainFault Plain :=
  match x with
  | .truth b => .ok (.float (if b then 1 else 0))
  | .int n => ((Number.ofWhole n).mapError .given).map .float
  | x => .ok x

/-- The double nearest to a number. -/
def double (x : Plain) : Except PlainFault Float :=
  x.asDouble.map toDouble

/-! ## Order -/

/-- How an integer compares to a double. -/
def compareWhole (n : Int) (x : Float) : Option Ordering :=
  match Number.Binary.ofFloat? x with
  | some b =>
    let (p, q) := b.fraction
    some (Ord.compare (n * q) (if b.negative then -(p : Int) else p))
  | none => if x.isNaN then none else some (if x < 0 then .gt else .lt)

/-- How two doubles compare. -/
def compareDoubles (x y : Float) : Option Ordering :=
  if x < y then some .lt else if x == y then some .eq else if y < x then some .gt else none

/-- How two numbers compare by their exact values. Not-a-number does not compare. -/
def order? (x y : Plain) : Option Ordering :=
  match x.integer?, y.integer? with
  | some m, some n => some (Ord.compare m n)
  | some m, none => compareWhole m y.toDouble
  | none, some n => (compareWhole n x.toDouble).map Ordering.swap
  | none, none => compareDoubles x.toDouble y.toDouble

/-- Whether two numbers are equal. -/
def eq (x y : Plain) : Bool :=
  x.order? y == some .eq

/-- Whether two numbers count as one in a tuple: they are equal, or the same not-a-number. -/
def same (x y : Plain) : Bool :=
  match x, y with
  | .nan mark, .nan mark' => mark == mark'
  | x, y => x.eq y

/-- Gives not-a-number a mark if it has none. -/
def marked (mark : Mark) (x : Plain) : Plain :=
  match x with
  | .float y => if y.isNaN then .nan mark else .float y
  | x => x

/-! ## Text -/

/-- The text of a number. -/
def text : Plain → String
  | .truth b => if b then "True" else "False"
  | .int n => Number.intText n
  | .float x => Number.fullText x
  | .nan _ => "nan"

/-- Whether an integer has more digits than are written. An integer with no more than three
binary digits for each of those is short enough, which spares computing the bound. -/
def isTooLong (n : Int) : Bool :=
  3 * digitLimit ≤ n.natAbs.log2 && decide (Nat.pow 10 digitLimit ≤ n.natAbs)

/-- The text of a number, unless it is too long. -/
def text? (x : Plain) : Except PlainFault String :=
  match x with
  | .int n => if isTooLong n then .error .tooManyDigits else .ok (Number.intText n)
  | x => .ok x.text

/-! ## The scalar structure -/

/-- A function of doubles on plain numbers. -/
def lift (f : Float → Float) (x : Plain) : Plain := .float (f x.toDouble)

/-- An operation on doubles on plain numbers. -/
def lift₂ (f : Float → Float → Float) (x y : Plain) : Plain := .float (f x.toDouble y.toDouble)

/-- A partial function of doubles on plain numbers. -/
def lift? (f : Float → Option Float) (x : Plain) : Option Plain := (f x.toDouble).map .float

end Plain

instance : Scalar Plain where
  ofInt n := .float (Float.ofInt n)
  ofDecimal digits exponent := .float (Number.ofDecimal digits exponent)
  e := .float Scalar.e
  pi := .float Scalar.pi
  neg := Plain.lift Scalar.neg
  abs := Plain.lift Scalar.abs
  add := Plain.lift₂ Scalar.add
  sub := Plain.lift₂ Scalar.sub
  mul := Plain.lift₂ Scalar.mul
  div := Plain.lift₂ Scalar.div
  eq x y := Scalar.eq x.toDouble y.toDouble
  lt x y := Scalar.lt x.toDouble y.toDouble
  le x y := Scalar.le x.toDouble y.toDouble
  isFinite x := Scalar.isFinite x.toDouble
  isInfinite x := Scalar.isInfinite x.toDouble
  isNegative x := Scalar.isNegative x.toDouble
  pow x y := (Scalar.pow x.toDouble y.toDouble).map .float
  remainder? x y := (Scalar.remainder? x.toDouble y.toDouble).map .float
  log? := Plain.lift? Scalar.log?
  ln? := Plain.lift? Scalar.ln?
  gamma? := Plain.lift? Scalar.gamma?
  toInt? x := Scalar.toInt? x.toDouble
  fullText := Plain.text
  briefText x := Scalar.briefText x.toDouble

end UnitCalc.Script
