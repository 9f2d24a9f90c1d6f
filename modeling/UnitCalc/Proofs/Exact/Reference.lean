import UnitCalc.Proofs.Exact.Scalar

/-!
# The reference evaluator

What an expression means, without contexts: every unit stands for its SI amount and its
dimension, and every operation is plain arithmetic on such pairs. Units of the same dimension
differ in nothing but a number here, so there is nothing to convert and nothing to merge.
-/

namespace UnitCalc.Exact

open UnitCalc.Number UnitCalc.Expr

/-- An amount in SI units. -/
structure Amount where
  magnitude : ℚ
  dim : PerAxis ℚ
deriving DecidableEq

/-- The kinds of faults of a calculation. -/
inductive Failure where
  | dimension
  | domain
  /-- A tree that is no derivation: a choice, or a node or leaf that makes no sense. -/
  | malformed
deriving Repr, DecidableEq

/-! ## Arithmetic of amounts -/

/-- The dimension of plain numbers. -/
def noDim : PerAxis ℚ := ⟨0, 0, 0⟩

namespace Amount

/-- A plain number. -/
def plain (x : ℚ) : Amount := ⟨x, noDim⟩

def neg (a : Amount) : Amount := ⟨-a.magnitude, a.dim⟩

def abs (a : Amount) : Amount := ⟨|a.magnitude|, a.dim⟩

/-- The number that a plain amount is. -/
def number (a : Amount) : Except Failure ℚ :=
  if a.dim = noDim then .ok a.magnitude else .error .dimension

def add (a b : Amount) : Except Failure Amount :=
  if a.dim = b.dim then .ok ⟨a.magnitude + b.magnitude, a.dim⟩ else .error .dimension

def sub (a b : Amount) : Except Failure Amount :=
  if a.dim = b.dim then .ok ⟨a.magnitude - b.magnitude, a.dim⟩ else .error .dimension

def mod (a b : Amount) : Except Failure Amount :=
  if a.dim = b.dim then
    if b.magnitude = 0 then .error .domain
    else .ok ⟨remainder a.magnitude b.magnitude, a.dim⟩
  else .error .dimension

def mul (a b : Amount) : Amount :=
  ⟨a.magnitude * b.magnitude, a.dim.zipWith (· + ·) b.dim⟩

def div (a b : Amount) : Except Failure Amount :=
  if b.magnitude = 0 then .error .domain
  else .ok ⟨a.magnitude / b.magnitude, a.dim.zipWith (· - ·) b.dim⟩

/-- The power of an amount with a whole exponent. -/
def pow (a n : Amount) : Except Failure Amount := do
  let x ← n.number
  if a.magnitude = 0 ∧ x < 0 then .error .domain
  else .ok ⟨a.magnitude ^ x.num, a.dim.map (· * x)⟩

/-- A function of a plain number. -/
def apply (f : ℚ → Option ℚ) (a : Amount) : Except Failure Amount := do
  let x ← a.number
  match f x with
  | some y => .ok (plain y)
  | none => .error .domain

/-- An operation on the magnitude of an amount, whose sign goes to the result. -/
def signed (operation : Amount → Except Failure Amount) (a : Amount) :
    Except Failure Amount := do
  let b ← operation a.abs
  .ok (if a.magnitude < 0 then b.neg else b)

/-- A number of some units. -/
def attach (a units : Amount) : Except Failure Amount := do
  let x ← a.number
  .ok ⟨x * units.magnitude, units.dim⟩

end Amount

/-! ## Trees -/

variable [Given]

/-- The functions of a plain number; the factorial is the gamma function moved by one. -/
def function? : PlainFunction → ℚ → Option ℚ
  | .log => Given.log?
  | .ln => Given.ln?
  | .factorial => fun x => Given.gamma? (x + 1)

/-- The amount of a production for amounts of its operands. A conversion leaves the amount as
it is. -/
def amountOf (p : Production) (operands : List Amount) : Except Failure Amount :=
  match p, operands with
  | .convert, [a, _] => .ok a
  | .add, [a, b] => a.add b
  | .sub, [a, b] => a.sub b
  | .mul, [a, b] => .ok (a.mul b)
  | .div, [a, b] => a.div b
  | .mod, [a, b] => a.mod b
  | .neg, [a] => .ok a.neg
  | .pow, [a, n] => a.pow n
  | .signedPow, [a, n] => a.signed (·.pow n)
  | .factorial, [a] => a.apply (function? .factorial)
  | .signedFactorial, [a] => a.signed (·.apply (function? .factorial))
  | .log, [a] => a.apply (function? .log)
  | .ln, [a] => a.apply (function? .ln)
  | .e, [] => .ok (.plain Given.e)
  | .pi, [] => .ok (.plain Given.pi)
  | .number, [a] => .ok a
  | .signedNumber, [a] => .ok a
  | .quantity, [a, units] => a.attach units
  | .signedQuantity, [a, units] => a.attach units
  | .scaled, [a, n] => a.pow n
  | .signedScaled, [a, n] => a.signed (·.pow n)
  | .unit, [a] => .ok a
  | .unitMul, [a, b] => .ok (a.mul b)
  | .unitDiv, [a, b] => a.div b
  | .unitPow, [a, n] => a.pow n
  | _, _ => .error .malformed

/-- The number that a numeral stands for. -/
def numeralAmount (text : String) : Except Failure Amount :=
  match Numeral.Reading.ofText? text with
  | some (.decimal negative digits exponent) =>
    let x : ℚ := digits * 10 ^ exponent
    .ok (.plain (if negative then -x else x))
  | some _ => .error .domain
  | none => .error .malformed

/-- One of the unit with a given spelling. -/
def unitAmount (r : Registry ℚ) (spelling : String) : Except Failure Amount :=
  match r.find? spelling with
  | some u => .ok ⟨u.factor, u.dim⟩
  | none => .error .malformed

mutual

/-- The amount that a tree without choices stands for. -/
def amount (r : Registry ℚ) : Tree → Except Failure Amount
  | .leaf terminal text => if terminal = .unit then unitAmount r text else numeralAmount text
  | .node p children => do
    let operands ← amounts r children
    amountOf p operands
  | .choice _ => .error .malformed

/-- The amounts of some trees, or the failure of the first that has none. -/
def amounts (r : Registry ℚ) : List Tree → Except Failure (List Amount)
  | [] => .ok []
  | tree :: trees => do
    let first ← amount r tree
    let rest ← amounts r trees
    .ok (first :: rest)

end

/-! ## Whole exponents -/

/-- Whether a production raises nothing to the power of a fraction. -/
def wholeOn (p : Production) (operands : List Amount) : Bool :=
  match p, operands with
  | .sqrt, _ => false
  | .pow, [_, n] | .signedPow, [_, n] | .scaled, [_, n] | .signedScaled, [_, n]
  | .unitPow, [_, n] => n.dim != noDim || n.magnitude.isInt
  | _, _ => true

mutual

/-- Whether all powers of a tree that have to be computed have whole exponents. -/
def wholePowers (r : Registry ℚ) : Tree → Bool
  | .leaf _ _ => true
  | .node p children =>
    wholePowersOfAll r children &&
      match amounts r children with
      | .ok operands => wholeOn p operands
      | .error _ => true
  | .choice _ => true

def wholePowersOfAll (r : Registry ℚ) : List Tree → Bool
  | [] => true
  | tree :: trees => wholePowers r tree && wholePowersOfAll r trees

end

end UnitCalc.Exact
