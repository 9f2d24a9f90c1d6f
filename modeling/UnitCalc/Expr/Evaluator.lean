import UnitCalc.Expr.OperandRule
import UnitCalc.Quantity.Order

/-!
# Evaluation

A derivation tree is folded to a quantity: a leaf is a number or one of a unit, and every
production reduces the values of its operands. A choice passes on the values of all its
readings that have one, and a production reduces every combination of values of its
operands. A reading that fails by a fault of dimension or domain drops out; the first value
that is left is the result, and if none is left, the first fault is.
-/

namespace UnitCalc.Expr

open UnitCalc.Number

variable {K : Type} [Scalar K]

/-! ## Reductions -/

/-- Applies a function to a plain number. -/
def applyPlain (f : PlainFunction) (q : Quantity K) : Except (Fault K) (Quantity K) := do
  let x ← q.plainValue (.argument f)
  let result := match f with
    | .log => Scalar.log? x
    | .ln => Scalar.ln? x
    | .factorial => Scalar.gamma? (Scalar.add x Scalar.one)
  match result with
  | some y => .ok (.ofValue y)
  | none => .error (.domain (.undefined f x))

/-- Applies an operation to the magnitude of a numeral, and its sign to the result. -/
def applySigned (operation : Quantity K → Except (Fault K) (Quantity K)) (q : Quantity K) :
    Except (Fault K) (Quantity K) := do
  let r ← operation q.abs
  .ok (if Scalar.isNegative q.value then r.neg else r)

/-- A number of some units. -/
def attach (magnitude units : Quantity K) : Except (Fault K) (Quantity K) := do
  let x ← magnitude.plainValue .unitMagnitude
  units.scale x

/-- The value of a production for values of its operands. -/
def Production.reduce (p : Production) (operands : List (Quantity K)) :
    Except (Fault K) (Quantity K) :=
  match p, operands with
  | .convert, [q, units] => q.toUnits units.units
  | .add, [q, r] => q.add r
  | .sub, [q, r] => q.sub r
  | .mul, [q, r] => q.mul r
  | .div, [q, r] => q.div r
  | .mod, [q, r] => q.mod r
  | .neg, [q] => .ok q.neg
  | .pow, [q, n] => q.pow n
  | .signedPow, [q, n] => applySigned (·.pow n) q
  | .factorial, [q] => applyPlain .factorial q
  | .signedFactorial, [q] => applySigned (applyPlain .factorial) q
  | .sqrt, [q] => q.powScalar Scalar.half
  | .log, [q] => applyPlain .log q
  | .ln, [q] => applyPlain .ln q
  | .e, [] => .ok (.ofValue Scalar.e)
  | .pi, [] => .ok (.ofValue Scalar.pi)
  | .number, [q] => .ok q
  | .signedNumber, [q] => .ok q
  | .quantity, [q, units] => attach q units
  | .signedQuantity, [q, units] => attach q units
  | .scaled, [q, n] => q.pow n
  | .signedScaled, [q, n] => applySigned (·.pow n) q
  | .unit, [q] => .ok q
  | .unitMul, [q, r] => q.compoundMul r
  | .unitDiv, [q, r] => q.compoundDiv r
  | .unitPow, [q, n] => q.pow n
  | p, operands =>
    let given := operands.length
    .error (.breakdown (.arity ((p.operandRule given).message given)))

/-! ## Leaves -/

/-- The number that a numeral stands for, if it is finite. -/
def numeralValue (text : String) : Except (Fault K) K :=
  match Numeral.Reading.ofText? text with
  | none => .error (.badNumeral text)
  | some (.decimal negative digits exponent) =>
    let x : K := Scalar.withSign negative (Scalar.ofDecimal digits exponent)
    if Scalar.isFinite x then .ok x else .error (.domain (.numeralTooLarge text))
  | some _ => .error (.domain (.numeralTooLarge text))

/-- The value of a leaf: one of a unit, or a plain number. -/
def leafValue (r : Registry K) (terminal : Terminal) (text : String) :
    Except (Fault K) (Quantity K) :=
  if terminal = .unit then
    match r.quantity? text with
    | some q => .ok q
    | none => .error (.unknownUnit text)
  else (numeralValue text).map .ofValue

/-! ## Surviving readings -/

/-- The values that are left, and the first fault that ruled out a reading. -/
structure Survivors (K : Type) where
  values : List (Quantity K)
  ruledOut : Option (Fault K)

namespace Survivors

/-- No reading yet. -/
def none : Survivors K := ⟨[], .none⟩

/-- Counts in one more reading; any fault that does not just rule it out is passed on. -/
def count (s : Survivors K) (outcome : Except (Fault K) (List (Quantity K))) :
    Except (Fault K) (Survivors K) :=
  match outcome with
  | .ok values => .ok { s with values := s.values ++ values }
  | .error fault =>
    if fault.rulesOutReading then .ok { s with ruledOut := s.ruledOut.or (some fault) }
    else .error fault

/-- The values that are left, or else the first fault. -/
def result (s : Survivors K) : Except (Fault K) (List (Quantity K)) :=
  match s.values, s.ruledOut with
  | [], some fault => .error fault
  | [], .none => .error (.breakdown .noReadings)
  | values, _ => .ok values

/-- What is left of readings in order. -/
def ofOutcomes (outcomes : List (Except (Fault K) (List (Quantity K)))) :
    Except (Fault K) (List (Quantity K)) := do
  let s ← outcomes.foldlM count none
  s.result

end Survivors

/-- The combinations of one value of each list; the last list varies fastest. -/
def combinations {α : Type} : List (List α) → List (List α)
  | [] => [[]]
  | xs :: rest => xs.flatMap fun x => (combinations rest).map (x :: ·)

/-- There is no combination only where a list is empty. -/
theorem combinations_eq_nil_iff {α : Type} {lists : List (List α)} :
    combinations lists = [] ↔ [] ∈ lists := by
  induction lists with
  | nil => simp [combinations]
  | cons xs lists ih =>
    cases xs with
    | nil => simp [combinations]
    | cons x xs =>
      simp only [combinations, List.flatMap_eq_nil_iff, List.map_eq_nil_iff, ih]
      simp
      exact fun h _ _ => h

theorem length_of_mem_combinations {α : Type} {lists : List (List α)} {xs : List α}
    (h : xs ∈ combinations lists) : xs.length = lists.length := by
  induction lists generalizing xs with
  | nil => simp_all [combinations]
  | cons ys lists ih =>
    simp only [combinations, List.mem_flatMap, List.mem_map] at h
    obtain ⟨x, _, rest, hrest, rfl⟩ := h
    simp [ih hrest]

/-! ## Trees -/

/-- The values of a production for all combinations of values of its operands. -/
def Production.reduceAll (p : Production) (operands : List (List (Quantity K))) :
    Except (Fault K) (List (Quantity K)) :=
  Survivors.ofOutcomes ((combinations operands).map fun qs => (p.reduce qs).map ([·]))

mutual

/-- The values of the readings of a tree that have one, in order. -/
def values (r : Registry K) : Tree → Except (Fault K) (List (Quantity K))
  | .leaf terminal text => (leafValue r terminal text).map ([·])
  | .choice trees => Survivors.ofOutcomes (outcomes r trees)
  | .node (.other name) _ => .error (.breakdown (.unknownProduction name))
  | .node p children => do
    let operands ← operandValues r children
    p.reduceAll operands

/-- The values of each of some operands. The first operand without a value is the fault of
all. -/
def operandValues (r : Registry K) : List Tree → Except (Fault K) (List (List (Quantity K)))
  | [] => .ok []
  | tree :: trees => do
    let first ← values r tree
    let rest ← operandValues r trees
    .ok (first :: rest)

/-- What comes of each of some readings. -/
def outcomes (r : Registry K) : List Tree → List (Except (Fault K) (List (Quantity K)))
  | [] => []
  | tree :: trees => values r tree :: outcomes r trees

end

theorem outcomes_eq_map (r : Registry K) (trees : List Tree) :
    outcomes r trees = trees.map (values r) := by
  induction trees with
  | nil => rfl
  | cons tree trees ih => simp [outcomes, ih]

/-- The value of a tree: that of its first reading that has one. -/
def evaluate (r : Registry K) (tree : Tree) : Except (Fault K) (Quantity K) := do
  match ← values r tree with
  | q :: _ => .ok q
  | [] => .error (.breakdown .noReadings)

end UnitCalc.Expr
