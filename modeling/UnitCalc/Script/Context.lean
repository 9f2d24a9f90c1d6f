import UnitCalc.Script.Operator
import UnitCalc.Script.Part

/-!
# Contexts of script values

A script can put any value in the place of a unit and any sequence in the place of a
dimension. This module says how far a context gets with them.
-/

namespace UnitCalc.Script

/-! ## Units of axes -/

/-- A value as the unit of an axis. A quantity passes for one if it has the dimension of the
axis, but it has no name. -/
def unitFor (axis : Axis) (v : Value) : Except Error (Option (Unit Plain)) :=
  match v with
  | .unit u => if u.dim.eq (.ofAxis axis) then .ok (some u) else .error (.axis ⟨axis, u.name⟩)
  | .quantity q =>
    if q.dim.eq (.ofAxis axis) then .ok none else .error (.noAttribute v.kind "name")
  | v => .error (.noAttribute v.kind "dim")

/-- The context of three values, which are looked at in the order of the axes. A context with
a unit that has no name cannot be shown. -/
def contextOfValues (units : PerAxis Value) : Except Error (Context Plain) := do
  let length? ← unitFor .length units.length
  let mass? ← unitFor .mass units.mass
  let time? ← unitFor .time units.time
  match length?, mass?, time? with
  | some length, some mass, some time => .ok ⟨length, mass, time⟩
  | _, _, _ => .error (.noAttribute "Quantity" "name")

/-- A context with the unit of the axis at an index replaced by a value. -/
def withAxisAt (c : Context Plain) (index v : Value) : Except Error (Context Plain) := do
  let axis ← Value.elementOf "tuple" Axis.all index
  contextOfValues ((PerAxis.map Value.unit c).set v axis)

/-! ## Sequences of exponents -/

/-- Checks that two lists that are gone through together are of one length. -/
def checkLengths {α β : Type} (xs : List α) (ys : List β) : Except Error PUnit :=
  if xs.length = ys.length then .ok ⟨⟩
  else .error (.unequalLengths (xs.length < ys.length))

/-- One factor of a conversion: a unit raised to an atom, which has to be a number unless it
is zero. -/
def scaleBy (product : Plain) (u : Unit Plain) (exponent : Atom) : Except Error Plain :=
  if exponent.isZero then .ok product
  else
    match exponent with
    | .plain x =>
      match Context.scale? product u x with
      | some product => .ok product
      | none => .error (.fault (.breakdown .factorTooLarge))
    | a => .error (.unsupported Value.powerName u.factor.kind a.kind)

/-- The SI amount of a context raised to a sequence of exponents. -/
def factorOf (c : Context Plain) (exponents : Value) : Except Error Value := do
  let atoms ← exponents.items
  let product ← (c.toList.zip atoms).foldlM (fun product (u, a) => scaleBy product u a)
    Scalar.one
  checkLengths c.toList atoms
  return .plain product

/-- One step of combining a context with the elements of a value: the axis at an index takes
the element there if only the second exponent is not zero. -/
def mergeAt (other : Value) (merged : Context Plain) (index : Nat) (left right : Atom) :
    Except Error (Context Plain) :=
  if left.isZero && !right.isZero then do
    let u ← other.element (.int index)
    withAxisAt merged (.int index) (.atom u)
  else .ok merged

/-- Combines a context with the elements of a value over two sequences of exponents. -/
def mergeOver (c : Context Plain) (other left right : Value) : Except Error (Context Plain) := do
  let xs ← left.items
  let ys ← right.items
  let merged ← (xs.zip ys).zipIdx.foldlM (fun merged ((x, y), i) => mergeAt other merged i x y) c
  checkLengths xs ys
  return merged

end UnitCalc.Script
