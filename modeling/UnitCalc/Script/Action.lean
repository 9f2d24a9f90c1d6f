import UnitCalc.Script.Context
import UnitCalc.Script.Display

/-!
# Actions of scripts

The actions that a step can apply to its operands: making values out of their parts, the
operators, and the operations of quantities, units, contexts and dimensions.
-/

namespace UnitCalc.Script

/-! ## Construction -/

/-- The dimension of one value, or of plain numbers. -/
def makeDimension (parts : List Value) : Except Error Value :=
  match parts with
  | [] => .ok (.dimension .zero)
  | [v] => v.toDimension.map .dimension
  | _ => .error (.arity (.ranged "Dimension.__new__" 1 2) (parts.length + 1))

/-- The error of a quantity with a value in the place of its context: the elements of that have
to be units, and as many as there are axes. -/
def badContext (v : Value) : Except Error Value := do
  let atoms ← v.items
  for a in atoms do
    match a with
    | .unit _ => pure ⟨⟩
    | a => throw (.noAttribute a.kind "name")
  checkLengths atoms Axis.all
  throw .unknownStep

/-- A quantity of up to three parts: a value, a dimension and a context. -/
def makeQuantity (parts : List Value) : Except Error Value := do
  if 3 < parts.length then
    .error (.arity (.ranged "Quantity.__init__" 1 4) (parts.length + 1))
  else
    let value ← match parts[0]? with
      | some v => v.toDouble
      | none => .ok Scalar.zero
    let dim ← match parts[1]? with
      | some v => v.toDimension
      | none => .ok .zero
    match parts.drop 2 with
    | [] => return .quantity ⟨value, dim, .si⟩
    | .context c :: _ => return .quantity ⟨value, dim, c⟩
    | v :: _ => badContext v

/-- A value as the factor of a unit: a positive number that has a double near it. -/
def factorFor (v : Value) : Except Error Plain :=
  match v with
  | .plain x =>
    if x.order? (.int 0) ≠ some .gt then .error .badFactor
    else do
      let y ← ofPlain x.asDouble
      if Scalar.isFinite y then .ok x else .error .badFactor
  | .quantity q => do
    if ← ofFault (q.gt (.ofValue Scalar.zero)) then ofFault q.toScalar else .error .badFactor
  | v => .error (.notOrdered ">" v.kind "int")

/-- The names of the parts of a unit, behind the unit itself. -/
def unitParts : List String :=
  ["self", "name", "abbrev", "symbol", "factor", "family", "dim"]

/-- A unit of its six parts. -/
def makeUnit (parts : List Value) : Except Error Value := do
  match parts with
  | [name, short, symbol, factor, family, dim] =>
    let dim ← dim.toDimension
    let factor ← factorFor factor
    match name, short, symbol, family with
    | .text name, .text short, .text symbol, .text family =>
      return .unit ⟨name, short, symbol, factor, family, dim⟩
    | _, _, _, _ => .error .unknownStep
  | _ => .error (.arity (.named "Unit.__init__" unitParts) (parts.length + 1))

/-- The context of three values. -/
def makeContext (parts : List Value) : Except Error Value :=
  match parts with
  | [l, m, t] => (contextOfValues ⟨l, m, t⟩).map .context
  | _ =>
    .error (.arity (.named "Units.__init__" ["self", "length", "mass", "time"])
      (parts.length + 1))

/-! ## Quantities -/

/-- The quantity to which an action with a name is applied. -/
def receiver (v : Value) (name : String) : Except Error (Quantity Plain) :=
  match v with
  | .quantity q => .ok q
  | v => .error (.noAttribute v.kind name)

/-- One of a unit. Its value is a double, however the factor of the unit was given. -/
def oneOf (u : Unit Plain) : Quantity Plain :=
  let q := u.quantity
  { q with value := .float q.value.toDouble }

/-- The value of an expression. Only a text is one. -/
def evaluated (v : Value) : Except Error Value :=
  match v with
  | .text input => Value.ofResult (calculate registry input)
  | .tuple [] => .error (.emptyInput v.shown)
  | .tuple (a :: _) => .error (.noAttribute a.kind "isspace")
  | .dimension _ => .error (.noAttribute "float" "isspace")
  | v => .error (.noLength v.kind)

/-- A value as a tolerance. -/
def tolerance (v : Value) : Except Error Plain :=
  match v with
  | .plain x => ofPlain x.asDouble
  | .quantity q => ofFault q.toScalar
  | v => .error (.numberNeeded v.kind)

/-- Whether two quantities are close, with the tolerances that are given. The tolerances do
not matter where the dimensions differ. -/
def closeness (q r : Quantity Plain) (tolerances : List Value) : Except Error Value :=
  if !q.dim.eq r.dim then .ok (.truth false)
  else do
    let _ ← ofFault q.toSI
    let _ ← ofFault r.toSI
    let tolerances ← tolerances.mapM tolerance
    let relative := tolerances[0]?.getD Quantity.closeTolerance
    let absolute := tolerances[1]?.getD Scalar.zero
    return .truth (← ofFault (q.isClose r relative absolute))

/-- Whether a value is close to another one. -/
def isClose (v : Value) (others : List Value) : Except Error Value := do
  let q ← receiver v "is_close"
  match others with
  | [] => .error (.arity (.named "Quantity.is_close" ["self", "other"]) 1)
  | w :: tolerances =>
    if 2 < tolerances.length then
      .error (.arity (.ranged "Quantity.is_close" 2 4) (others.length + 1))
    else closeness q (← receiver w "_dim") tolerances

/-- A quantity in another context. A value that is no context is only found out once the SI
amount of the quantity's own one is known. -/
def converted (v w : Value) : Except Error Value := do
  let q ← receiver v "to_units"
  match w with
  | .context c => Value.ofResult (q.toUnits c)
  | w =>
    let _ ← ofFault q.conversionFactor
    match w with
    | .quantity r => do
      let _ ← ofFault r.conversionFactor
      .error (.notCallable "float")
    | w => .error (.noAttribute w.kind "conversion_factor")

/-- The SI amount of a context raised to a sequence of exponents. For a quantity it is a
number, and none that depends on exponents. -/
def contextFactor (v exponents : Value) : Except Error Value := do
  match v with
  | .context c => factorOf c exponents
  | .quantity q =>
    let _ ← ofFault q.conversionFactor
    .error (.notCallable "float")
  | v => .error (.noAttribute v.kind "conversion_factor")

/-! ## All actions -/

/-- The action of a name on some operands; `partName` is the part that `attr` asks for. -/
def perform (action partName : String) (operands : List Value) : Except Error Value :=
  match action, operands with
  | "dim", parts => makeDimension parts
  | "qty", parts => makeQuantity parts
  | "unit", parts => makeUnit parts
  | "units", parts => makeContext parts
  | "eval", [v] => evaluated v
  | "add", [v, w] => v.add w
  | "sub", [v, w] => v.sub w
  | "mul", [v, w] => v.mul w
  | "div", [v, w] => v.div w
  | "mod", [v, w] => v.mod w
  | "pow", [v, w] => v.pow w
  | "powmod", [v, w, modulus] => v.powMod w modulus
  | "eq", [v, w] => .ok (.truth (v.eq w))
  | "ne", [v, w] => .ok (.truth (!v.eq w))
  | "lt", [v, w] => (v.compare .lt w).map .truth
  | "le", [v, w] => (v.compare .le w).map .truth
  | "gt", [v, w] => (v.compare .gt w).map .truth
  | "ge", [v, w] => (v.compare .ge w).map .truth
  | "neg", [v] => v.neg
  | "pos", [v] => v.pos
  | "abs", [v] => v.abs
  | "float", [v] => v.toDouble.map .plain
  | "repr", [v] => v.shown?.map .text
  | "str", [v] => v.print?.map .text
  | "compound", [v, w] => do
    let q ← receiver v "compound"
    Value.ofResult (q.compoundMul (← receiver w "_units"))
  | "merge_div", [v, w] => do
    let q ← receiver v "compound"
    Value.ofResult (q.compoundDiv (← receiver w "_units"))
  | "to_units", [v, w] => converted v w
  | "to_si", [v] => do Value.ofResult (← receiver v "to_si").toSI
  | "si", [v] => do Value.ofResult (← receiver v "si").toSI
  | "unit_quantity", [.unit u] => .ok (.quantity (oneOf u))
  | "unit_quantity", [v] => .error (.noAttribute v.kind "quantity")
  | "is_close", v :: others => isClose v others
  | "format", [v, .text word] => (v.displayed word).map .text
  | "format", [_, .nothing] => .error (.displayNotText "None")
  | "format", [_, word] => .error (.displayNotText word.kind)
  | "factor_of", [v, exponents] => contextFactor v exponents
  | "with_axis", [.context c, index, v] => (withAxisAt c index v).map .context
  | "with_axis", [v, _, _] => .error (.noAttribute v.kind "with_axis")
  | "merge", [.context c, other, left, right] => (mergeOver c other left right).map .context
  | "merge", [v, _, _, _] => .error (.noAttribute v.kind "merge")
  | "index", [v, index] => (v.element index).map .atom
  | "list", [v] => v.items.map .tuple
  | "as_tuple", [.dimension d] => .ok (.tuple (d.toList.map .plain))
  | "as_tuple", [v] => .error (.noAttribute v.kind "as_tuple")
  | "attr", [v] => v.part partName
  | "value_of", [v] => .ok v
  | "hashable", [v] => v.key.map fun _ => .truth true
  | "same_hash", [v, w] => do return .truth ((← v.key) == (← w.key))
  | _, _ => .error .unknownStep

end UnitCalc.Script
