import UnitCalc.Script.Comparison

/-!
# Parts of script values

The named parts that values have, their elements by index, and the keys by which values are
told apart in tables.
-/

namespace UnitCalc.Script

/-! ## Named parts -/

/-- The place of an axis among the axes. -/
def axisIndex : Axis → Int
  | .length => 0
  | .mass => 1
  | .time => 2

/-- The axis with a given name. -/
def axisNamed? (name : String) : Option Axis :=
  Axis.all.find? (·.name == name)

/-- A named part of a plain number. Doubles are no fractions of integers. -/
def Plain.part? (x : Plain) (name : String) : Option Plain :=
  match x.integer?, name with
  | some n, "real" => some (.int n)
  | some n, "numerator" => some (.int n)
  | some _, "imag" => some (.int 0)
  | some _, "denominator" => some (.int 1)
  | none, "real" => some x
  | none, "imag" => some (.float 0)
  | _, _ => none

namespace Value

/-- A named part of a unit. -/
def unitPart? (u : Unit Plain) (name : String) : Option Value :=
  match name with
  | "name" => some (.text u.name)
  | "abbrev" => some (.text u.short)
  | "symbol" => some (.text u.symbol)
  | "factor" => some (.plain u.factor)
  | "family" => some (.text u.family)
  | "dim" => some (.dimension u.dim)
  | "axis" => some (ofOption (fun a => .int (axisIndex a)) u.axis?)
  | "is_base" => some (truth u.isBase)
  | _ => none

/-- A named part of a quantity. Its value, dimension and context have a second name each. -/
def quantityPart? (q : Quantity Plain) (name : String) : Option (Except Error Value) :=
  match name with
  | "value" | "_value" => some (.ok (.plain q.value))
  | "dim" | "_dim" => some (.ok (.dimension q.dim))
  | "units" | "_units" => some (.ok (.context q.units))
  | "is_dimensionless" => some (.ok (truth q.isDimensionless))
  | "conversion_factor" => some ((ofFault q.conversionFactor).map .plain)
  | "si" => some ((ofFault q.toSI).map .quantity)
  | _ => none

/-- A named part of a value, if it has one. -/
def part? (v : Value) (name : String) : Option (Except Error Value) :=
  match v with
  | .plain x => (x.part? name).map fun y => .ok (.plain y)
  | .unit u => (unitPart? u name).map .ok
  | .quantity q => quantityPart? q name
  | .context c => (axisNamed? name).map fun a => .ok (.unit (c.get a))
  | .dimension d =>
    if name = "is_dimensionless" then some (.ok (truth d.isZero))
    else (axisNamed? name).map fun a => .ok (.plain (d.get a))
  | _ => none

/-- A named part of a value. -/
def part (v : Value) (name : String) : Except Error Value :=
  (v.part? name).getD (.error (.noAttribute v.kind name))

/-! ## Elements -/

/-- The element of a list at an index, which counts from the end if it is negative. -/
def element? {α : Type} (xs : List α) (index : Int) : Option α :=
  let place := if index < 0 then index + xs.length else index
  if place < 0 then none else xs[place.toNat]?

/-- The element at an index of a list of which a kind of sequence consists. -/
def elementOf {α : Type} (kind : String) (xs : List α) (index : Value) : Except Error α :=
  let integer? := match index with
    | .plain x => x.integer?
    | _ => none
  match integer? with
  | some n =>
    if n < -(Int.pow 2 63) ∨ Int.pow 2 63 ≤ n then .error .indexTooLarge
    else
      match element? xs n with
      | some x => .ok x
      | none => .error (.indexOutOfRange kind)
  | none => .error (.badIndex kind index.kind)

/-- The element of a value at an index. -/
def element (v index : Value) : Except Error Atom :=
  match v with
  | .text _ => do elementOf "string" (← v.items) index
  | .tuple _ | .dimension _ | .context _ => do elementOf "tuple" (← v.items) index
  | v => .error (.notIndexable v.kind)

/-! ## Keys -/

/-- The modulus of the keys of numbers. -/
def keyModulus : Nat := Nat.pow 2 61 - 1

/-- The key of an integer: its remainder by the modulus, with its sign; minus one is shared
with minus two. -/
def intKey (n : Int) : Int :=
  let k := n.tmod keyModulus
  if k = -1 then -2 else k

/-- The key of a double that is a number, which equal integers share. -/
def doubleKey (x : Float) : Int :=
  match Number.Binary.ofFloat? x with
  | some b =>
    let power := (b.exponent % 61).toNat
    let m := b.mantissa * Nat.pow 2 power % keyModulus
    intKey (if b.negative then -(m : Int) else m)
  | none => if x < 0 then -314159 else 314159

/-- What tells values apart in a table. -/
inductive Key where
  | nothing
  | number (n : Int)
  | notANumber (mark : Mark)
  | text (s : String)
  | tuple (keys : List Key)
deriving Repr, BEq

/-- The key of a number. -/
def Key.ofPlain (x : Plain) : Key :=
  match x with
  | .nan mark => .notANumber mark
  | x =>
    match x.integer? with
    | some n => .number (intKey n)
    | none => .number (doubleKey x.toDouble)

/-- The key of a text; the empty one shares that of zero. -/
def Key.ofText (s : String) : Key :=
  if s.isEmpty then .number 0 else .text s

/-- The key of an atom. For a unit it is made of its name and its dimension. -/
def Key.ofAtom : Atom → Key
  | .plain x => ofPlain x
  | .text s => ofText s
  | .unit u => .tuple [ofText u.name, .tuple (u.dim.toList.map ofPlain)]

/-- The key of a value. A quantity has none. -/
def key (v : Value) : Except Error Key :=
  match v with
  | .nothing => .ok .nothing
  | .atom a => .ok (.ofAtom a)
  | .tuple items => .ok (.tuple (items.map .ofAtom))
  | .dimension d => .ok (.tuple (d.toList.map .ofPlain))
  | .context c => .ok (.tuple (c.toList.map fun u => .ofAtom (.unit u)))
  | .quantity _ => .error (.unhashable v.kind)

end Value

end UnitCalc.Script
