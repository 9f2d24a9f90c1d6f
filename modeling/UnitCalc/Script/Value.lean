import UnitCalc.Script.Arithmetic
import UnitCalc.Script.Error
import UnitCalc.Standard

/-!
# Script values

A script applies operations to values of any kind, one step after another. This module holds
the kinds of values, their texts, and the conversions between kinds that operations make.
-/

namespace UnitCalc.Script

/-! ## Kinds of values -/

/-- A value that a tuple can hold. -/
inductive Atom where
  | plain (x : Plain)
  | text (s : String)
  | unit (u : Unit Plain)

/-- A value of a script. -/
inductive Value where
  | nothing
  | atom (a : Atom)
  | tuple (items : List Atom)
  | dimension (d : Dimension Plain)
  | context (c : Context Plain)
  | quantity (q : Quantity Plain)

/-- The name of the kind of an atom. -/
def Atom.kind : Atom → String
  | .plain x => x.kind
  | .text _ => "str"
  | .unit _ => "Unit"

namespace Value

/-- A plain number as a value. -/
@[match_pattern]
abbrev plain (x : Plain) : Value := .atom (.plain x)

/-- A text as a value. -/
@[match_pattern]
abbrev text (s : String) : Value := .atom (.text s)

/-- A unit as a value. -/
@[match_pattern]
abbrev unit (u : Unit Plain) : Value := .atom (.unit u)

/-- A truth value. -/
def truth (b : Bool) : Value := .plain (.truth b)

/-- An integer. -/
def int (n : Int) : Value := .plain (.int n)

/-- A value, or nothing. -/
def ofOption {α : Type} (f : α → Value) : Option α → Value
  | some x => f x
  | none => .nothing

/-- The name of the kind of a value. -/
def kind : Value → String
  | .nothing => "NoneType"
  | .atom a => a.kind
  | .tuple _ => "tuple"
  | .dimension _ => "Dimension"
  | .context _ => "Units"
  | .quantity _ => "Quantity"

/-- The name of the kind of a value with the place where the kind is defined. -/
def qualifiedKind (v : Value) : String :=
  match v with
  | .dimension _ => "dimcalc.core.dimensions.Dimension"
  | .unit _ => "dimcalc.core.unit.Unit"
  | .context _ => "dimcalc.core.unit.Units"
  | .quantity _ => "dimcalc.core.quantity.Quantity"
  | v => v.kind

end Value

/-! ## Units -/

/-- The registry of the default catalog, on plain numbers. -/
def registry : Registry Plain := standardRegistry.map .float

/-- The context of three units, given by their spellings. -/
def contextOf (length mass time : String) : Except Error (Context Plain) := do
  let l ← ofFault (registry.get length)
  let m ← ofFault (registry.get mass)
  let t ← ofFault (registry.get time)
  ofAxes (Context.ofUnits l m t)

/-! ## Conversions -/

/-- The double that an atom can be taken for. -/
def Atom.toDouble (a : Atom) : Except Error Plain :=
  match a with
  | .plain x => ofPlain x.asDouble
  | .text s => ofPlain (((Number.ofGivenText s).mapError .given).map .float)
  | a => .error (.notANumber a.kind)

namespace Value

/-- The double that a value can be taken for. -/
def toDouble (v : Value) : Except Error Plain :=
  match v with
  | .atom a => a.toDouble
  | .quantity q => ofFault q.toScalar
  | v => .error (.notANumber v.kind)

/-- The double that a value is, where neither truth values nor texts count as numbers. -/
def number? (v : Value) : Option (Except Error Plain) :=
  match v with
  | .plain (.truth _) => none
  | .plain x => some (ofPlain x.asDouble)
  | _ => none

/-- The quantity that a value is: itself, or a plain number. -/
def quantity? (v : Value) : Option (Except Error (Quantity Plain)) :=
  match v with
  | .quantity q => some (.ok q)
  | v => v.number?.map fun x => x.map .ofValue

/-- The elements of a value. -/
def items (v : Value) : Except Error (List Atom) :=
  match v with
  | .tuple items => .ok items
  | .text s => .ok (s.toList.map fun c => .text (String.singleton c))
  | .dimension d => .ok (d.toList.map .plain)
  | .context c => .ok (c.toList.map .unit)
  | v => .error (.notIterable v.kind)

/-- The elements of a tuple or a dimension. -/
def tuple? (v : Value) : Option (List Atom) :=
  match v with
  | .tuple items => some items
  | .dimension d => some (d.toList.map .plain)
  | _ => none

/-- The dimension that a value can be taken for. -/
def toDimension (v : Value) : Except Error (Dimension Plain) := do
  match v with
  | .dimension d => .ok d
  | v =>
    let exponents ← (← v.items).mapM Atom.toDouble
    ofExponents (Dimension.ofList exponents)

/-- Gives not-a-number in the result of a step a mark. -/
def marked (mark : Mark) (v : Value) : Value :=
  match v with
  | .plain x => .plain (x.marked mark)
  | .quantity q => .quantity { q with value := q.value.marked mark }
  | v => v

end Value

/-! ## Text -/

/-- The text that shows an atom. -/
def Atom.shown : Atom → String
  | .plain x => x.text
  | .text s => Text.quote s
  | .unit u => u.text

namespace Value

/-- The text that shows a value. -/
def shown : Value → String
  | .nothing => "None"
  | .atom a => a.shown
  | .tuple [item] => "(" ++ item.shown ++ ",)"
  | .tuple items => "(" ++ ", ".intercalate (items.map Atom.shown) ++ ")"
  | .dimension d => d.text
  | .context c => c.text
  | .quantity q => q.text

/-- The text that shows a value, unless it is an integer that is too long. -/
def shown? (v : Value) : Except Error String :=
  match v with
  | .plain x => ofPlain x.text?
  | v => .ok v.shown

/-- A value as it is printed: a text stands for itself. -/
def print? (v : Value) : Except Error String :=
  match v with
  | .text s => .ok s
  | v => v.shown?

end Value

end UnitCalc.Script
