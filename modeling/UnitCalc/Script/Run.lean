import UnitCalc.Script.Action

/-!
# Scripts

A script is a list of steps. A step applies a named action to operands, which are written out
or read from registers, and puts the result into a register. A step that fails leaves its
register as it was.
-/

namespace UnitCalc.Script

/-! ## Operands -/

/-- How an operand is written in a step. -/
inductive Operand where
  | value (v : Value)
  | register (name : String)
  /-- A number that is to be a double. -/
  | number (given : Number.Given)
  /-- A tuple of doubles. -/
  | tuple (given : List Number.Given)
  /-- The unit with a spelling. -/
  | unit (spelling : String)
  /-- One of the unit with a spelling, or nothing. -/
  | oneOf (spelling : String)
  /-- The context of three units given by their spellings. -/
  | context (length mass time : String)

/-- The registers with their values; the latest value of a register comes first. -/
abbrev Registers := List (String × Value)

/-- The registers before the first step. -/
def Registers.initial : Registers :=
  [("SI", .context .si), ("m", .unit .meter), ("kg", .unit .kilogram), ("s", .unit .second)]

/-- The double of a given number. -/
def doubleOf (mark : Mark) (given : Number.Given) : Except Error Plain := do
  let x ← ofPlain (given.read.mapError .given)
  return (Plain.float x).marked mark

/-- The value of an operand at a place in the script. -/
def Operand.eval (registers : Registers) (mark : Mark) : Operand → Except Error Value
  | .value v => .ok v
  | .register name =>
    match registers.lookup name with
    | some v => .ok v
    | none => .error (.noRegister name)
  | .number given => (doubleOf mark given).map .plain
  | .tuple given => do
    let items ← given.zipIdx.mapM fun (x, i) => doubleOf (mark ++ [i]) x
    return .tuple (items.map .plain)
  | .unit spelling => (ofFault (registry.get spelling)).map .unit
  | .oneOf spelling => .ok (.ofOption .quantity (registry.quantity? spelling))
  | .context length mass time => (contextOf length mass time).map .context

/-! ## Steps -/

/-- One step of a script. -/
structure Step where
  action : String
  partName : String
  operands : List Operand
  target : Option String

/-- Passes on a value that can be shown, which an integer that is too long cannot. -/
def checkShown (v : Value) : Except Error Value :=
  match v with
  | .plain (.int n) => if Plain.isTooLong n then .error (.plain .tooManyDigits) else .ok v
  | v => .ok v

/-- What comes of the step at an index of a script. -/
def Step.result (registers : Registers) (index : Nat) (step : Step) : Except Error Value := do
  let operands ← step.operands.zipIdx.mapM fun (operand, i) => operand.eval registers [index, i]
  let v ← perform step.action step.partName operands
  checkShown (v.marked [index])

/-- The registers after a step. -/
def Step.store (registers : Registers) (step : Step) (result : Except Error Value) :
    Registers :=
  match step.target, result with
  | some name, .ok v => (name, v) :: registers
  | _, _ => registers

/-- What comes of the steps of a script from an index on, in order. -/
def runFrom (registers : Registers) (index : Nat) : List Step → List (Except Error Value)
  | [] => []
  | step :: steps =>
    let result := step.result registers index
    result :: runFrom (step.store registers result) (index + 1) steps

/-- What comes of the steps of a script, in order. -/
def run (steps : List Step) : List (Except Error Value) :=
  runFrom .initial 0 steps

end UnitCalc.Script
