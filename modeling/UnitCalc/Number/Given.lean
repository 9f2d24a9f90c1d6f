import UnitCalc.Number.Double
import UnitCalc.Text.Quoted

/-!
# Given numbers

A number is given as an integer of any size or as a text. Not every integer has a double near
it, and not every text is a number.
-/

namespace UnitCalc.Number

/-- A number as it is given. -/
inductive Given where
  | whole (n : Int)
  | text (s : String)
deriving Repr, DecidableEq

/-- Why what is given for a number is none. -/
inductive GivenFault where
  | unreadable (text : String)
  | tooLarge
deriving Repr, DecidableEq

/-- What is said of a number that is none. -/
def GivenFault.message : GivenFault → String
  | .unreadable text => s!"could not convert string to float: {Text.quote text}"
  | .tooLarge => "int too large to convert to float"

/-- The double nearest to an integer. -/
def ofWhole (n : Int) : Except GivenFault Float :=
  let x := Float.ofInt n
  if x.isFinite then .ok x else .error .tooLarge

/-- The double that a text stands for. -/
def ofGivenText (s : String) : Except GivenFault Float :=
  match ofText? s with
  | some x => .ok x
  | none => .error (.unreadable s)

/-- The double that a given number stands for. -/
def Given.read : Given → Except GivenFault Float
  | .whole n => ofWhole n
  | .text s => ofGivenText s

end UnitCalc.Number
