import UnitCalc.Expr.Evaluator
import UnitCalc.Expr.Parser

/-!
# The calculator

Text in, quantity out: an expression is cut into tokens, the tokens are parsed, and the
derivation tree is evaluated. All three read the registry of units.
-/

namespace UnitCalc

variable {K : Type} [Scalar K]

/-- The derivation tree of an expression. -/
def parse (r : Registry K) (input : String) : Except (Fault K) Expr.Tree :=
  match Expr.parse (Expr.Token.scan r input) with
  | .ok tree => .ok tree
  | .error (some t) => .error (.unexpected t.text t.position input)
  | .error none => .error (.unexpectedEnd input)

/-- The value of an expression. -/
def calculate (r : Registry K) (input : String) : Except (Fault K) (Quantity K) := do
  let tree ← parse r input
  Expr.evaluate r tree

/-- The text of the value of an expression. -/
def calculateText (r : Registry K) (display : Display) (input : String) :
    Except (Fault K) String := do
  let q ← calculate r input
  display.render q

end UnitCalc
