import UnitCalc.Expr.Token

/-!
# Derivation trees

A derivation tree has a production at every node and numbers and units at its leaves. Where
an expression can be read in several ways, a choice holds the readings. The readings of a
whole tree are the trees without choices that come of choosing everywhere.
-/

namespace UnitCalc.Expr

/-- What a node of a derivation tree stands for. -/
inductive Production where
  | convert
  | add
  | sub
  | mul
  | div
  | mod
  | neg
  | pow
  | signedPow
  | factorial
  | signedFactorial
  | sqrt
  | log
  | ln
  | e
  | pi
  | number
  | signedNumber
  | quantity
  | signedQuantity
  | scaled
  | signedScaled
  | unit
  | unitMul
  | unitDiv
  | unitPow
  /-- A name that is no production of the grammar. -/
  | other (name : String)
deriving Repr, DecidableEq

namespace Production

/-- The productions of the grammar. -/
def all : List Production := [
  .convert, .add, .sub, .mul, .div, .mod, .neg, .pow, .signedPow, .factorial,
  .signedFactorial, .sqrt, .log, .ln, .e, .pi, .number, .signedNumber, .quantity,
  .signedQuantity, .scaled, .signedScaled, .unit, .unitMul, .unitDiv, .unitPow]

/-- The name of a production. -/
def name : Production → String
  | .convert => "convert"
  | .add => "add"
  | .sub => "sub"
  | .mul => "mul"
  | .div => "div"
  | .mod => "mod"
  | .neg => "neg"
  | .pow => "pow"
  | .signedPow => "signed_pow"
  | .factorial => "factorial"
  | .signedFactorial => "signed_factorial"
  | .sqrt => "sqrt"
  | .log => "log"
  | .ln => "ln"
  | .e => "e"
  | .pi => "pi"
  | .number => "number"
  | .signedNumber => "signed_number"
  | .quantity => "quantity"
  | .signedQuantity => "signed_quantity"
  | .scaled => "scaled"
  | .signedScaled => "signed_scaled"
  | .unit => "unit"
  | .unitMul => "unit_mul"
  | .unitDiv => "unit_div"
  | .unitPow => "unit_pow"
  | .other name => name

/-- The production with a given name. -/
def ofName (name : String) : Production :=
  (all.find? (·.name == name)).getD (.other name)

end Production

/-- A derivation tree. -/
inductive Tree where
  /-- A number or a unit as it is written. -/
  | leaf (terminal : Terminal) (text : String)
  | node (production : Production) (children : List Tree)
  /-- A span that can be read in several ways. -/
  | choice (readings : List Tree)
deriving Repr

namespace Tree

/-- The name that a choice has among the productions. -/
def choiceName : String := "_ambig"

/-- The node with a given name. -/
def ofName (name : String) (children : List Tree) : Tree :=
  if name = choiceName then .choice children else .node (.ofName name) children

/-! ## Readings -/

mutual

/-- The trees without choices that a tree stands for. -/
def readings : Tree → List Tree
  | .leaf terminal text => [.leaf terminal text]
  | .node production children => (readingsOfAll children).map (.node production)
  | .choice trees => readingsOfAny trees

/-- The lists of readings of some trees; the last tree varies fastest. -/
def readingsOfAll : List Tree → List (List Tree)
  | [] => [[]]
  | tree :: trees =>
    (readings tree).flatMap fun first => (readingsOfAll trees).map (first :: ·)

/-- The readings of any of some trees. -/
def readingsOfAny : List Tree → List Tree
  | [] => []
  | tree :: trees => readings tree ++ readingsOfAny trees

end

theorem readingsOfAny_eq_flatMap (trees : List Tree) :
    readingsOfAny trees = trees.flatMap readings := by
  induction trees with
  | nil => rfl
  | cons tree trees ih => simp [readingsOfAny, ih]

theorem length_of_mem_readingsOfAll {trees choice : List Tree}
    (h : choice ∈ readingsOfAll trees) : choice.length = trees.length := by
  induction trees generalizing choice with
  | nil => simp_all [readingsOfAll]
  | cons tree trees ih =>
    simp only [readingsOfAll, List.mem_flatMap, List.mem_map] at h
    obtain ⟨first, _, rest, hrest, rfl⟩ := h
    simp [ih hrest]

/-! ## Text -/

mutual

/-- The text of a tree: a leaf is its terminal and its text, a node is its name and its
children in brackets. -/
def text : Tree → String
  | .leaf terminal text => terminal.name ++ ":" ++ text
  | .node production children => "(" ++ production.name ++ textOfAll children ++ ")"
  | .choice trees => "(" ++ choiceName ++ textOfAll trees ++ ")"

/-- The texts of some trees, each after a blank. -/
def textOfAll : List Tree → String
  | [] => ""
  | tree :: trees => " " ++ text tree ++ textOfAll trees

end

/-- The first reading of a tree. -/
def firstReading? (tree : Tree) : Option Tree :=
  (readings tree).head?

/-- The texts of the readings of a tree, each once, in the order of their code points. -/
def readingTexts (tree : Tree) : List String :=
  ((readings tree).map text).eraseDups.mergeSort (· ≤ ·)

end Tree

end UnitCalc.Expr
