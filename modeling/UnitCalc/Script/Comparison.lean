import UnitCalc.Script.Value

/-!
# Comparison of script values

Equality holds between values of any kinds, and an order between some. Tuples, and dimensions
as tuples of their exponents, are ordered by their first items that differ, and else by their
lengths.
-/

namespace UnitCalc.Script

/-! ## Equality -/

/-- Whether two atoms are equal. -/
def Atom.eq (a b : Atom) : Bool :=
  match a, b with
  | .plain x, .plain y => x.eq y
  | .text s, .text t => s == t
  | .unit u, .unit u' => u.eq u'
  | _, _ => false

/-- Whether two atoms count as one in a tuple. -/
def Atom.same (a b : Atom) : Bool :=
  match a, b with
  | .plain x, .plain y => x.same y
  | a, b => a.eq b

/-- Whether two lists have items that count as one, one by one. -/
def sameItems (as bs : List Atom) : Bool :=
  as.length == bs.length && (as.zip bs).all fun (a, b) => a.same b

namespace Value

/-- Whether two values are equal. Values of kinds that do not compare are not. -/
def eq (v w : Value) : Bool :=
  match v, w with
  | .nothing, .nothing => true
  | .atom a, .atom b => a.eq b
  | .context c, .context c' => c.eq c'
  | .quantity q, .quantity r => q.eq r
  | v, w =>
    match v.tuple?, w.tuple? with
    | some as, some bs => sameItems as bs
    | _, _ => false

end Value

/-- Whether an atom is zero, which no text is. -/
def Atom.isZero (a : Atom) : Bool :=
  a.eq (.plain (.int 0))

/-! ## Order -/

/-- The ways to compare two values by order. -/
inductive Order where
  | lt
  | le
  | gt
  | ge
deriving Repr, DecidableEq

namespace Order

/-- The sign of a comparison. -/
def sign : Order → String
  | .lt => "<"
  | .le => "<="
  | .gt => ">"
  | .ge => ">="

/-- The comparison with its operands exchanged. -/
def swap : Order → Order
  | .lt => .gt
  | .le => .ge
  | .gt => .lt
  | .ge => .le

/-- Whether a comparison holds of things in a given order. -/
def holds (o : Order) : Ordering → Bool
  | .lt => o = .lt || o = .le
  | .eq => o = .le || o = .ge
  | .gt => o = .gt || o = .ge

/-- The comparison of quantities. -/
def onQuantities (o : Order) (q r : Quantity Plain) : Except (Fault Plain) Bool :=
  match o with
  | .lt => q.lt r
  | .le => q.le r
  | .gt => q.gt r
  | .ge => q.ge r

/-- The comparison of texts, by code points. -/
def onTexts (o : Order) (s t : String) : Bool :=
  o.holds (if s < t then .lt else if s = t then .eq else .gt)

/-- The comparison of two atoms. -/
def onAtoms (o : Order) (a b : Atom) : Except Error Bool :=
  match a, b with
  | .plain x, .plain y => .ok ((x.order? y).elim false o.holds)
  | .text s, .text t => .ok (o.onTexts s t)
  | a, b => .error (.notOrdered o.sign a.kind b.kind)

/-- The comparison of two lists of items. -/
def onItems (o : Order) : List Atom → List Atom → Except Error Bool
  | [], [] => .ok (o.holds .eq)
  | [], _ :: _ => .ok (o.holds .lt)
  | _ :: _, [] => .ok (o.holds .gt)
  | a :: as, b :: bs => if a.same b then onItems o as bs else o.onAtoms a b

end Order

namespace Value

/-- The comparison of a quantity and a value. -/
def compareQuantity (o : Order) (q : Quantity Plain) (w : Value) : Except Error Bool :=
  match w.quantity? with
  | some r => do ofFault (o.onQuantities q (← r))
  | none => .error (.notComparable w.qualifiedKind)

/-- The comparison of two values by order. A quantity is compared with whatever is on the
other side of it, and a dimension with a tuple. -/
def compare (o : Order) (v w : Value) : Except Error Bool :=
  match v, w with
  | .quantity q, w => compareQuantity o q w
  | v, .quantity r => compareQuantity o.swap r v
  | .atom a, .atom b => o.onAtoms a b
  | .tuple as, .dimension d => o.swap.onItems (d.toList.map .plain) as
  | v, w =>
    match v.tuple?, w.tuple? with
    | some as, some bs => o.onItems as bs
    | _, _ => .error (.notOrdered o.sign v.kind w.kind)

end Value

end UnitCalc.Script
