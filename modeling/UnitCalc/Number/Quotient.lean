import UnitCalc.Number.Decimal

/-!
# Quotients of integers

The double nearest to the quotient of two integers, however long they are. The quotient is
rounded once, to the digits that a double has at its size, and a half goes to the even
neighbour.
-/

namespace UnitCalc.Number

/-- The power of two of the first binary digit of the positive fraction `n / d`: it is the `k`
with `2 ^ k ≤ n / d < 2 ^ (k + 1)`. -/
def leadingBit (n d : Nat) : Int :=
  let k : Int := (n.log2 : Int) - d.log2
  let (p, q) := Binary.fraction ⟨false, 1, k⟩
  if n * q < d * p then k - 1 else k

/-- The fraction `n / d` over the unit `2 ^ u`, rounded to the nearest natural. -/
def roundOver (n d : Nat) (u : Int) : Nat :=
  let (p, q) := Binary.fraction ⟨false, 1, u⟩
  roundDiv (n * q) (d * p)

/-- The double nearest to a fraction of naturals, if it is not too large. Its last digit
stands for the power of two that is 52 below the one of its first digit, or for the least
one. -/
def nearest? (n d : Nat) : Option Float :=
  let k := leadingBit n d
  if n = 0 then some 0
  else if 1023 < k then none
  else
    let u := max (k - 52) Binary.leastExponent
    let x := Binary.toFloat ⟨false, roundOver n d u, u⟩
    if x.isFinite then some x else none

/-- The double nearest to the quotient of an integer and one that is not zero, if it is not
too large. -/
def quotient? (m n : Int) : Option Float :=
  let x? := nearest? m.natAbs n.natAbs
  if decide (m < 0) == decide (n < 0) then x? else x?.map (-·)

end UnitCalc.Number
