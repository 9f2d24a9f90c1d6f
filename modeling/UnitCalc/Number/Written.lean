import UnitCalc.Number.Decimal

/-!
# Written numbers

A decimal is written with a point where its first digit is near enough to it, and else with
an exponent of at least two digits. Two layouts are in use: `Layout.full` for the shortest
digits of a double, and `Layout.brief` for ten significant digits. Whole values of any size
are written as integers where a layout is not needed.
-/

namespace UnitCalc.Number

/-- Where positional notation ends, and whether a whole number keeps a zero after the
point. -/
structure Layout where
  positionalBelow : Int
  pointZero : Bool

/-- Positional from `10 ^ -4` to below `10 ^ 16`, always with a point. -/
def Layout.full : Layout := ⟨16, true⟩

/-- Positional from `10 ^ -4` to below `10 ^ 10`, without superfluous zeros. -/
def Layout.brief : Layout := ⟨10, false⟩

/-- The digits of a decimal without the zeros at the end; zero keeps one digit. -/
def Decimal.digitChars (d : Decimal) : List Char :=
  match ((Nat.toDigits 10 d.digits).reverse.dropWhile (· == '0')).reverse with
  | [] => ['0']
  | ds => ds

/-- The power of ten of the first digit. -/
def Decimal.firstPower (d : Decimal) : Int :=
  if d.digits = 0 then 0 else d.exponent + digitCount d.digits - 1

/-- A decimal with a point and no exponent; the first digit stands for `10 ^ power`. -/
def positional (pointZero : Bool) (digits : List Char) (power : Int) : List Char :=
  if power < 0 then '0' :: '.' :: List.replicate ((-power).toNat - 1) '0' ++ digits
  else
    let whole := power.toNat + 1
    if digits.length ≤ whole then
      digits ++ List.replicate (whole - digits.length) '0' ++ (if pointZero then ['.', '0'] else [])
    else digits.take whole ++ '.' :: digits.drop whole

/-- A decimal with one digit before the point and an exponent of at least two digits. -/
def scientific (digits : List Char) (power : Int) : List Char :=
  let exponent := Nat.toDigits 10 power.natAbs
  let padded := if exponent.length < 2 then '0' :: exponent else exponent
  let mantissa := match digits with
    | [d] => [d]
    | d :: ds => d :: '.' :: ds
    | [] => []
  mantissa ++ 'e' :: (if power < 0 then '-' else '+') :: padded

/-- A decimal in a layout. -/
def Layout.write (layout : Layout) (d : Decimal) : List Char :=
  let power := d.firstPower
  if -4 ≤ power ∧ power < layout.positionalBelow then
    positional layout.pointZero d.digitChars power
  else scientific d.digitChars power

/-- A double in a layout, its digits chosen by `decimal`. -/
def writeWith (layout : Layout) (decimal : Binary → Decimal) (x : Float) : String :=
  match Binary.ofFloat? x with
  | some b =>
    let text := layout.write (decimal b)
    String.ofList (if b.negative then '-' :: text else text)
  | none => if x.isNaN then "nan" else if x < 0 then "-inf" else "inf"

/-- The shortest text that reads back as the double. -/
def fullText (x : Float) : String :=
  writeWith .full Binary.shortest x

/-- The double with ten significant digits. -/
def briefText (x : Float) : String :=
  writeWith .brief (Binary.rounded 10) x

/-- The double with a set number of places after the point; a half goes to the even digit. -/
def placesText (places : Nat) (x : Float) : String :=
  match Binary.ofFloat? x with
  | some b =>
    let (n, d) := b.fraction
    let digits := Nat.toDigits 10 (roundDiv (n * Nat.pow 10 places) d)
    let digits := List.replicate (places + 1 - digits.length) '0' ++ digits
    let whole := digits.take (digits.length - places)
    let text := if places = 0 then whole else whole ++ '.' :: digits.drop whole.length
    String.ofList (if b.negative then '-' :: text else text)
  | none => writeWith .full Binary.shortest x

/-- The decimal text of an integer. -/
def intText (n : Int) : String :=
  String.ofList (if n < 0 then '-' :: Nat.toDigits 10 n.natAbs else Nat.toDigits 10 n.natAbs)

end UnitCalc.Number
