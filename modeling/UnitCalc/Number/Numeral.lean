import UnitCalc.Text.Blank
import UnitCalc.Text.Digit

/-!
# Numerals

A numeral is an optional sign, digits with at most one point, and an optional exponent, where
digits of every script count. `scan` takes the longest numeral at the beginning of a text.
`Reading.ofText?` reads a whole text as a number, and there also accepts blanks around the
numeral, single underscores between digits, and the words for infinity and not-a-number.
-/

namespace UnitCalc.Number.Numeral

open UnitCalc.Text

/-! ## Scanning -/

/-- Splits off a sign. -/
def takeSign : List Char → List Char × List Char
  | '+' :: rest => (['+'], rest)
  | '-' :: rest => (['-'], rest)
  | cs => ([], cs)

/-- Splits off the longest run of digits. -/
def takeDigits (cs : List Char) : List Char × List Char :=
  (cs.takeWhile isDigit, cs.dropWhile isDigit)

/-- Splits off digits with at most one point, with a digit on one side of it. -/
def takeMantissa? (cs : List Char) : Option (List Char × List Char) :=
  match takeDigits cs with
  | ([], '.' :: rest) =>
    match takeDigits rest with
    | ([], _) => none
    | (places, rest) => some ('.' :: places, rest)
  | ([], _) => none
  | (whole, '.' :: rest) =>
    let (places, rest) := takeDigits rest
    some (whole ++ '.' :: places, rest)
  | (whole, rest) => some (whole, rest)

/-- Splits off an exponent, or nothing if there is none. -/
def takeExponent (cs : List Char) : List Char × List Char :=
  match cs with
  | [] => ([], [])
  | c :: rest =>
    if c = 'e' ∨ c = 'E' then
      let (sign, rest) := takeSign rest
      match takeDigits rest with
      | ([], _) => ([], cs)
      | (digits, rest) => (c :: sign ++ digits, rest)
    else ([], cs)

/-- Splits off the longest numeral. -/
def scan (cs : List Char) : Option (List Char × List Char) :=
  let (sign, rest) := takeSign cs
  match takeMantissa? rest with
  | none => none
  | some (mantissa, rest) =>
    let (exponent, rest) := takeExponent rest
    some (sign ++ mantissa ++ exponent, rest)

/-! Splitting loses nothing, and a numeral is never empty. -/

theorem takeSign_append (cs : List Char) : (takeSign cs).1 ++ (takeSign cs).2 = cs := by
  fun_cases takeSign cs <;> rfl

theorem takeDigits_append (cs : List Char) : (takeDigits cs).1 ++ (takeDigits cs).2 = cs :=
  List.takeWhile_append_dropWhile

theorem takeMantissa?_append {cs mantissa rest : List Char}
    (h : takeMantissa? cs = some (mantissa, rest)) : mantissa ++ rest = cs ∧ mantissa ≠ [] := by
  unfold takeMantissa? at h
  grind [takeDigits_append, List.append_eq_nil_iff]

theorem takeExponent_append (cs : List Char) :
    (takeExponent cs).1 ++ (takeExponent cs).2 = cs := by
  unfold takeExponent
  grind [takeDigits_append, takeSign_append]

theorem scan_append {cs numeral rest : List Char} (h : scan cs = some (numeral, rest)) :
    numeral ++ rest = cs ∧ numeral ≠ [] := by
  unfold scan at h
  grind [takeSign_append, takeMantissa?_append, takeExponent_append, List.append_eq_nil_iff]

/-- Whether a whole text is a numeral. -/
def isNumeral (cs : List Char) : Bool :=
  match scan cs with
  | some (_, []) => true
  | _ => false

/-! ## Reading -/

/-- The number that digits stand for. -/
def digitsValue (digits : List Char) : Nat :=
  digits.foldl (fun n c => 10 * n + (digitValue? c).getD 0) 0

/-- The integer of an optional sign and digits. -/
def signedValue (cs : List Char) : Int :=
  match takeSign cs with
  | (['-'], digits) => -(digitsValue digits : Int)
  | (_, digits) => digitsValue digits

/-- What a text stands for as a number; a decimal is an integer times a power of ten, with a
sign of its own because zero has one. -/
inductive Reading where
  | decimal (negative : Bool) (digits : Nat) (exponent : Int)
  | infinite (negative : Bool)
  | notANumber
deriving Repr, DecidableEq

/-- The number a numeral stands for. -/
def Reading.ofNumeral? (cs : List Char) : Option Reading :=
  let (sign, rest) := takeSign cs
  match takeMantissa? rest with
  | none => none
  | some (mantissa, rest) =>
    match takeExponent rest with
    | (exponent, []) =>
      let whole := mantissa.takeWhile (· ≠ '.')
      let places := (mantissa.dropWhile (· ≠ '.')).drop 1
      some <| .decimal (sign == ['-']) (digitsValue (whole ++ places))
        (signedValue (exponent.drop 1) - places.length)
    | _ => none

/-- Whether a blank may stand around a number: the ASCII separators may not. -/
def isPadding (c : Char) : Bool :=
  isBlank c && !(0x1C ≤ c.toNat && c.toNat ≤ 0x1F)

/-- The text without padding at both ends. -/
def unpad (cs : List Char) : List Char :=
  ((cs.dropWhile isPadding).reverse.dropWhile isPadding).reverse

/-- Removes the underscores, each of which has to stand between two digits; `afterDigit` says
whether a digit has just been read. -/
def joinDigits? (afterDigit : Bool) : List Char → Option (List Char)
  | [] => some []
  | '_' :: c :: rest =>
    if afterDigit && isDigit c then (joinDigits? true rest).map (c :: ·) else none
  | '_' :: [] => none
  | c :: rest => (joinDigits? (isDigit c) rest).map (c :: ·)

/-- The words for what is no number, in lower case. -/
def infinityWords : List (List Char) := ["inf".toList, "infinity".toList]
def notANumberWord : List Char := "nan".toList

/-- The number a whole text stands for. -/
def Reading.ofText? (s : String) : Option Reading :=
  let cs := unpad s.toList
  let (sign, word) := takeSign cs
  let word := word.map Char.toLower
  if infinityWords.contains word then some (.infinite (sign == ['-']))
  else if word = notANumberWord then some .notANumber
  else (joinDigits? false cs).bind ofNumeral?

end UnitCalc.Number.Numeral
