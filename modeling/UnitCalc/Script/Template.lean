import UnitCalc.Script.Value

/-!
# Texts with places

A text can have places for values. A place is a percent sign, flags, the least width, the
number of digits or characters wanted behind a point, and a letter that says how the value is
written. The values of a tuple or a dimension fill the places one after another, and any
other value is a single one. A context can be looked up by name and so may be left over.
-/

namespace UnitCalc.Script.Template

/-- The ways in which a value is written at a place. -/
inductive Style where
  /-- As it is printed. -/
  | printed
  /-- As it is shown. -/
  | shown
  /-- As an integer; the letter is the one that asks for it. -/
  | whole (letter : Char)
  /-- As an integer in another base; doubles are none. -/
  | based (letter : Char) (base : Nat)
  /-- As a double with a number of places. -/
  | places
deriving Repr, DecidableEq

/-- The style that a letter stands for. -/
def Style.ofLetter? : Char → Option Style
  | 's' => some .printed
  | 'r' => some .shown
  | 'd' => some (.whole 'd')
  | 'i' => some (.whole 'i')
  | 'u' => some (.whole 'u')
  | 'x' => some (.based 'x' 16)
  | 'o' => some (.based 'o' 8)
  | 'f' => some .places
  | 'F' => some .places
  | _ => none

/-- The integer that is left of a number without its fraction. -/
def truncated (x : Plain) : Except TemplateFault Int :=
  match x.integer? with
  | some n => .ok n
  | none =>
    match Number.Binary.ofFloat? x.toDouble with
    | some b =>
      let (n, d) := b.fraction
      .ok (if b.negative then -(n / d : Nat) else (n / d : Nat))
    | none => .error (if x.toDouble.isNaN then .notANumber else .infinite)

/-- An integer with at least so many digits. -/
def wholeText (digits : Nat) (n : Int) : Except Error String := do
  let text ← ofPlain (Plain.text? (.int n.natAbs))
  let zeros := String.ofList (List.replicate (digits - text.length) '0')
  return (if n < 0 then "-" else "") ++ zeros ++ text

/-- An integer in a base with at least so many digits. -/
def basedText (base digits : Nat) (n : Int) : String :=
  let text := Nat.toDigits base n.natAbs
  let zeros := List.replicate (digits - text.length) '0'
  (if n < 0 then "-" else "") ++ String.ofList (zeros ++ text)

/-- The integer of a value at a place for one. -/
def integerValue (letter : Char) (v : Value) : Except Error Int :=
  let integer? := match v with
    | .plain x => x.integer?
    | _ => none
  match integer? with
  | some n => .ok n
  | none => .error (.template (.integerNeeded letter v.kind))

/-- The double of a value at a place for one. -/
def realValue (v : Value) : Except Error Float :=
  match v with
  | .plain x => ofPlain x.double
  | .quantity q => (ofFault q.toScalar).map Plain.toDouble
  | v => .error (.numberNeeded v.kind)

/-- What a place asks for besides the style. -/
structure Field where
  /-- Whether blanks go behind the text and not before it. -/
  left : Bool
  /-- Whether zeros are put between the sign of a number and its digits. -/
  zeros : Bool
  /-- What stands before a number that is not negative. -/
  sign : String
  width : Nat
  size : Option Nat
deriving Repr, DecidableEq

/-- A place that asks for nothing. -/
def Field.none : Field := ⟨false, false, "", 0, Option.none⟩

/-- A text cut to the number of characters that is asked for. -/
def Field.cut (f : Field) (s : String) : String :=
  match f.size with
  | some n => String.ofList (s.toList.take n)
  | .none => s

/-- A text in the width that is asked for. -/
def Field.pad (f : Field) (s : String) : String :=
  let blanks := String.ofList (List.replicate (f.width - s.length) ' ')
  if f.left then s ++ blanks else blanks ++ s

/-- The text of a number in the width that is asked for. -/
def Field.padNumber (f : Field) (s : String) : String :=
  let (sign, digits) := match s.toList with
    | '-' :: digits => ("-", digits)
    | digits => (f.sign, digits)
  let room := f.width - (sign.length + digits.length)
  let zeros := if f.zeros && !f.left then List.replicate room '0' else []
  f.pad (sign ++ String.ofList (zeros ++ digits))

/-- A value in a style, as a place asks for it. -/
def Style.write (style : Style) (f : Field) (v : Value) : Except Error String :=
  match style, v with
  | .printed, v => v.print?.map fun s => f.pad (f.cut s)
  | .shown, v => v.shown?.map fun s => f.pad (f.cut s)
  | .whole _, .plain x => do
    return f.padNumber (← wholeText (f.size.getD 0) (← (truncated x).mapError .template))
  | .whole letter, v => .error (.template (.numberNeeded letter v.kind))
  | .based letter base, v => do
    return f.padNumber (basedText base (f.size.getD 0) (← integerValue letter v))
  | .places, v => do
    return f.padNumber (Number.placesText (f.size.getD 6) (← realValue v))

/-! ## Filling in -/

/-- Where the reader of a text with places is: in the text, behind a percent sign, or in the
flags, the width or the size of a place. -/
inductive Position where
  | inText
  | atPlace
  | inFlags (f : Field)
  | inWidth (f : Field)
  | inSize (f : Field)
deriving Repr, DecidableEq

/-- What a place asks for with one more flag. -/
def Field.withFlag? (f : Field) (c : Char) : Option Field :=
  match c with
  | '-' => some { f with left := true }
  | '0' => some { f with zeros := true }
  | '+' => some { f with sign := "+" }
  | ' ' => some (if f.sign.isEmpty then { f with sign := " " } else f)
  | '#' => some f
  | _ => Option.none

/-- The number with one more digit. -/
def appendDigit (n : Nat) (c : Char) : Nat :=
  10 * n + (c.toNat - '0'.toNat)

/-- What has been written of a text with places, the last character first, with the values
that are left and the number of characters that have been read. -/
structure Progress where
  written : List Char
  values : List Value
  position : Position
  index : Nat

namespace Progress

/-- Goes on to another position with the next character. -/
def moveTo (p : Progress) (position : Position) : Progress :=
  ⟨p.written, p.values, position, p.index + 1⟩

/-- Ends a place with a letter, at which the next value is written, or with a percent sign,
which stands for itself. -/
def endPlace (p : Progress) (f : Field) (letter : Char) : Except Error Progress :=
  if letter = '%' then .ok ⟨'%' :: p.written, p.values, .inText, p.index + 1⟩
  else
    match p.values with
    | [] => .error (.template .valuesMissing)
    | v :: values =>
      match Style.ofLetter? letter with
      | some style => do
        let text ← style.write f v
        return ⟨text.toList.reverse ++ p.written, values, .inText, p.index + 1⟩
      | none => .error (.template (.unknownLetter letter p.index))

/-- Reads a character in the size of a place. -/
def readSize (p : Progress) (f : Field) (c : Char) : Except Error Progress :=
  if c.isDigit then
    .ok (p.moveTo (.inSize { f with size := some (appendDigit (f.size.getD 0) c) }))
  else p.endPlace f c

/-- Reads a character in the width of a place. -/
def readWidth (p : Progress) (f : Field) (c : Char) : Except Error Progress :=
  if c.isDigit then .ok (p.moveTo (.inWidth { f with width := appendDigit f.width c }))
  else if c = '.' then .ok (p.moveTo (.inSize { f with size := some 0 }))
  else p.endPlace f c

/-- Reads a character in the flags of a place. -/
def readFlag (p : Progress) (f : Field) (c : Char) : Except Error Progress :=
  match f.withFlag? c with
  | some f => .ok (p.moveTo (.inFlags f))
  | none => p.readWidth f c

/-- Reads a character. -/
def read (p : Progress) (c : Char) : Except Error Progress :=
  match p.position with
  | .inText =>
    if c = '%' then .ok (p.moveTo .atPlace)
    else .ok ⟨c :: p.written, p.values, .inText, p.index + 1⟩
  | .atPlace => if c = '(' then .error (.template .nameNeeded) else p.readFlag .none c
  | .inFlags f => p.readFlag f c
  | .inWidth f => p.readWidth f c
  | .inSize f => p.readSize f c

end Progress

/-- A text with its places filled in by a value. -/
def fill (template : String) (v : Value) : Except Error String := do
  let values := match v.tuple? with
    | some items => items.map Value.atom
    | none => [v]
  let mayBeLeft := match v with
    | .context _ => true
    | _ => false
  let p ← template.toList.foldlM Progress.read ⟨[], values, .inText, 0⟩
  if p.position ≠ .inText then .error (.template .incomplete)
  else if p.values.isEmpty || mayBeLeft then return String.ofList p.written.reverse
  else .error (.template .valuesLeft)

end UnitCalc.Script.Template
