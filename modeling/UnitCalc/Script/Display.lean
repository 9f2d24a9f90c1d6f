import UnitCalc.Script.Template

/-!
# Displays of script values

A value is shown in a display that a word names. Quantities have the displays of their own. A
plain number or a text takes a letter, which for doubles can follow a point and the number of
places; no other kind has a display besides the one without a name.
-/

namespace UnitCalc.Script

/-! ## Words -/

/-- Drops the signs of alignment, with the character to fill up with before them. -/
def dropAlignment (cs : List Char) : List Char :=
  let isAlignment (c : Char) := "<>=^".toList.contains c
  match cs with
  | a :: b :: rest =>
    if isAlignment b then rest else if isAlignment a then b :: rest else cs
  | [a] => if isAlignment a then [] else cs
  | [] => []

/-- Drops a first character that is one of some. -/
def dropOneOf (signs : String) (cs : List Char) : List Char :=
  match cs with
  | c :: rest => if signs.toList.contains c then rest else cs
  | [] => []

/-- The letter of a word for the display of a number or a text: what is left behind the
alignment, the sign, the width and the number of places. -/
def letterOf (word : List Char) : List Char :=
  let cs := dropOneOf "0" (dropOneOf "#" (dropOneOf "z" (dropOneOf "+- " (dropAlignment word))))
  let cs := dropOneOf ",_" (cs.dropWhile Char.isDigit)
  match cs with
  | '.' :: rest => rest.dropWhile Char.isDigit
  | cs => cs

/-- The letters that have a meaning for the kind of an atom. -/
def lettersFor (a : Atom) : List Char :=
  match a with
  | .plain x => if x.integer?.isSome then "bcdeEfFgGnoxX%".toList else "eEfFgGn%".toList
  | .text _ => ['s']
  | .unit _ => []

/-- An atom with the letter for its own kind alone, or as a double with a number of places. -/
def writtenIn (word : List Char) (a : Atom) : Except Error String :=
  let size? := match word with
    | '.' :: rest =>
      some (Number.Numeral.digitsValue (rest.takeWhile Char.isDigit))
    | ['f'] => some 6
    | _ => none
  match a, word.getLast?, size? with
  | .text s, some 's', none => if word = ['s'] then .ok s else .error .unknownStep
  | .plain x, some 'd', none =>
    if word = ['d'] then ofPlain (Plain.text? x.pos) else .error .unknownStep
  | .plain x, some 'f', some size => (ofPlain x.double).map (Number.placesText size)
  | _, _, _ => .error .unknownStep

/-- An atom in the display of a word. -/
def Atom.displayed (a : Atom) (word : String) : Except Error String :=
  match letterOf word.toList with
  | [] => .error .unknownStep
  | [letter] =>
    if (lettersFor a).contains letter then writtenIn word.toList a
    else .error (.badDisplayLetter letter a.kind)
  | _ => .error (.badDisplay word a.kind)

/-! ## Values -/

/-- The text of a value in the display of a word. -/
def Value.displayed (v : Value) (word : String) : Except Error String :=
  match v with
  | .quantity q =>
    match Display.ofName? word with
    | some display => ofFault (display.render q)
    | none => .error .unknownDisplay
  | v =>
    if word.isEmpty then v.print?
    else
      match v with
      | .unit _ => .error (.noDisplays v.kind)
      | .atom a => a.displayed word
      | v => .error (.noDisplays v.kind)

end UnitCalc.Script
