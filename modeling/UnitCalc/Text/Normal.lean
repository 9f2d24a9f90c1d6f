import UnitCalc.Text.Normal.Table

/-!
# Canonical composition

Two spellings of one text, such as a letter with an accent and the letter followed by a
combining accent, have one normal form (Unicode normalization form C): every character is
decomposed as far as it goes, the marks behind each base are put in order of their combining
class, and what composes is composed again.
-/

namespace UnitCalc.Text

/-! ## Hangul syllables -/

/-- Hangul syllables are computed: the first syllable, and the code points before the first
leading consonant, vowel and trailing consonant. -/
def hangulFirst : Nat := 0xAC00
def hangulLead : Nat := 0x1100
def hangulVowel : Nat := 0x1161
def hangulTail : Nat := 0x11A7

/-- The number of Hangul syllables. -/
def hangulCount : Nat := 11172

/-- The letters of a Hangul syllable, given by its distance from the first one. -/
def hangulLetters (index : Nat) : List Nat :=
  let pair := [hangulLead + index / 588, hangulVowel + index % 588 / 28]
  if index % 28 = 0 then pair else pair ++ [hangulTail + index % 28]

/-- The Hangul syllable of a leading consonant and a vowel, or of an open syllable and a
trailing consonant. -/
def composeHangul? (first second : Nat) : Option Nat :=
  if hangulLead ≤ first ∧ first < hangulLead + 19 ∧
      hangulVowel ≤ second ∧ second < hangulVowel + 21 then
    some (hangulFirst + ((first - hangulLead) * 21 + (second - hangulVowel)) * 28)
  else if hangulFirst ≤ first ∧ first < hangulFirst + hangulCount ∧
      (first - hangulFirst) % 28 = 0 ∧ hangulTail < second ∧ second < hangulTail + 28 then
    some (first + (second - hangulTail))
  else none

/-! ## Decomposition -/

/-- What a character stands for, one step deep. -/
def decomposeOnce? (n : Nat) : Option (List Nat) :=
  if hangulFirst ≤ n ∧ n < hangulFirst + hangulCount then some (hangulLetters (n - hangulFirst))
  else
    match singletonRuns.find? fun run => run.1 ≤ n && n < run.1 + run.2.length with
    | some run => run.2[n - run.1]?.map ([·])
    | none =>
      match (compositePairs.find? (·.1 == n)).or (oneWayPairs.find? (·.1 == n)) with
      | some (_, first, second) => some [first, second]
      | none => none

/-- The full decomposition of a character; no chain of decompositions is longer than the
given depth of four. -/
def decompose : (depth : Nat) → Nat → List Nat
  | 0, n => [n]
  | depth + 1, n =>
    match decomposeOnce? n with
    | some parts => parts.flatMap (decompose depth)
    | none => [n]

/-! ## Order of marks -/

/-- The combining class of a character: zero for a base, else the place of the mark. -/
def combiningClass (n : Nat) : Nat :=
  match combiningClasses.find? fun range => range.1 ≤ n && n ≤ range.2.1 with
  | some (_, _, k) => k
  | none => 0

/-- Puts a character before a text: a mark moves behind the marks of a smaller class. -/
def insertMark (n : Nat) : List Nat → List Nat
  | [] => [n]
  | m :: rest =>
    if combiningClass m ≠ 0 ∧ combiningClass m < combiningClass n then m :: insertMark n rest
    else n :: m :: rest

/-- The text with the marks behind each base ordered by their class. -/
def orderMarks (ns : List Nat) : List Nat :=
  ns.foldr insertMark []

/-! ## Composition -/

/-- The composite of two characters. -/
def composePair? (first second : Nat) : Option Nat :=
  (composeHangul? first second).or
    ((compositePairs.find? fun pair => pair.2.1 == first && pair.2.2 == second).map (·.1))

/-- Composes a text behind the base `base`: `marks` are the characters kept behind the base,
and `last` is the class of the last of them. A character joins the base if no kept mark of
its class or a higher one stands between. -/
def composeBehind (base : Nat) (marks : List Nat) (last : Nat) : List Nat → List Nat
  | [] => base :: marks
  | n :: rest =>
    let k := combiningClass n
    match if marks.isEmpty ∨ last < k then composePair? base n else none with
    | some composite => composeBehind composite marks last rest
    | none =>
      if k = 0 then base :: marks ++ composeBehind n [] 0 rest
      else composeBehind base (marks ++ [n]) k rest

/-- Composes a text; marks before the first base stay as they are. -/
def compose : List Nat → List Nat
  | [] => []
  | n :: rest => if combiningClass n = 0 then composeBehind n [] 0 rest else n :: compose rest

/-- The normal form of a text. Below U+0300 every text is its own normal form. -/
def normalForm (cs : List Char) : List Char :=
  if cs.all (·.toNat < 0x300) then cs
  else (compose (orderMarks (cs.flatMap fun c => decompose 4 c.toNat))).map Char.ofNat

end UnitCalc.Text
