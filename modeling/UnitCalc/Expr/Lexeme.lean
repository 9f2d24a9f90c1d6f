import UnitCalc.Number.Numeral
import UnitCalc.Registry

/-!
# Lexemes

An expression is cut into lexemes from left to right. After any blanks, the next lexeme is
the first of these that fits:

1. the longest numeral, with its sign, except that a plus sign right after an operand is left
   to be an operator;
2. the conversion arrow;
3. one operator character;
4. the longest run of letters;
5. the longest spelling of a unit;
6. a single character.

Nothing is refused here, and nothing but blanks is lost.
-/

namespace UnitCalc.Expr

open UnitCalc.Text UnitCalc.Number

/-- A piece of an expression, and where it starts, counted in characters. -/
structure Lexeme where
  text : String
  position : Nat
deriving Repr, DecidableEq

namespace Lexeme

variable {K : Type}

/-- The conversion arrow. -/
def arrow : List Char := ['-', '>']

/-- The operator characters. -/
def operators : List Char := ['+', '-', '*', '/', '%', '^', '!', '(', ')']

/-- Whether a lexeme ends an operand, so that a plus sign behind it is an operator. -/
def endsOperand (cs : List Char) : Bool :=
  match cs with
  | [c] => c == ')' || !operators.contains c
  | _ => cs != arrow

/-- Splits off a numeral, unless it starts with a plus sign behind an operand. -/
def takeNumeral? (afterOperand : Bool) (cs : List Char) : Option (List Char × List Char) :=
  match Numeral.scan cs with
  | some (numeral, rest) =>
    if afterOperand && numeral.head? == some '+' then none else some (numeral, rest)
  | none => none

theorem takeNumeral?_append {afterOperand : Bool} {cs lexeme rest : List Char}
    (h : takeNumeral? afterOperand cs = some (lexeme, rest)) :
    lexeme ++ rest = cs ∧ lexeme ≠ [] := by
  grind [takeNumeral?, Numeral.scan_append]

/-- Splits off a spelling of a unit. -/
def takeUnit? (r : Registry K) (cs : List Char) : Option (List Char × List Char) :=
  match r.longestMatch? cs with
  | some key => if key.isEmpty then none else some (key.toList, cs.drop key.length)
  | none => none

theorem takeUnit?_append {r : Registry K} {cs lexeme rest : List Char}
    (h : takeUnit? r cs = some (lexeme, rest)) : lexeme ++ rest = cs ∧ lexeme ≠ [] := by
  simp only [takeUnit?] at h
  split at h
  · rename_i key found
    split at h
    · cases h
    · rename_i hne
      cases h
      refine ⟨?_, by simpa using hne⟩
      obtain ⟨rest, rfl⟩ := (Registry.longestMatch?_eq_some found).2
      simp [← String.length_toList]
  · cases h

/-- Splits the next lexeme off a text that starts with the character `c`, which is not
blank. -/
def takeNext (r : Registry K) (afterOperand : Bool) (c : Char) (cs : List Char) :
    List Char × List Char :=
  match takeNumeral? afterOperand (c :: cs) with
  | some split => split
  | none =>
    if arrow.isPrefixOf (c :: cs) then (arrow, cs.drop 1)
    else if operators.contains c then ([c], cs)
    else if isLetter c then (c :: cs.takeWhile isLetter, cs.dropWhile isLetter)
    else
      match takeUnit? r (c :: cs) with
      | some split => split
      | none => ([c], cs)

/-- A lexeme is not empty, and what is behind it is left. -/
theorem takeNext_append (r : Registry K) (afterOperand : Bool) (c : Char) (cs : List Char) :
    (takeNext r afterOperand c cs).1 ++ (takeNext r afterOperand c cs).2 = c :: cs ∧
      (takeNext r afterOperand c cs).1 ≠ [] := by
  simp only [takeNext]
  split
  · rename_i h
    exact takeNumeral?_append h
  · split
    · rename_i h
      rw [List.isPrefixOf_iff_prefix] at h
      obtain ⟨rest, h⟩ := h
      cases (h : '-' :: '>' :: rest = c :: cs)
      exact ⟨rfl, List.cons_ne_nil _ _⟩
    · split
      · simp
      · split
        · simp
        · split
          · rename_i h
            exact takeUnit?_append h
          · simp

/-- The lexemes of a text that starts at a position of the whole; `fuel` bounds their
number. -/
def scanFrom (r : Registry K) :
    (fuel : Nat) → (afterOperand : Bool) → (position : Nat) → List Char → List Lexeme
  | 0, _, _, _ => []
  | fuel + 1, afterOperand, position, cs =>
    match cs.dropWhile isBlank with
    | [] => []
    | c :: rest =>
      let start := position + (cs.takeWhile isBlank).length
      let (lexeme, rest) := takeNext r afterOperand c rest
      ⟨String.ofList lexeme, start⟩ ::
        scanFrom r fuel (endsOperand lexeme) (start + lexeme.length) rest

/-- The lexemes of an expression. -/
def scan (r : Registry K) (text : String) : List Lexeme :=
  scanFrom r text.toList.length false 0 text.toList

end Lexeme

end UnitCalc.Expr
