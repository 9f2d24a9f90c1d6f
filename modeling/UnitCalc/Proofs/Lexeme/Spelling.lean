import Mathlib.Algebra.Group.Nat.Defs
import UnitCalc.Proofs.Lexeme.Spaced
import UnitCalc.Proofs.Lexeme.Terminal
import UnitCalc.Proofs.Text.Decomposition

/-!
# Which spellings an expression can use

A registry takes any spelling, but an expression is cut by scanners that come before the search
for spellings. A spelling gets through as it stands, and as a unit, if it is a word that is no
keyword, or if it begins with a character at which none of the other scanners begins. Then no
other spelling is found in its place, for it is the longest one there is.
-/

namespace UnitCalc.Expr

open UnitCalc.Text Number Number.Numeral Lexeme

/-- The words that are no units wherever they stand. -/
def keywords : List String := ["e", "pi", "sqrt", "log", "ln"]

/-- Whether a text begins with a character at which only the search for spellings begins: it is
neither a letter nor a digit nor an operator, and no point with a digit behind it. -/
def beginsSpelling : List Char → Bool
  | [] => false
  | c :: cs => !isLetter c && !isDigit c && !operators.contains c &&
    !(c == '.' && cs.head?.any isDigit)

/-- The spellings that an expression can use: words that are no keywords, and texts that begin as
no other lexeme does. -/
def Typeable (key : String) : Prop :=
  (∀ c ∈ key.toList, isLetter c = true) ∧ key ∉ keywords ∨ beginsSpelling key.toList = true

instance (key : String) : Decidable (Typeable key) :=
  decidable_of_iff (key.toList.all isLetter = true ∧ key ∉ keywords ∨
    beginsSpelling key.toList = true) (by rw [Typeable, List.all_eq_true])

/-! ## Letters, digits and operators -/

section Characters

variable {c : Char} {cs : List Char}

/-- The code points of the digits of all scripts. -/
def digitCodes : List Nat := digitZeros.flatMap fun row => List.range' row 10

theorem mem_digitCodes_of_isDigit (h : isDigit c = true) : c.toNat ∈ digitCodes := by
  rw [isDigit, digitValue?, Option.isSome_map, List.find?_isSome] at h
  obtain ⟨row, hrow, hbounds⟩ := h
  simp only [Bool.and_eq_true, decide_eq_true_eq] at hbounds
  exact List.mem_flatMap.mpr ⟨row, hrow, List.mem_range'_1.mpr hbounds⟩

/-- No digit of a script lies among the letters. -/
theorem digitCodes_letterRanges : ∀ letters ∈ letterRanges,
    (bitSet digitCodes >>> letters.1) % 2 ^ (letters.2 + 1 - letters.1) = 0 := by
  decide +kernel

theorem isDigit_of_isLetter (h : isLetter c = true) : isDigit c = false := by
  simp only [isLetter, Ranges.contains, List.any_eq_true, Bool.and_eq_true, decide_eq_true_eq] at h
  obtain ⟨letters, hletters, hfirst, hlast⟩ := h
  by_contra hdigit
  have hbit : ((bitSet digitCodes >>> letters.1) % 2 ^ (letters.2 + 1 - letters.1)).testBit
      (c.toNat - letters.1) = true := by
    rw [Nat.testBit_mod_two_pow, Nat.testBit_shiftRight, Nat.add_sub_of_le hfirst,
      testBit_bitSet.mpr (mem_digitCodes_of_isDigit (Bool.of_not_eq_false hdigit)), Bool.and_true,
      decide_eq_true_eq]
    omega
  rw [digitCodes_letterRanges letters hletters, Nat.zero_testBit] at hbit
  cases hbit

theorem isLetter_of_operator : ∀ c ∈ operators, isLetter c = false := by
  have hall : operators.all (fun c => !isLetter c) = true := by
    decide +kernel
  simpa using hall

theorem operators_of_isLetter (h : isLetter c = true) : operators.contains c = false := by
  by_contra hoperator
  rw [Bool.not_eq_false, List.contains_iff_mem] at hoperator
  rw [isLetter_of_operator c hoperator] at h
  cases h

theorem isSign_of_operators (h : operators.contains c = false) : isSign c = false := by
  by_contra hsign
  rw [Bool.not_eq_false, isSign_iff] at hsign
  rcases hsign with rfl | rfl <;> exact absurd h (by decide)

/-- Without a sign, a numeral begins with its mantissa. -/
theorem scan_eq_none_iff (h : isSign c = false) :
    scan (c :: cs) = none ↔ isDigit c = false ∧ (c == '.' && cs.head?.any isDigit) = false := by
  rw [← Option.isNone_iff_eq_none, ← Option.not_isSome, isSome_scan, beginsNumeral,
    takeSign_of_head (by simpa using h), beginsMantissa, Bool.not_eq_true', Bool.or_eq_false_iff]

/-- A word is no numeral. -/
theorem scan_of_isLetter (h : isLetter c = true) : scan (c :: cs) = none := by
  refine (scan_eq_none_iff (isSign_of_operators (operators_of_isLetter h))).mpr
    ⟨isDigit_of_isLetter h, ?_⟩
  have hpoint : c ≠ '.' := by
    rintro rfl
    exact absurd h (by decide +kernel)
  simp [hpoint]

end Characters

/-! ## Terminals -/

/-- Signs begin with an operator, and keywords are words. -/
theorem fixed_cases : ∀ entry ∈ Terminal.fixed,
    entry.1 ∈ keywords ∨ entry.1.toList.head?.any operators.contains = true := by
  decide

theorem isLetter_of_keyword : ∀ word ∈ keywords, ∀ c ∈ word.toList, isLetter c = true := by
  have hall : keywords.all (fun word => word.toList.all isLetter) = true := by
    decide +kernel
  simpa using hall

theorem mem_fixed_of_keyword : ∀ word ∈ keywords, ∃ entry ∈ Terminal.fixed, entry.1 = word := by
  decide

theorem mem_fixed_of_operator : ∀ c ∈ operators, ∃ entry ∈ Terminal.fixed,
    entry.1 = String.ofList [c] := by
  have hall : operators.all (fun c =>
      Terminal.fixed.any fun entry => entry.1 == String.ofList [c]) = true := by
    decide
  simpa using hall

theorem fixed_not_unit : ∀ entry ∈ Terminal.fixed, entry.2 ≠ .unit := by
  decide

section Terminals

variable {K : Type} [Scalar K] {r : Registry K} {text : String}

theorem ofNumeral_ne_unit (cs : List Char) : Terminal.ofNumeral cs ≠ .unit := by
  unfold Terminal.ofNumeral
  split <;> decide

/-- A text is a unit if it is a spelling that is no sign, no keyword and no numeral. -/
theorem ofText?_eq_unit_iff : Terminal.ofText? r text = some .unit ↔
    (∀ entry ∈ Terminal.fixed, entry.1 ≠ text) ∧ text ≠ "" ∧
      isNumeral text.toList = false ∧ r.has text = true := by
  have hnone : Terminal.fixed.lookup text = none ↔ ∀ entry ∈ Terminal.fixed, entry.1 ≠ text := by
    simp only [List.lookup_eq_none_iff, bne_iff_ne, ne_comm]
  unfold Terminal.ofText?
  split
  · rename_i x hlookup
    obtain ⟨before, after, hsplit, _⟩ := List.lookup_eq_some_iff.mp hlookup
    have hmem : (text, x) ∈ Terminal.fixed := by simp [hsplit]
    refine iff_of_false ?_ fun h => h.1 _ hmem rfl
    rw [Option.some.injEq]
    exact fixed_not_unit _ hmem
  · rename_i hlookup
    rw [← hnone, ne_eq, ← String.isEmpty_iff]
    cases hempty : text.isEmpty with
    | true => simp
    | false =>
      unfold Terminal.ofOther
      cases hnumeral : isNumeral text.toList with
      | true => simp [ofNumeral_ne_unit]
      | false => cases hhas : r.has text <;> simp [hlookup]

end Terminals

/-! ## The next lexeme -/

section Next

variable {K : Type} {r : Registry K} {c : Char} {cs : List Char}

theorem takeNumeral?_of_scan {afterOperand : Bool} (h : scan (c :: cs) = none) :
    takeNumeral? afterOperand (c :: cs) = none := by
  rw [takeNumeral?_cons, h, ite_self]

theorem not_arrow (h : operators.contains c = false) : ¬ arrow.isPrefixOf (c :: cs) = true := by
  rw [arrow_isPrefixOf_iff]
  rintro ⟨rfl, _⟩
  exact absurd h (by decide)

/-- A word is taken whole. -/
theorem takeNext_word {afterOperand : Bool} (h : ∀ d ∈ c :: cs, isLetter d = true) :
    takeNext r afterOperand c cs = (c :: cs, []) := by
  obtain ⟨hc, hcs⟩ := List.forall_mem_cons.mp h
  have hoperator := operators_of_isLetter hc
  unfold takeNext
  rw [takeNumeral?_of_scan (scan_of_isLetter hc)]
  simp only
  rw [if_neg (not_arrow hoperator), if_neg (by rw [hoperator]; exact Bool.false_ne_true),
    if_pos hc, List.takeWhile_eq_self_iff.mpr hcs, List.dropWhile_eq_nil_iff.mpr hcs]

/-- A spelling at which no other scanner begins is taken whole. -/
theorem takeNext_spelling {afterOperand : Bool} (h : beginsSpelling (c :: cs) = true)
    (hkey : String.ofList (c :: cs) ∈ r.keys) :
    takeNext r afterOperand c cs = (c :: cs, []) := by
  simp only [beginsSpelling, Bool.and_eq_true, Bool.not_eq_true'] at h
  obtain ⟨⟨⟨hletter, hdigit⟩, hoperator⟩, hpoint⟩ := h
  have hunit : takeUnit? r (c :: cs) = some (c :: cs, []) := by
    refine takeUnit?_eq_some_iff.mpr ⟨List.cons_ne_nil _ _, List.append_nil _, hkey, ?_, ?_⟩
    · simp
    · intro other _ hbegins
      rw [← String.length_toList, ← String.length_toList, String.toList_ofList]
      exact hbegins.length_le
  unfold takeNext
  rw [takeNumeral?_of_scan ((scan_eq_none_iff (isSign_of_operators hoperator)).mpr
    ⟨hdigit, hpoint⟩)]
  simp only
  rw [if_neg (not_arrow hoperator), if_neg (by rw [hoperator]; exact Bool.false_ne_true),
    if_neg (by rw [hletter]; exact Bool.false_ne_true), hunit]

variable [Scalar K]

/-- Conversely, what is taken whole as a unit is such a spelling. -/
theorem typeable_of_takeNext (h : takeNext r true c cs = (c :: cs, []))
    (hunit : Terminal.ofText? r (String.ofList (c :: cs)) = some .unit) :
    Typeable (String.ofList (c :: cs)) := by
  obtain ⟨hfixed, _, hnumeral, _⟩ := ofText?_eq_unit_iff.mp hunit
  rw [String.toList_ofList] at hnumeral
  unfold takeNext at h
  split at h
  · -- a numeral that is all of it would be classified as one
    rename_i split hsplit
    rw [h, takeNumeral?_cons] at hsplit
    split at hsplit
    · cases hsplit
    · rw [isNumeral, hsplit] at hnumeral
      cases hnumeral
  · rename_i hnone
    split at h
    · have htext : arrow = c :: cs := (Prod.mk.inj h).1
      exact absurd (congrArg String.ofList htext) (hfixed ("->", .arrow) (by decide))
    · split at h
      · rename_i hoperator
        have htext : [c] = c :: cs := (Prod.mk.inj h).1
        obtain ⟨entry, hentry, hname⟩ :=
          mem_fixed_of_operator c (List.contains_iff_mem.mp hoperator)
        exact absurd (hname.trans (congrArg String.ofList htext)) (hfixed entry hentry)
      · rename_i hoperator
        rw [Bool.not_eq_true] at hoperator
        unfold Typeable
        rw [String.toList_ofList]
        split at h
        · rename_i hletter
          left
          have hword : cs.takeWhile isLetter = cs := (List.cons.inj (Prod.mk.inj h).1).2
          refine ⟨List.forall_mem_cons.mpr ⟨hletter, List.takeWhile_eq_self_iff.mp hword⟩, ?_⟩
          intro hkeyword
          obtain ⟨entry, hentry, hname⟩ := mem_fixed_of_keyword _ hkeyword
          exact hfixed entry hentry hname
        · rename_i hletter
          right
          have hplus : ¬ (true && c == '+') = true := by
            rw [Bool.true_and, beq_iff_eq]
            rintro rfl
            exact absurd hoperator (by decide)
          rw [takeNumeral?_cons, if_neg hplus,
            scan_eq_none_iff (isSign_of_operators hoperator)] at hnone
          simp only [beginsSpelling, Bool.and_eq_true, Bool.not_eq_true']
          exact ⟨⟨⟨Bool.not_eq_true _ ▸ hletter, hnone.1⟩, hoperator⟩, hnone.2⟩

/-- A spelling is taken whole, and as a unit, exactly if it can be typed. -/
theorem takeNext_iff_typeable (hkey : String.ofList (c :: cs) ∈ r.keys)
    (hhas : r.has (String.ofList (c :: cs)) = true) :
    (takeNext r true c cs = (c :: cs, []) ∧
      Terminal.ofText? r (String.ofList (c :: cs)) = some .unit) ↔
    Typeable (String.ofList (c :: cs)) := by
  refine ⟨fun h => typeable_of_takeNext h.1 h.2, fun h => ?_⟩
  have hempty : String.ofList (c :: cs) ≠ "" := by
    intro hnil
    have hchars := congrArg String.toList hnil
    rw [String.toList_ofList] at hchars
    cases hchars
  have hnumeral (hscan : scan (c :: cs) = none) :
      isNumeral (String.ofList (c :: cs)).toList = false := by
    rw [String.toList_ofList, isNumeral, hscan]
  rcases h with ⟨hword, hkeyword⟩ | hbegins
  · rw [String.toList_ofList] at hword
    refine ⟨takeNext_word hword, ofText?_eq_unit_iff.mpr ⟨?_, hempty, ?_, hhas⟩⟩
    · intro entry hentry hname
      rcases fixed_cases entry hentry with hin | hoperator
      · exact hkeyword (hname ▸ hin)
      · rw [hname, String.toList_ofList] at hoperator
        have hfalse := operators_of_isLetter (hword c List.mem_cons_self)
        exact Bool.false_ne_true (hfalse.symm.trans hoperator)
    · exact hnumeral (scan_of_isLetter (hword c List.mem_cons_self))
  · rw [String.toList_ofList] at hbegins
    refine ⟨takeNext_spelling hbegins hkey, ofText?_eq_unit_iff.mpr ⟨?_, hempty, ?_, hhas⟩⟩
    · simp only [beginsSpelling, Bool.and_eq_true, Bool.not_eq_true'] at hbegins
      intro entry hentry hname
      rcases fixed_cases entry hentry with hin | hoperator
      · have hletter := isLetter_of_keyword _ hin c (by simp [hname])
        exact Bool.false_ne_true (hbegins.1.1.1.symm.trans hletter)
      · rw [hname, String.toList_ofList] at hoperator
        exact Bool.false_ne_true (hbegins.1.2.symm.trans hoperator)
    · simp only [beginsSpelling, Bool.and_eq_true, Bool.not_eq_true'] at hbegins
      exact hnumeral ((scan_eq_none_iff (isSign_of_operators hbegins.1.2)).mpr
        ⟨hbegins.1.1.2, hbegins.2⟩)

end Next

/-! ## One of a spelling -/

section One

variable {K : Type} {r : Registry K} {c : Char} {cs : List Char}

theorem takeNext_one (rest : List Char) :
    takeNext r false '1' (' ' :: rest) = (['1'], ' ' :: rest) := by
  have hone : scan ('1' :: ' ' :: rest) = some (['1'], ' ' :: rest) := by
    have halone : scan ['1'] = some (['1'], []) := by decide
    have hblank : StartsBlank (' ' :: rest) := by
      intro d hd
      obtain rfl := Option.some.inj hd
      decide
    exact scan_again halone hblank
  unfold takeNext
  rw [takeNumeral?_cons, if_neg (by decide), hone]

/-- What is found behind a one and a space. -/
theorem scan_one (hblank : isBlank c = false) (text : String) (htext : text.toList = c :: cs) :
    Lexeme.scan r ("1 " ++ text) = ⟨"1", 0⟩ :: ⟨String.ofList (takeNext r true c cs).1, 2⟩ ::
      scanFrom r (c :: cs).length (Lexeme.endsOperand (takeNext r true c cs).1)
        (2 + (takeNext r true c cs).1.length) (takeNext r true c cs).2 := by
  have hchars : ("1 " ++ text).toList = '1' :: ' ' :: c :: cs := by
    rw [String.toList_append, htext]
    rfl
  have hfirst : ('1' :: ' ' :: c :: cs).dropWhile isBlank = '1' :: ' ' :: c :: cs :=
    List.dropWhile_cons_of_neg (by decide)
  have hspace : (' ' :: c :: cs).dropWhile isBlank = c :: cs := by
    rw [List.dropWhile_cons_of_pos (by decide), List.dropWhile_cons_of_neg (by simp [hblank])]
  have hwidth : (' ' :: c :: cs).takeWhile isBlank = [' '] := by
    rw [List.takeWhile_cons_of_pos (by decide), List.takeWhile_cons_of_neg (by simp [hblank])]
  rw [Lexeme.scan, hchars]
  show scanFrom r ((c :: cs).length + 1 + 1) false 0 _ = _
  rw [scanFrom_succ hfirst (takeNext_one _), scanFrom_succ hspace rfl, hwidth]
  rfl

/-- The two lexemes are all if the second one is the whole spelling. -/
theorem scan_one_eq_iff (hblank : isBlank c = false) (text : String)
    (htext : text.toList = c :: cs) :
    Lexeme.scan r ("1 " ++ text) = [⟨"1", 0⟩, ⟨text, 2⟩] ↔
      takeNext r true c cs = (c :: cs, []) := by
  rw [scan_one hblank text htext]
  constructor
  · intro h
    have hword : String.ofList (takeNext r true c cs).1 = text :=
      congrArg Lexeme.text (List.cons.inj (List.cons.inj h).2).1
    obtain ⟨happend, _⟩ := takeNext_append r true c cs
    have hchars : (takeNext r true c cs).1 = c :: cs := by
      rw [← htext, ← hword, String.toList_ofList]
    rw [hchars, List.append_right_eq_self] at happend
    exact Prod.ext hchars happend
  · intro h
    rw [h, ← htext, String.ofList_toList, scanFrom_of_blank (by simp)]

end One

end UnitCalc.Expr
