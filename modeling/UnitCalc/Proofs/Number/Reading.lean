import UnitCalc.Number.Numeral

/-!
# Every numeral can be read

A text that is scanned as one numeral is read as a number: nothing in a numeral counts as
padding, and it holds no underscores. With a sign in front it is a numeral still, and it is read
as the same number with that sign.
-/

namespace UnitCalc.Number.Numeral

open UnitCalc.Text

/-- The characters of numerals. -/
def isNumeric (c : Char) : Bool :=
  isDigit c || ['+', '-', '.', 'e', 'E'].contains c

/-! ## The characters of a numeral -/

theorem takeDigits_numeric (cs : List Char) : ∀ c ∈ (takeDigits cs).1, isNumeric c = true := by
  intro c hc
  have hdigit : isDigit c = true := List.all_eq_true.mp List.all_takeWhile c hc
  simp [isNumeric, hdigit]

theorem takeSign_numeric (cs : List Char) : ∀ c ∈ (takeSign cs).1, isNumeric c = true := by
  fun_cases takeSign cs <;> simp [isNumeric]

theorem takeMantissa?_numeric {cs mantissa rest : List Char}
    (h : takeMantissa? cs = some (mantissa, rest)) : ∀ c ∈ mantissa, isNumeric c = true := by
  have hpoint : isNumeric '.' = true := by decide
  unfold takeMantissa? at h
  grind [takeDigits_numeric]

theorem takeExponent_numeric (cs : List Char) :
    ∀ c ∈ (takeExponent cs).1, isNumeric c = true := by
  have he : isNumeric 'e' = true ∧ isNumeric 'E' = true := by decide
  unfold takeExponent
  grind [takeDigits_numeric, takeSign_numeric]

theorem scan_numeric {cs numeral rest : List Char} (h : scan cs = some (numeral, rest)) :
    ∀ c ∈ numeral, isNumeric c = true := by
  unfold scan at h
  grind [takeSign_numeric, takeMantissa?_numeric, takeExponent_numeric]

theorem numeric_of_isNumeral {cs : List Char} (h : isNumeral cs = true) :
    ∀ c ∈ cs, isNumeric c = true := by
  unfold isNumeral at h
  split at h
  · rename_i numeral hscan
    have happend := (scan_append hscan).1
    rw [List.append_nil] at happend
    exact happend ▸ scan_numeric hscan
  · cases h

/-! ## Reading them back -/

/-- No blank lies among the digits of a script. -/
theorem blankRanges_digitZeros :
    ∀ row ∈ digitZeros, ∀ range ∈ blankRanges, row + 10 ≤ range.1 ∨ range.2 < row := by
  decide

theorem isBlank_of_isNumeric {c : Char} (h : isNumeric c = true) : isBlank c = false := by
  simp only [isNumeric, Bool.or_eq_true] at h
  rcases h with h | h
  · simp only [isDigit, digitValue?, Option.isSome_map, List.find?_isSome, Bool.and_eq_true,
      decide_eq_true_eq] at h
    obtain ⟨row, hrow, hle, hlt⟩ := h
    simp only [isBlank, Ranges.contains, List.any_eq_false, Bool.and_eq_true, decide_eq_true_eq]
    rintro range hrange ⟨hstart, hend⟩
    rcases blankRanges_digitZeros row hrow range hrange with h | h <;> omega
  · simp only [List.contains_eq_mem, List.mem_cons, List.not_mem_nil, or_false,
      decide_eq_true_eq] at h
    rcases h with rfl | rfl | rfl | rfl | rfl <;> decide

theorem dropWhile_isPadding {cs : List Char} (h : ∀ c ∈ cs, isNumeric c = true) :
    cs.dropWhile isPadding = cs := by
  cases cs with
  | nil => rfl
  | cons c cs =>
    have hc := isBlank_of_isNumeric (h c List.mem_cons_self)
    rw [List.dropWhile_cons_of_neg (by simp [isPadding, hc])]

theorem unpad_of_numeric {cs : List Char} (h : ∀ c ∈ cs, isNumeric c = true) :
    unpad cs = cs := by
  have hreverse : ∀ c ∈ cs.reverse, isNumeric c = true := by simpa using h
  rw [unpad, dropWhile_isPadding h, dropWhile_isPadding hreverse, List.reverse_reverse]

theorem joinDigits?_of_numeric {cs : List Char} (h : ∀ c ∈ cs, isNumeric c = true)
    (afterDigit : Bool) : joinDigits? afterDigit cs = some cs := by
  have hunderscore : isNumeric '_' = false := by decide
  induction cs generalizing afterDigit with
  | nil => rfl
  | cons c cs ih =>
    have hc : c ≠ '_' := by
      rintro rfl
      rw [h '_' List.mem_cons_self] at hunderscore
      cases hunderscore
    rw [joinDigits?.eq_4 afterDigit c cs (by simp [hc]) (by simp [hc]),
      ih (fun d hd => h d (List.mem_cons_of_mem c hd))]
    rfl

/-- What is scanned to its end is a decimal. -/
theorem ofNumeral?_of_scan {cs numeral : List Char} (h : scan cs = some (numeral, [])) :
    ∃ negative digits exponent,
      Reading.ofNumeral? cs = some (.decimal negative digits exponent) := by
  unfold scan at h
  unfold Reading.ofNumeral?
  simp only at h ⊢
  split at h
  · cases h
  · rename_i mantissa rest hmantissa
    simp only [Option.some.injEq, Prod.mk.injEq] at h
    have hend : takeExponent rest = ((takeExponent rest).1, []) := by rw [← h.2]
    rw [hend]
    exact ⟨_, _, _, rfl⟩

theorem eq_or_val_of_toLower {c d : Char} (h : c.toLower = d) : c = d ∨ c.val = d.val - 32 := by
  unfold Char.toLower at h
  split at h
  · rw [← h]
    exact .inr (UInt32.add_sub_cancel c.val 32).symm
  · exact .inl h

/-- A letter that no numeral has, not as a capital either, is the lower case of none of its
characters. -/
theorem toLower_ne_of_isNumeric {c lower capital : Char} (h : isNumeric c = true)
    (hlower : isNumeric lower = false) (hcapital : isNumeric capital = false)
    (hval : capital.val = lower.val - 32) : c.toLower ≠ lower := by
  intro hc
  rcases eq_or_val_of_toLower hc with rfl | hcval
  · rw [hlower] at h
    cases h
  · rw [Char.ext (hcval.trans hval.symm), hcapital] at h
    cases h

/-- A numeral has no padding and no underscores, and it is none of the words for a number. So it is
read as a numeral. -/
theorem ofText?_eq_ofNumeral? {text : String} (h : isNumeral text.toList = true) :
    Reading.ofText? text = Reading.ofNumeral? text.toList := by
  have hnumeric := numeric_of_isNumeral h
  have hword : ∀ c ∈ (takeSign text.toList).2.map Char.toLower, c ≠ 'i' ∧ c ≠ 'n' := by
    intro c hc
    obtain ⟨d, hd, rfl⟩ := List.mem_map.mp hc
    have hdigit : isNumeric d = true := by
      refine hnumeric d ?_
      rw [← takeSign_append text.toList]
      exact List.mem_append_right _ hd
    have hi : 'I'.val = 'i'.val - 32 := rfl
    have hn : 'N'.val = 'n'.val - 32 := rfl
    exact ⟨toLower_ne_of_isNumeric hdigit (by decide) (by decide) hi,
      toLower_ne_of_isNumeric hdigit (by decide) (by decide) hn⟩
  unfold Reading.ofText?
  rw [unpad_of_numeric hnumeric]
  simp only
  split
  · rename_i hinfinity
    simp only [infinityWords, List.contains_cons, List.contains_nil, Bool.or_false,
      Bool.or_eq_true, beq_iff_eq] at hinfinity
    exfalso
    rcases hinfinity with heq | heq
    · exact (hword 'i' (heq ▸ by decide)).1 rfl
    · exact (hword 'i' (heq ▸ by decide)).1 rfl
  · split
    · rename_i heq
      exact absurd rfl (hword 'n' (heq ▸ by decide)).2
    · rw [joinDigits?_of_numeric hnumeric, Option.bind_some]

/-- A numeral is read as a decimal. -/
theorem decimal_of_isNumeral {text : String} (h : isNumeral text.toList = true) :
    ∃ negative digits exponent,
      Reading.ofText? text = some (.decimal negative digits exponent) := by
  rw [ofText?_eq_ofNumeral? h]
  unfold isNumeral at h
  split at h
  · rename_i numeral hscan
    exact ofNumeral?_of_scan hscan
  · cases h

/-- A numeral is read as a number. -/
theorem ofText?_of_isNumeral {text : String} (h : isNumeral text.toList = true) :
    ∃ reading, Reading.ofText? text = some reading := by
  obtain ⟨_, _, _, hreading⟩ := decimal_of_isNumeral h
  exact ⟨_, hreading⟩

/-! ## Signs -/

/-- The characters that are signs. -/
def isSign (c : Char) : Bool := c == '+' || c == '-'

section Signed

variable {c : Char} {cs : List Char}

theorem isSign_iff : isSign c = true ↔ c = '+' ∨ c = '-' := by
  simp [isSign]

theorem takeSign_cons (hc : isSign c = true) (cs : List Char) : takeSign (c :: cs) = ([c], cs) := by
  rcases isSign_iff.mp hc with rfl | rfl <;> rfl

theorem isNumeral_cons (hc : isSign c = true) (hplain : takeSign cs = ([], cs)) :
    isNumeral (c :: cs) = isNumeral cs := by
  unfold isNumeral scan
  rw [takeSign_cons hc, hplain]
  simp only
  cases takeMantissa? cs with
  | none => rfl
  | some split =>
    simp only
    split
    · rename_i h
      simp only [Option.some.injEq, Prod.mk.injEq] at h
      rw [h.2]
    · rename_i h
      split
      · rename_i h'
        simp only [Option.some.injEq, Prod.mk.injEq] at h'
        exact absurd (by rw [h'.2]) (h _)
      · rfl

theorem ofNumeral?_cons (hc : isSign c = true) (hplain : takeSign cs = ([], cs))
    (hnumeral : isNumeral cs = true) :
    ∃ digits exponent, Reading.ofNumeral? cs = some (.decimal false digits exponent) ∧
      Reading.ofNumeral? (c :: cs) = some (.decimal (c == '-') digits exponent) := by
  have hsign : ([c] == ['-']) = (c == '-') := by simp
  unfold isNumeral scan at hnumeral
  unfold Reading.ofNumeral?
  rw [takeSign_cons hc]
  rw [hplain] at hnumeral ⊢
  simp only [hsign] at hnumeral ⊢
  cases hmantissa : takeMantissa? cs with
  | none => simp [hmantissa] at hnumeral
  | some split =>
    obtain ⟨mantissa, rest⟩ := split
    simp only [hmantissa] at hnumeral ⊢
    split at hnumeral
    · rename_i h
      simp only [Option.some.injEq, Prod.mk.injEq] at h
      have hend : takeExponent rest = ((takeExponent rest).1, []) := by rw [← h.2]
      rw [hend]
      exact ⟨_, _, rfl, rfl⟩
    · cases hnumeral

/-- A numeral with a sign in front is read with that sign. -/
theorem ofText?_signed {text signed : String} (hc : isSign c = true)
    (hsigned : signed.toList = c :: text.toList) (hplain : takeSign text.toList = ([], text.toList))
    (hnumeral : isNumeral text.toList = true) :
    ∃ reading : Bool → Reading, Reading.ofText? text = some (reading false) ∧
      Reading.ofText? signed = some (reading (c == '-')) ∧
      ((∃ digits exponent, reading = fun negative => .decimal negative digits exponent) ∨
        reading = .infinite ∨ reading = fun _ => .notANumber) := by
  have hnumeric := numeric_of_isNumeral hnumeral
  have hnumeric' : ∀ d ∈ c :: text.toList, isNumeric d = true :=
    numeric_of_isNumeral ((isNumeral_cons hc hplain).trans hnumeral)
  have hsign : ([c] == ['-']) = (c == '-') := by simp
  unfold Reading.ofText?
  rw [hsigned, unpad_of_numeric hnumeric, unpad_of_numeric hnumeric']
  simp only [takeSign_cons hc, hplain, hsign]
  split
  · exact ⟨.infinite, rfl, rfl, .inr (.inl rfl)⟩
  · split
    · exact ⟨fun _ => .notANumber, rfl, rfl, .inr (.inr rfl)⟩
    · rw [joinDigits?_of_numeric hnumeric, joinDigits?_of_numeric hnumeric']
      obtain ⟨digits, exponent, hread, hread'⟩ := ofNumeral?_cons hc hplain hnumeral
      exact ⟨fun negative => .decimal negative digits exponent, hread, hread',
        .inl ⟨digits, exponent, rfl⟩⟩

end Signed

/-! ## Signs of readings -/

/-- Whether a text starts with a minus. -/
def hasMinus (cs : List Char) : Bool := cs.head? == some '-'

theorem takeSign_eq_minus (cs : List Char) : ((takeSign cs).1 == ['-']) = hasMinus cs := by
  fun_cases takeSign cs with
  | case1 rest => rfl
  | case2 rest => rfl
  | case3 _ hplus hminus =>
    cases cs with
    | nil => rfl
    | cons c cs =>
      have hc : c ≠ '-' := fun hc => hminus cs (hc ▸ rfl)
      simp [hasMinus, hc]

theorem sign_of_ofNumeral? {cs : List Char} {negative : Bool} {digits : Nat} {exponent : Int}
    (h : Reading.ofNumeral? cs = some (.decimal negative digits exponent)) :
    negative = hasMinus cs := by
  unfold Reading.ofNumeral? at h
  simp only at h
  split at h
  · cases h
  · split at h
    · cases h
      exact takeSign_eq_minus cs
    · cases h

/-- A numeral is read with its sign. -/
theorem sign_of_ofText? {text : String} (hnumeral : isNumeral text.toList = true)
    {negative : Bool} {digits : Nat} {exponent : Int}
    (h : Reading.ofText? text = some (.decimal negative digits exponent)) :
    negative = hasMinus text.toList := by
  have hnumeric := numeric_of_isNumeral hnumeral
  unfold Reading.ofText? at h
  rw [unpad_of_numeric hnumeric] at h
  simp only at h
  split at h
  · cases h
  · split at h
    · cases h
    · rw [joinDigits?_of_numeric hnumeric] at h
      exact sign_of_ofNumeral? h

end UnitCalc.Number.Numeral
