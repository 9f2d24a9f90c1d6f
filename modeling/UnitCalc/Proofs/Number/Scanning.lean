import UnitCalc.Proofs.Number.Reading

/-!
# Numerals with blanks behind

A scan takes the longest numeral that a text starts with. The same numeral is found again when
blanks or the end of the text come right behind it, and where no numeral is found none is found
then: what a scan looks at behind a numeral can only prolong it.
-/

namespace UnitCalc

namespace Text

/-- A text that is empty or starts with a blank. -/
def StartsBlank (cs : List Char) : Prop := ∀ c ∈ cs.head?, isBlank c = true

/-- A run of characters of a kind ends where another character or the end follows. -/
theorem span_eq {kind : Char → Bool} {word rest : List Char} (hword : ∀ c ∈ word, kind c = true)
    (hrest : ∀ c ∈ rest.head?, kind c = false) :
    (word ++ rest).takeWhile kind = word ∧ (word ++ rest).dropWhile kind = rest := by
  rw [List.takeWhile_append_of_pos hword, List.dropWhile_append_of_pos hword]
  cases rest with
  | nil => simp
  | cons c rest => simp [hrest c rfl]

end Text

namespace Number.Numeral

open UnitCalc.Text

/-! ## Characters -/

theorem isNumeric_of_isBlank {c : Char} (h : isBlank c = true) : isNumeric c = false :=
  Bool.eq_false_iff.mpr fun hc => by
    rw [isBlank_of_isNumeric hc] at h
    cases h

theorem isNumeric_head_of_startsBlank {cs : List Char} (h : StartsBlank cs) :
    ∀ c ∈ cs.head?, isNumeric c = false :=
  fun c hc => isNumeric_of_isBlank (h c hc)

theorem isDigit_of_not_isNumeric {c : Char} (h : isNumeric c = false) : isDigit c = false := by
  simp only [isNumeric, Bool.or_eq_false_iff] at h
  exact h.1

theorem ne_point_of_not_isNumeric {c : Char} (h : isNumeric c = false) : c ≠ '.' := by
  rintro rfl
  exact absurd h (by decide)

theorem isSign_of_isDigit {c : Char} (h : isDigit c = true) : isSign c = false := by
  refine Bool.eq_false_iff.mpr fun hc => ?_
  rcases isSign_iff.mp hc with rfl | rfl <;> exact absurd h (by decide)

/-! ## Pieces of numerals -/

section Pieces

variable {cs mantissa digits rest : List Char}

/-- A run of digits is split off as it is, where no digit follows. -/
theorem takeDigits_eq (hdigits : ∀ c ∈ digits, isDigit c = true)
    (hrest : ∀ c ∈ rest.head?, isDigit c = false) :
    takeDigits (digits ++ rest) = (digits, rest) := by
  obtain ⟨htake, hdrop⟩ := span_eq hdigits hrest
  rw [takeDigits, htake, hdrop]

theorem isDigit_of_mem_takeDigits (cs : List Char) : ∀ c ∈ (takeDigits cs).1, isDigit c = true :=
  fun c hc => List.all_eq_true.mp List.all_takeWhile c hc

theorem takeSign_of_head (h : ∀ c ∈ cs.head?, isSign c = false) : takeSign cs = ([], cs) := by
  fun_cases takeSign cs with
  | case1 => exact absurd (h '+' rfl) (by decide)
  | case2 => exact absurd (h '-' rfl) (by decide)
  | case3 => rfl

/-- A sign is split off as it is, where no other one follows. -/
theorem takeSign_eq (cs : List Char) (hrest : ∀ c ∈ rest.head?, isSign c = false) :
    takeSign ((takeSign cs).1 ++ rest) = ((takeSign cs).1, rest) := by
  fun_cases takeSign cs with
  | case1 => rfl
  | case2 => rfl
  | case3 => exact takeSign_of_head hrest

/-- Digits with at most one point, with a digit on one side of it. -/
inductive IsMantissa : List Char → Prop
  | whole {digits : List Char} (hdigits : ∀ c ∈ digits, isDigit c = true) (hne : digits ≠ []) :
      IsMantissa digits
  | point {whole places : List Char} (hwhole : ∀ c ∈ whole, isDigit c = true)
      (hplaces : ∀ c ∈ places, isDigit c = true) (hne : whole ≠ [] ∨ places ≠ []) :
      IsMantissa (whole ++ '.' :: places)

theorem isMantissa_of_takeMantissa? (h : takeMantissa? cs = some (mantissa, rest)) :
    IsMantissa mantissa := by
  have hnone : ∀ c ∈ ([] : List Char), isDigit c = true := by simp
  unfold takeMantissa? at h
  split at h
  case h_1 behind _ =>
    split at h
    case h_1 => cases h
    case h_2 places rest hne hplaces =>
      cases h
      have hall := isDigit_of_mem_takeDigits behind
      rw [hplaces] at hall
      exact .point hnone hall (.inr hne)
  case h_2 => cases h
  case h_3 whole behind hne hwhole =>
    cases h
    have hall := isDigit_of_mem_takeDigits cs
    rw [hwhole] at hall
    exact .point hall (isDigit_of_mem_takeDigits behind) (.inl fun hnil => hne hnil)
  case h_4 whole rest hne hnone hwhole =>
    cases h
    have hall := isDigit_of_mem_takeDigits cs
    rw [hwhole] at hall
    exact .whole hall fun hnil => hne hnil

/-- A mantissa is split off as it is, where neither a digit nor a point follows. -/
theorem IsMantissa.takeMantissa?_eq (h : IsMantissa mantissa)
    (hrest : ∀ c ∈ rest.head?, isDigit c = false ∧ c ≠ '.') :
    takeMantissa? (mantissa ++ rest) = some (mantissa, rest) := by
  have hdigit : ∀ c ∈ rest.head?, isDigit c = false := fun c hc => (hrest c hc).1
  have hpoint : isDigit '.' = false := by decide
  cases h with
  | whole hdigits hne =>
    rw [takeMantissa?, takeDigits_eq hdigits hdigit]
    split
    case h_1 h => cases h; exact absurd rfl hne
    case h_2 h => cases h; exact absurd rfl hne
    case h_3 h => cases h; exact absurd rfl (hrest '.' rfl).2
    case h_4 h => cases h; rfl
  | @point whole places hwhole hplaces hne =>
    rw [List.append_assoc, List.cons_append, takeMantissa?,
      takeDigits_eq hwhole (by simp [hpoint])]
    cases whole with
    | nil =>
      simp only [takeDigits_eq hplaces hdigit]
      split
      case h_1 h => cases h; simp at hne
      case h_2 h => cases h; rfl
    | cons d whole => simp only [takeDigits_eq hplaces hdigit]

theorem IsMantissa.head (h : IsMantissa mantissa) :
    ∃ c cs, mantissa = c :: cs ∧ isSign c = false := by
  cases h with
  | @whole digits hdigits hne =>
    obtain ⟨c, cs, rfl⟩ := List.exists_cons_of_ne_nil hne
    exact ⟨c, cs, rfl, isSign_of_isDigit (hdigits c List.mem_cons_self)⟩
  | @point whole places hwhole _ _ =>
    cases whole with
    | nil => exact ⟨'.', places, rfl, by decide⟩
    | cons c whole =>
      exact ⟨c, _, rfl, isSign_of_isDigit (hwhole c List.mem_cons_self)⟩

/-- An exponent starts with its letter. -/
theorem takeExponent_head (cs : List Char) :
    ∀ c ∈ (takeExponent cs).1.head?, c = 'e' ∨ c = 'E' := by
  unfold takeExponent
  split
  · simp
  · split
    · rename_i c _ hc
      simp only
      split <;> simp [hc]
    · simp

/-- An exponent is split off as it is, where blanks or the end follow. -/
theorem takeExponent_eq (cs : List Char) (hrest : StartsBlank rest) :
    takeExponent ((takeExponent cs).1 ++ rest) = ((takeExponent cs).1, rest) := by
  have hnumeric := isNumeric_head_of_startsBlank hrest
  have hnone : takeExponent rest = ([], rest) := by
    unfold takeExponent
    split
    · rfl
    · rename_i c _
      have hc := hnumeric c rfl
      split
      · rename_i he
        rcases he with rfl | rfl <;> exact absurd hc (by decide)
      · rfl
  fun_cases takeExponent cs with
  | case1 => exact hnone
  | case2 => exact hnone
  | case3 c behind he sign behind' hsign digits rest' hne hdigits =>
    have hall := isDigit_of_mem_takeDigits behind'
    rw [hdigits] at hall
    obtain ⟨d, ds, rfl⟩ := List.exists_cons_of_ne_nil hne
    have hd : isSign d = false := isSign_of_isDigit (hall d List.mem_cons_self)
    have hhead : ∀ c ∈ (d :: ds ++ rest).head?, isSign c = false := by simpa using hd
    have hsplit := takeSign_eq behind hhead
    rw [hsign] at hsplit
    have hstop := takeDigits_eq hall fun c hc => isDigit_of_not_isNumeric (hnumeric c hc)
    show takeExponent (c :: (sign ++ d :: ds ++ rest)) = _
    rw [takeExponent, if_pos he, List.append_assoc, hsplit]
    simp only [hstop]
  | case4 => exact hnone

end Pieces

/-! ## Numerals -/

section Numerals

variable {cs numeral rest behind : List Char}

/-- A numeral is found again where blanks or the end follow. -/
theorem scan_again (h : scan cs = some (numeral, rest)) (hbehind : StartsBlank behind) :
    scan (numeral ++ behind) = some (numeral, behind) := by
  unfold scan at h
  simp only at h
  split at h
  · cases h
  · rename_i mantissa rest' hmantissa
    cases h
    have hwritten := isMantissa_of_takeMantissa? hmantissa
    obtain ⟨c, cs', rfl, hc⟩ := hwritten.head
    have hexponent := takeExponent_eq rest' hbehind
    have hnext : ∀ d ∈ ((takeExponent rest').1 ++ behind).head?, isDigit d = false ∧ d ≠ '.' := by
      intro d hd
      cases he : (takeExponent rest').1 with
      | nil =>
        rw [he] at hd
        have hnumeric := isNumeric_head_of_startsBlank hbehind d hd
        exact ⟨isDigit_of_not_isNumeric hnumeric, ne_point_of_not_isNumeric hnumeric⟩
      | cons e es =>
        have hhead := takeExponent_head rest'
        rw [he] at hd hhead
        cases hd
        rcases hhead d rfl with rfl | rfl <;> decide
    have hmantissa' := hwritten.takeMantissa?_eq hnext
    have hhead : ∀ d ∈ (c :: cs' ++ ((takeExponent rest').1 ++ behind)).head?,
        isSign d = false := by
      simpa using hc
    have hsign := takeSign_eq cs hhead
    unfold scan
    rw [List.append_assoc, List.append_assoc, hsign]
    simp only [hmantissa', hexponent]

/-- Whether a mantissa begins a text: this is seen from two characters. -/
def beginsMantissa : List Char → Bool
  | [] => false
  | c :: cs => isDigit c || c == '.' && cs.head?.any isDigit

/-- Whether a numeral begins a text. -/
def beginsNumeral (cs : List Char) : Bool := beginsMantissa (takeSign cs).2

theorem isSome_takeMantissa? : (takeMantissa? cs).isSome = beginsMantissa cs := by
  cases cs with
  | nil => rfl
  | cons c cs =>
    unfold takeMantissa? beginsMantissa
    cases hc : isDigit c with
    | true =>
      simp only [takeDigits, List.takeWhile_cons, List.dropWhile_cons, hc, if_true]
      split <;> simp_all
    | false =>
      by_cases hpoint : c = '.'
      · subst hpoint
        cases cs with
        | nil => rfl
        | cons d ds => cases hd : isDigit d <;> simp [takeDigits, hc, hd]
      · simp [takeDigits, hc, hpoint]

theorem isSome_scan : (scan cs).isSome = beginsNumeral cs := by
  unfold scan beginsNumeral
  rw [← isSome_takeMantissa?]
  simp only
  cases takeMantissa? (takeSign cs).2 <;> rfl

theorem takeSign_append_right (hne : cs ≠ []) :
    takeSign (cs ++ rest) = ((takeSign cs).1, (takeSign cs).2 ++ rest) := by
  obtain ⟨c, cs, rfl⟩ := List.exists_cons_of_ne_nil hne
  cases hc : isSign c with
  | true => rw [List.cons_append, takeSign_cons hc, takeSign_cons hc]
  | false =>
    rw [takeSign_of_head (by simpa using hc), takeSign_of_head (by simpa using hc)]

theorem beginsMantissa_append (hbehind : StartsBlank behind)
    (h : beginsMantissa (cs ++ behind) = true) (rest : List Char) :
    beginsMantissa (cs ++ rest) = true := by
  -- Of the two characters that count, those that are blank or missing are not digits.
  match cs with
  | [] =>
    cases behind with
    | nil => cases h
    | cons c behind =>
      have hc := isNumeric_head_of_startsBlank hbehind c rfl
      simp [beginsMantissa, isDigit_of_not_isNumeric hc, ne_point_of_not_isNumeric hc] at h
  | [c] =>
    have hnone : behind.head?.any isDigit = false := by
      cases behind with
      | nil => rfl
      | cons d behind =>
        exact isDigit_of_not_isNumeric (isNumeric_head_of_startsBlank hbehind d rfl)
    have hc : isDigit c = true := by simpa [beginsMantissa, hnone] using h
    simp [beginsMantissa, hc]
  | _ :: _ :: _ => exact h

/-- Where a numeral begins with blanks or the end behind, one begins with anything behind. -/
theorem beginsNumeral_append (hne : cs ≠ []) (hbehind : StartsBlank behind)
    (h : beginsNumeral (cs ++ behind) = true) (rest : List Char) :
    beginsNumeral (cs ++ rest) = true := by
  unfold beginsNumeral at h ⊢
  rw [takeSign_append_right hne] at h ⊢
  exact beginsMantissa_append hbehind h rest

/-- Where no numeral is found, none is found when blanks or the end follow. -/
theorem scan_none_again (hne : cs ≠ []) (h : scan (cs ++ rest) = none)
    (hbehind : StartsBlank behind) : scan (cs ++ behind) = none := by
  cases hscan : scan (cs ++ behind) with
  | none => rfl
  | some split =>
    have hbegins : beginsNumeral (cs ++ behind) = true := by
      rw [← isSome_scan, hscan]
      rfl
    have hbegins' := beginsNumeral_append hne hbehind hbegins rest
    rw [← isSome_scan, h] at hbegins'
    cases hbegins'

end Numerals

end Number.Numeral

end UnitCalc
