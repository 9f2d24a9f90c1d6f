import UnitCalc.Proofs.Number.Scanning
import UnitCalc.Proofs.Text.Pattern

/-!
# The longest numeral

A numeral is described by a pattern: a sign or none, digits with at most one point, and an exponent
or none. A scan finds what the greedy matcher finds for this pattern. It gives back an `e`, the sign of
an exponent or nothing at all exactly as the matcher does, and what it finds is the longest numeral
that the text starts with.
-/

namespace UnitCalc.Number.Numeral

open UnitCalc.Text

/-! ## The pattern -/

/-- Whether a character is a decimal point. -/
def isPoint (c : Char) : Bool := c == '.'

/-- Whether a character marks an exponent. -/
def isExponentMark (c : Char) : Bool := c == 'e' || c == 'E'

/-- A sign, or none. -/
def signPattern : Pattern := .optional (.one isSign)

/-- At least one digit. -/
def digitsPattern : Pattern := .atLeastOne isDigit

/-- What stands behind the digits of a whole number: a point and digits, each or none. -/
def placesPattern : Pattern := .seq (.optional (.one isPoint)) (.many isDigit)

/-- Digits with at most one point, and a digit on one side of it. -/
def mantissaPattern : Pattern :=
  .either (.seq digitsPattern placesPattern) (.seq (.one isPoint) digitsPattern)

/-- A mark with a number behind it, or nothing. -/
def exponentPattern : Pattern :=
  .optional (.seq (.one isExponentMark) (.seq signPattern digitsPattern))

/-- The pattern of numerals: `sign? (d+ [.]? d* | [.] d+) ([eE] sign? d+)?`, where `d` is a digit of
any script. -/
def numeralPattern : Pattern := .seq signPattern (.seq mantissaPattern exponentPattern)

/-! ## A scan matches the pattern -/

section Match

variable {α : Type} {behind : List Char → Option α} {cs : List Char}

/-- A sign is taken where what is behind it cannot start with one. -/
theorem match?_signPattern (h : ∀ c rest, isSign c = true → behind (c :: rest) = none)
    (cs : List Char) : signPattern.match? behind cs = behind (takeSign cs).2 := by
  cases cs with
  | nil => rfl
  | cons c cs =>
    cases hc : isSign c with
    | true =>
      rw [takeSign_cons hc, signPattern, Pattern.match?, Pattern.match?, if_pos hc, h c cs hc,
        Option.or_none]
    | false =>
      rw [takeSign_of_head (by simpa using hc), signPattern, Pattern.match?, Pattern.match?,
        if_neg (by simp [hc]), Option.none_or]

/-- All digits are taken where what is behind them always succeeds. -/
theorem match?_digitsPattern (h : ∀ bs, (behind bs).isSome = true) (cs : List Char) :
    digitsPattern.match? behind cs =
      if (takeDigits cs).1 = [] then none else behind (takeDigits cs).2 := by
  cases cs with
  | nil => rfl
  | cons c cs =>
    rw [digitsPattern, Pattern.atLeastOne, Pattern.match?, Pattern.match?, takeDigits]
    cases hc : isDigit c with
    | true =>
      rw [if_pos rfl, Pattern.match?, Pattern.matchMany_eq (h _), List.takeWhile_cons_of_pos hc,
        List.dropWhile_cons_of_pos hc, if_neg (List.cons_ne_nil _ _)]
    | false =>
      rw [if_neg (by simp), List.takeWhile_cons_of_neg (by simp [hc]), if_pos rfl]

/-- No mantissa starts with a sign. -/
theorem not_mantissa_of_isSign {c : Char} (hc : isSign c = true) : isDigit c = false ∧ c ≠ '.' := by
  rcases isSign_iff.mp hc with rfl | rfl <;> decide

theorem match?_digitsPattern_of_sign {c : Char} (hc : isSign c = true) (rest : List Char) :
    digitsPattern.match? behind (c :: rest) = none := by
  obtain ⟨hdigit, _⟩ := not_mantissa_of_isSign hc
  rw [digitsPattern, Pattern.atLeastOne, Pattern.match?, Pattern.match?, if_neg (by simp [hdigit])]

theorem takeExponent_cons (c : Char) (rest : List Char) : takeExponent (c :: rest) =
    if isExponentMark c = true then
      if (takeDigits (takeSign rest).2).1 = [] then ([], c :: rest)
      else (c :: (takeSign rest).1 ++ (takeDigits (takeSign rest).2).1,
        (takeDigits (takeSign rest).2).2)
    else ([], c :: rest) := by
  have hmark : isExponentMark c = true ↔ c = 'e' ∨ c = 'E' := by simp [isExponentMark]
  simp only [hmark, takeExponent]
  split
  · split
    · rename_i hdigits
      rw [hdigits, if_pos rfl]
    · rename_i hne hdigits
      rw [hdigits, if_neg fun hnil => hne hnil]
  · rfl

/-- An exponent never fails, and takes what a scan takes. -/
theorem match?_exponentPattern (cs : List Char) :
    exponentPattern.match? some cs = some (takeExponent cs).2 := by
  cases cs with
  | nil => rfl
  | cons c rest =>
    have hsign : signPattern.match? (digitsPattern.match? some) rest =
        digitsPattern.match? some (takeSign rest).2 :=
      match?_signPattern (fun _ rest hc => match?_digitsPattern_of_sign hc rest) rest
    rw [exponentPattern, Pattern.match?, Pattern.match?, Pattern.match?, Pattern.match?, hsign,
      match?_digitsPattern fun _ => rfl, takeExponent_cons]
    split
    · split <;> rfl
    · rfl

theorem match?_point (rest : List Char) :
    (Pattern.one isPoint).match? behind ('.' :: rest) = behind rest :=
  if_pos (by decide)

theorem match?_point_of_ne (h : ∀ rest, cs = '.' :: rest → False) :
    (Pattern.one isPoint).match? behind cs = none := by
  cases cs with
  | nil => rfl
  | cons c rest =>
    refine if_neg fun hc => h rest ?_
    rw [isPoint, beq_iff_eq] at hc
    rw [hc]

/-- What stands behind the digits of a whole number never fails either. -/
theorem match?_placesPattern (h : ∀ bs, (behind bs).isSome = true) (cs : List Char) :
    placesPattern.match? behind cs =
      behind (match cs with
        | '.' :: rest => (takeDigits rest).2
        | _ => (takeDigits cs).2) := by
  rw [placesPattern, Pattern.match?, Pattern.match?]
  split
  · rw [match?_point, Pattern.match?, Pattern.matchMany_eq (h _), Option.or_of_isSome (h _),
      takeDigits]
  · rename_i hpoint
    rw [match?_point_of_ne hpoint, Option.none_or, Pattern.match?, Pattern.matchMany_eq (h _),
      takeDigits]

theorem takeDigits_takeDigits (cs : List Char) :
    (takeDigits (takeDigits cs).2).2 = (takeDigits cs).2 := by
  have hhead := List.head?_dropWhile_not isDigit cs
  unfold takeDigits
  cases hrest : cs.dropWhile isDigit with
  | nil => rfl
  | cons c rest =>
    rw [hrest] at hhead
    exact List.dropWhile_cons_of_neg (by simpa using hhead)

/-- A mantissa is what a scan takes, and none is found where a scan takes none. -/
theorem match?_mantissaPattern (h : ∀ bs, (behind bs).isSome = true) (cs : List Char) :
    mantissaPattern.match? behind cs = (takeMantissa? cs).bind fun split => behind split.2 := by
  have hplaces (bs : List Char) : (placesPattern.match? behind bs).isSome = true := by
    rw [match?_placesPattern h]
    exact h _
  have hagain := takeDigits_takeDigits cs
  have hsplit := takeDigits_append cs
  rw [mantissaPattern, Pattern.match?, Pattern.match?, Pattern.match?,
    match?_digitsPattern hplaces, match?_placesPattern h]
  fun_cases takeMantissa? cs with
  | case1 rest hdigits _ hnone =>
    rw [hdigits] at hsplit
    rw [hdigits, if_pos rfl, Option.none_or, ← hsplit, List.nil_append, match?_point,
      match?_digitsPattern h, hnone, if_pos rfl, Option.bind_none]
  | case2 rest hdigits places rest' hne hplaces =>
    rw [hdigits] at hsplit
    rw [hdigits, if_pos rfl, Option.none_or, ← hsplit, List.nil_append, match?_point,
      match?_digitsPattern h, hplaces, if_neg fun hnil => hne hnil, Option.bind_some]
  | case3 rest hpoint hdigits =>
    rw [hdigits] at hsplit
    rw [hdigits, if_pos rfl, Option.none_or, ← hsplit, List.nil_append, match?_point_of_ne hpoint,
      Option.bind_none]
  | case4 whole rest hne hdigits places rest' hplaces =>
    rw [hdigits, if_neg fun hnil => hne hnil, Option.or_of_isSome (h _), Option.bind_some]
    show behind (takeDigits rest).2 = _
    rw [hplaces]
  | case5 whole rest _ hne hpoint hdigits =>
    rw [hdigits] at hagain
    rw [hdigits, if_neg fun hnil => hne hnil, Option.or_of_isSome (h _), Option.bind_some]
    split
    · rename_i hrest
      exact (hpoint _ hrest).elim
    · rw [hagain]

/-- A scan leaves what the matcher leaves, and fails where it fails. -/
theorem match?_numeralPattern (cs : List Char) :
    numeralPattern.match? some cs = (scan cs).map (·.2) := by
  have hexponent (bs : List Char) : (exponentPattern.match? some bs).isSome = true := by
    rw [match?_exponentPattern]
    rfl
  have hsign (c : Char) (rest : List Char) (hc : isSign c = true) :
      mantissaPattern.match? (exponentPattern.match? some) (c :: rest) = none := by
    obtain ⟨hdigit, hpoint⟩ := not_mantissa_of_isSign hc
    have hnone : takeMantissa? (c :: rest) = none := by
      rw [← Option.not_isSome_iff_eq_none, isSome_takeMantissa?]
      simp [beginsMantissa, hdigit, hpoint]
    rw [match?_mantissaPattern hexponent, hnone, Option.bind_none]
  show signPattern.match? (mantissaPattern.match? (exponentPattern.match? some)) cs = _
  rw [match?_signPattern hsign, match?_mantissaPattern hexponent]
  unfold scan
  simp only
  cases takeMantissa? (takeSign cs).2 with
  | none => rfl
  | some split => exact match?_exponentPattern split.2

end Match

/-! ## The pieces that the pattern describes -/

section Pieces

variable {cs digits mantissa exponent rest : List Char}

theorem describes_digitsPattern_iff :
    digitsPattern.Describes cs ↔ cs ≠ [] ∧ ∀ c ∈ cs, isDigit c = true := by
  constructor
  · rintro ⟨_, ds, ⟨d, hd, rfl⟩, hds, rfl⟩
    exact ⟨List.cons_ne_nil d ds, List.forall_mem_cons.mpr ⟨hd, hds⟩⟩
  · rintro ⟨hne, hall⟩
    obtain ⟨d, ds, rfl⟩ := List.exists_cons_of_ne_nil hne
    obtain ⟨hd, hds⟩ := List.forall_mem_cons.mp hall
    exact ⟨[d], ds, ⟨d, hd, rfl⟩, hds, rfl⟩

theorem describes_mantissaPattern (h : mantissaPattern.Describes cs) : IsMantissa cs := by
  have hpoint {p : List Char} (hp : (Pattern.one isPoint).Describes p) : p = ['.'] := by
    obtain ⟨c, hc, rfl⟩ := hp
    rw [isPoint, beq_iff_eq] at hc
    rw [hc]
  rcases h with ⟨whole, _, hwhole, ⟨p, places, hp, hplaces, rfl⟩, rfl⟩ | ⟨p, places, hp, hplaces, rfl⟩
  · obtain ⟨hne, hwhole⟩ := describes_digitsPattern_iff.mp hwhole
    rcases hp with rfl | hp
    · exact .whole (List.forall_mem_append.mpr ⟨hwhole, hplaces⟩) (by simp [hne])
    · rw [hpoint hp]
      exact .point hwhole hplaces (.inl hne)
  · obtain ⟨hne, hplaces⟩ := describes_digitsPattern_iff.mp hplaces
    rw [hpoint hp, ← List.nil_append (['.'] ++ places)]
    exact .point (by simp) hplaces (.inr hne)

/-- A sign that the pattern describes is taken as it is, where no other one follows. -/
theorem takeSign_of_describes (h : signPattern.Describes cs)
    (hrest : ∀ c ∈ rest.head?, isSign c = false) : takeSign (cs ++ rest) = (cs, rest) := by
  rcases h with rfl | ⟨c, hc, rfl⟩
  · exact takeSign_of_head hrest
  · exact takeSign_cons hc rest

/-- Digits in front are taken with those that follow. -/
theorem takeDigits_append_of_digits (h : ∀ c ∈ digits, isDigit c = true) (rest : List Char) :
    takeDigits (digits ++ rest) = (digits ++ (takeDigits rest).1, (takeDigits rest).2) := by
  rw [takeDigits, takeDigits, List.takeWhile_append_of_pos h, List.dropWhile_append_of_pos h]

/-- Where a mantissa is in front, a mantissa is taken that is not shorter. -/
theorem IsMantissa.exists_takeMantissa? (h : IsMantissa mantissa) (rest : List Char) :
    ∃ longer rest', takeMantissa? (mantissa ++ rest) = some (longer, rest') ∧
      mantissa.length ≤ longer.length := by
  cases h with
  | whole hdigits hne =>
    have hsplit := takeDigits_append_of_digits hdigits rest
    fun_cases takeMantissa? (mantissa ++ rest) with
    | case1 _ h | case2 _ h | case3 _ _ h =>
      rw [h] at hsplit
      simp [hne] at hsplit
    | case4 whole _ _ h =>
      rw [h] at hsplit
      obtain ⟨rfl, _⟩ := Prod.mk.inj hsplit
      exact ⟨_, _, rfl, by simp⟩
    | case5 whole _ _ _ _ h =>
      rw [h] at hsplit
      obtain ⟨rfl, _⟩ := Prod.mk.inj hsplit
      exact ⟨_, _, rfl, by simp⟩
  | @point whole places hwhole hplaces hne =>
    have hpoint : ∀ c ∈ ('.' :: (places ++ rest)).head?, isDigit c = false := by
      simpa using (by decide : isDigit '.' = false)
    have hsplit := takeDigits_eq hwhole hpoint
    have hbehind := takeDigits_append_of_digits hplaces rest
    rw [List.append_assoc, List.cons_append, takeMantissa?, hsplit]
    cases whole with
    | nil =>
      obtain ⟨d, ds, rfl⟩ := List.exists_cons_of_ne_nil (hne.resolve_left fun hnil => hnil rfl)
      simp only [hbehind]
      exact ⟨_, _, rfl, by simp⟩
    | cons d ds =>
      simp only [hbehind]
      exact ⟨_, _, rfl, by simp⟩

/-- Where an exponent is in front, an exponent is taken that is not shorter. -/
theorem length_le_takeExponent (h : exponentPattern.Describes exponent) (rest : List Char) :
    exponent.length ≤ (takeExponent (exponent ++ rest)).1.length := by
  rcases h with rfl | ⟨_, _, ⟨c, hc, rfl⟩, ⟨sign, digits, hsign, hdigits, rfl⟩, rfl⟩
  · exact Nat.zero_le _
  · obtain ⟨hne, hdigits⟩ := describes_digitsPattern_iff.mp hdigits
    have hhead : ∀ c ∈ (digits ++ rest).head?, isSign c = false := by
      obtain ⟨d, ds, rfl⟩ := List.exists_cons_of_ne_nil hne
      simpa using isSign_of_isDigit (hdigits d List.mem_cons_self)
    have htake : (takeDigits (digits ++ rest)).1 ≠ [] := by
      rw [takeDigits_append_of_digits hdigits]
      simp [hne]
    rw [List.singleton_append, List.cons_append, List.append_assoc, takeExponent_cons, if_pos hc,
      takeSign_of_describes hsign hhead, if_neg htake, takeDigits_append_of_digits hdigits]
    simp

end Pieces

/-! ## The longest numeral -/

section Longest

variable {cs word numeral behind : List Char}

/-- What is scanned is described by the pattern. -/
theorem describes_of_scan (h : scan cs = some (numeral, behind)) :
    numeralPattern.Describes numeral := by
  have hmatch := match?_numeralPattern cs
  rw [h, Option.map_some] at hmatch
  obtain ⟨as, bs, hsplit, has, hbehind⟩ := Pattern.exists_of_match? hmatch
  obtain ⟨happend, _⟩ := scan_append h
  rw [Option.some.inj hbehind, ← happend] at hsplit
  rwa [List.append_cancel_right hsplit]

/-- Where a numeral is in front, a numeral is scanned that is not shorter. -/
theorem exists_scan (h : numeralPattern.Describes word) (rest : List Char) :
    ∃ numeral behind, scan (word ++ rest) = some (numeral, behind) ∧
      word.length ≤ numeral.length := by
  obtain ⟨sign, _, hsign, ⟨mantissa, exponent, hmantissa, hexponent, rfl⟩, rfl⟩ := h
  have hwritten := describes_mantissaPattern hmantissa
  obtain ⟨c, ds, hmantissa', hc⟩ := hwritten.head
  have hhead : ∀ d ∈ (mantissa ++ (exponent ++ rest)).head?, isSign d = false := by
    simpa [hmantissa'] using hc
  have htake : takeSign (sign ++ (mantissa ++ exponent) ++ rest) =
      (sign, mantissa ++ (exponent ++ rest)) := by
    rw [List.append_assoc, List.append_assoc, takeSign_of_describes hsign hhead]
  by_cases hends : ∀ d ∈ (exponent ++ rest).head?, isDigit d = false ∧ d ≠ '.'
  · simp only [scan, htake, hwritten.takeMantissa?_eq hends]
    refine ⟨_, _, rfl, ?_⟩
    have hlength := length_le_takeExponent hexponent rest
    simp only [List.length_append]
    omega
  · -- the mantissa goes on, so there is no exponent right behind it
    have hnone : exponent = [] := by
      rcases hexponent with rfl | ⟨_, _, ⟨d, hd, rfl⟩, _, rfl⟩
      · rfl
      · refine absurd ?_ hends
        have hmark : d = 'e' ∨ d = 'E' := by simpa [isExponentMark] using hd
        rcases hmark with rfl | rfl <;> simp <;> decide
    obtain ⟨longer, rest', hlonger, hlength⟩ := hwritten.exists_takeMantissa? (exponent ++ rest)
    simp only [scan, htake, hlonger]
    refine ⟨_, _, rfl, ?_⟩
    simp only [List.length_append, hnone, List.length_nil]
    omega

/-- A scan finds the longest numeral that the text starts with. -/
theorem isLongest_of_scan (h : scan cs = some (numeral, behind)) :
    numeralPattern.IsLongest cs numeral behind where
  append := (scan_append h).1
  describes := describes_of_scan h
  longest := by
    rintro word ⟨rest, rfl⟩ hword
    obtain ⟨numeral', behind', hscan, hlength⟩ := exists_scan hword rest
    rw [h] at hscan
    cases hscan
    exact hlength

theorem scan_eq_some_iff :
    scan cs = some (numeral, behind) ↔ numeralPattern.IsLongest cs numeral behind := by
  refine ⟨isLongest_of_scan, fun h => ?_⟩
  obtain ⟨numeral', behind', hscan, _⟩ := exists_scan h.describes behind
  rw [h.append] at hscan
  obtain ⟨rfl, rfl⟩ := h.unique (isLongest_of_scan hscan)
  exact hscan

/-- A scan finds nothing exactly where no numeral is in front. -/
theorem scan_eq_none_iff_forall :
    scan cs = none ↔ ∀ word, word <+: cs → ¬ numeralPattern.Describes word := by
  rw [← Pattern.match?_eq_none_iff, match?_numeralPattern, Option.map_eq_none_iff]

/-- A numeral is scanned whole. -/
theorem scan_of_describes (h : numeralPattern.Describes cs) : scan cs = some (cs, []) :=
  scan_eq_some_iff.mpr ⟨List.append_nil cs, h, fun _ hother _ => hother.length_le⟩

/-- The numerals are the texts that the pattern describes. -/
theorem isNumeral_iff : isNumeral cs = true ↔ numeralPattern.Describes cs := by
  constructor
  · intro h
    unfold isNumeral at h
    split at h
    · rename_i numeral hscan
      obtain ⟨happend, _⟩ := scan_append hscan
      rw [List.append_nil] at happend
      exact happend ▸ describes_of_scan hscan
    · cases h
  · intro h
    rw [isNumeral, scan_of_describes h]

end Longest

/-! ## What a numeral is read as -/

section Read

variable {cs mantissa rest : List Char}

/-- The decimal that a numeral writes: its digits before and behind the point are one integer, and the
number of those behind the point counts down the exponent. -/
inductive Writes : List Char → Reading → Prop
  | decimal {sign whole point places exponent : List Char} (hsign : signPattern.Describes sign)
      (hwhole : ∀ c ∈ whole, isDigit c = true) (hplaces : ∀ c ∈ places, isDigit c = true)
      (hpoint : point = ['.'] ∨ point = [] ∧ places = [])
      (hexponent : exponentPattern.Describes exponent) :
      Writes (sign ++ (whole ++ point ++ places) ++ exponent)
        (.decimal (sign == ['-']) (digitsValue (whole ++ places))
          (signedValue (exponent.drop 1) - places.length))

theorem describes_takeSign (cs : List Char) : signPattern.Describes (takeSign cs).1 := by
  fun_cases takeSign cs with
  | case1 => exact .inr ⟨'+', rfl, rfl⟩
  | case2 => exact .inr ⟨'-', rfl, rfl⟩
  | case3 => exact .inl rfl

theorem describes_takeExponent (cs : List Char) :
    exponentPattern.Describes (takeExponent cs).1 := by
  obtain ⟨as, bs, hsplit, has, hbehind⟩ := Pattern.exists_of_match? (match?_exponentPattern cs)
  rw [Option.some.inj hbehind] at hsplit
  have happend := takeExponent_append cs
  rw [List.append_cancel_right (happend.trans hsplit)]
  exact has

/-- The digits before and behind the point are what is before and behind the point. -/
theorem IsMantissa.exists_parts (h : IsMantissa mantissa) :
    ∃ point, (∀ c ∈ mantissa.takeWhile (· ≠ '.'), isDigit c = true) ∧
      (∀ c ∈ (mantissa.dropWhile (· ≠ '.')).drop 1, isDigit c = true) ∧
      (point = ['.'] ∨ point = [] ∧ (mantissa.dropWhile (· ≠ '.')).drop 1 = []) ∧
      mantissa = mantissa.takeWhile (· ≠ '.') ++ point ++ (mantissa.dropWhile (· ≠ '.')).drop 1 := by
  have hne {c : Char} (hc : isDigit c = true) : decide (c ≠ '.') = true := by
    rw [decide_eq_true_eq]
    rintro rfl
    exact absurd hc (by decide)
  cases h with
  | whole hdigits _ =>
    have hends : ∀ c ∈ ([] : List Char).head?, decide (c ≠ '.') = false := by simp
    obtain ⟨htake, hdrop⟩ := span_eq (fun c hc => hne (hdigits c hc)) hends
    rw [List.append_nil] at htake hdrop
    rw [htake, hdrop]
    exact ⟨[], hdigits, by simp, .inr ⟨rfl, rfl⟩, by simp⟩
  | @point whole places hwhole hplaces _ =>
    have hends : ∀ c ∈ ('.' :: places).head?, decide (c ≠ '.') = false := by simp
    obtain ⟨htake, hdrop⟩ := span_eq (fun c hc => hne (hwhole c hc)) hends
    rw [htake, hdrop]
    exact ⟨['.'], hwhole, hplaces, .inl rfl, by simp⟩

/-- A numeral is what is taken of it: a sign, a mantissa and an exponent. -/
theorem exists_pieces (h : isNumeral cs = true) : ∃ mantissa rest,
    takeMantissa? (takeSign cs).2 = some (mantissa, rest) ∧ (takeExponent rest).2 = [] ∧
      cs = (takeSign cs).1 ++ mantissa ++ (takeExponent rest).1 := by
  unfold isNumeral scan at h
  simp only at h
  cases hmantissa : takeMantissa? (takeSign cs).2 with
  | none => simp [hmantissa] at h
  | some split =>
    obtain ⟨mantissa, rest⟩ := split
    simp only [hmantissa] at h
    split at h
    · rename_i hend
      simp only [Option.some.injEq, Prod.mk.injEq] at hend
      obtain ⟨hsplit, _⟩ := takeMantissa?_append hmantissa
      have hlast := takeExponent_append rest
      rw [hend.2, List.append_nil] at hlast
      exact ⟨mantissa, rest, rfl, hend.2, by rw [List.append_assoc, hlast, hsplit, takeSign_append]⟩
    · cases h

/-- A numeral is read as the decimal that it writes. -/
theorem exists_writes {text : String} (h : isNumeral text.toList = true) :
    ∃ negative digits exponent, Writes text.toList (.decimal negative digits exponent) ∧
      Reading.ofText? text = some (.decimal negative digits exponent) := by
  obtain ⟨mantissa, rest, hmantissa, hend, htext⟩ := exists_pieces h
  obtain ⟨point, hwhole, hplaces, hpoint, hparts⟩ :=
    (isMantissa_of_takeMantissa? hmantissa).exists_parts
  have hexponent : takeExponent rest = ((takeExponent rest).1, []) := by rw [← hend]
  have hwrites := Writes.decimal (describes_takeSign text.toList) hwhole hplaces hpoint
    (describes_takeExponent rest)
  rw [← hparts, ← htext] at hwrites
  refine ⟨_, _, _, hwrites, ?_⟩
  rw [ofText?_eq_ofNumeral? h]
  simp only [Reading.ofNumeral?, hmantissa]
  rw [hexponent]

end Read

end UnitCalc.Number.Numeral
