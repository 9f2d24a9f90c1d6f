import UnitCalc.Catalog.Record
import UnitCalc.Proofs.Number.Scanning
import UnitCalc.Proofs.Quantity.UnitsLayout

/-!
# Reading units back

The text of units with whole exponents says what the exponents are, if the symbols are distinct
words. A factor is a run of letters and then a run of raised digits, a dot stands between two
factors, and a slash ends the numerator. So the text has one reading: a run ends where another
kind of character follows, and the factors are read off one after the other.
-/

namespace UnitCalc

namespace Text

/-- A text is cut in one way behind a run of characters of a kind. -/
theorem append_inj_of_span {kind : Char → Bool} {word word' rest rest' : List Char}
    (hword : ∀ c ∈ word, kind c = true) (hword' : ∀ c ∈ word', kind c = true)
    (hrest : ∀ c ∈ rest.head?, kind c = false) (hrest' : ∀ c ∈ rest'.head?, kind c = false)
    (h : word ++ rest = word' ++ rest') : word = word' ∧ rest = rest' := by
  obtain ⟨htake, hdrop⟩ := span_eq hword hrest
  obtain ⟨htake', hdrop'⟩ := span_eq hword' hrest'
  exact ⟨htake.symm.trans ((congrArg _ h).trans htake'),
    hdrop.symm.trans ((congrArg _ h).trans hdrop')⟩

end Text

namespace Quantity

open UnitCalc.Text

/-! ## Powers -/

/-- The raised digits. -/
def raisedDigits : List Char := "⁰¹²³⁴⁵⁶⁷⁸⁹".toList

/-- The digit that a raised digit stands for. -/
def lowered (c : Char) : Char :=
  ("0123456789".toList.find? fun digit => superscript digit == c).getD c

theorem mem_digits {c : Char} (h : c.isDigit = true) : c ∈ "0123456789".toList := by
  simp only [Char.isDigit, Bool.and_eq_true, decide_eq_true_eq, UInt32.le_iff_toNat_le] at h
  obtain ⟨hlow, hhigh⟩ : 48 ≤ c.val.toNat ∧ c.val.toNat ≤ 57 := h
  have hc : c = Char.ofNat c.val.toNat := (Char.ofNat_toNat c).symm
  generalize c.val.toNat = code at *
  subst hc
  interval_cases code <;> decide

/-- Raising a digit gives a raised digit, and it can be undone. -/
theorem superscript_digits : "0123456789".toList.all
    (fun c => lowered (superscript c) == c && raisedDigits.contains (superscript c)) = true := by
  decide +kernel

theorem lowered_superscript {c : Char} (h : c.isDigit = true) : lowered (superscript c) = c := by
  have hdigit := List.all_eq_true.mp superscript_digits c (mem_digits h)
  exact beq_iff_eq.mp (Bool.and_eq_true_iff.mp hdigit).1

theorem isRaised_superscript {c : Char} (h : c.isDigit = true) :
    raisedDigits.contains (superscript c) = true := by
  have hdigit := List.all_eq_true.mp superscript_digits c (mem_digits h)
  exact (Bool.and_eq_true_iff.mp hdigit).2

/-- The characters of an exponent: none if it is one. -/
def power (n : ℤ) : List Char :=
  if n = 1 then [] else (raisedText n).toList

theorem toList_factorText (symbol : String) (n : ℤ) :
    (factorText symbol n).toList = symbol.toList ++ power n := by
  unfold factorText power
  split
  · rw [List.append_nil]
  · rw [String.toList_append]

/-- A positive integer in superscripts is its digits, raised. -/
theorem toList_raisedText {n : ℤ} (h : 0 < n) :
    (raisedText n).toList = (Nat.toDigits 10 n.natAbs).map superscript := by
  rw [raisedText, Number.intText, if_neg (by omega), String.toList_ofList, String.toList_ofList]

theorem isRaised_of_mem_power {n : ℤ} (h : 0 < n) :
    ∀ c ∈ power n, raisedDigits.contains c = true := by
  intro c hc
  unfold power at hc
  split at hc
  · cases hc
  · rw [toList_raisedText h] at hc
    obtain ⟨digit, hdigit, rfl⟩ := List.mem_map.mp hc
    exact isRaised_superscript (Nat.isDigit_of_mem_toDigits (by decide) (by decide) hdigit)

/-- The digits of a number are read off its superscripts. -/
theorem map_lowered_raised (k : ℕ) :
    ((Nat.toDigits 10 k).map superscript).map lowered = Nat.toDigits 10 k := by
  rw [List.map_map]
  refine List.map_congr_left (fun c hc => ?_) |>.trans (List.map_id _)
  exact lowered_superscript (Nat.isDigit_of_mem_toDigits (by decide) (by decide) hc)

theorem eq_of_raised_eq {j k : ℕ}
    (h : (Nat.toDigits 10 j).map superscript = (Nat.toDigits 10 k).map superscript) : j = k := by
  have hdigits : Nat.toDigits 10 j = Nat.toDigits 10 k := by
    rw [← map_lowered_raised j, h, map_lowered_raised]
  calc
    j = Nat.ofDigitChars 10 (Nat.toDigits 10 j) 0 := Nat.ofDigitChars_ten_toDigits.symm
    _ = Nat.ofDigitChars 10 (Nat.toDigits 10 k) 0 := by rw [hdigits]
    _ = k := Nat.ofDigitChars_ten_toDigits

theorem power_eq_nil_iff {n : ℤ} (h : 0 < n) : power n = [] ↔ n = 1 := by
  unfold power
  split
  · simp [*]
  · simp [toList_raisedText h, Nat.toDigits_ne_nil, *]

theorem eq_of_power_eq {m n : ℤ} (hm : 0 < m) (hn : 0 < n) (h : power m = power n) : m = n := by
  by_cases hone : m = 1
  · have hnil := (power_eq_nil_iff hm).mpr hone
    rw [hone, (power_eq_nil_iff hn).mp (h ▸ hnil)]
  · have hone' : n ≠ 1 := fun hn' =>
      hone ((power_eq_nil_iff hm).mp (h.trans ((power_eq_nil_iff hn).mpr hn')))
    rw [power, power, if_neg hone, if_neg hone', toList_raisedText hm, toList_raisedText hn] at h
    have := eq_of_raised_eq h
    omega

/-! ## Factors -/

/-- The marks that stand around factors. -/
def marks : List Char := ['·', '/', '1']

/-- No raised digit and no mark is a letter, and no mark is a raised digit. -/
theorem kinds_apart : raisedDigits.all (fun c => !isLetter c) = true ∧
    marks.all (fun c => !isLetter c && !raisedDigits.contains c) = true := by
  decide +kernel

theorem isLetter_of_raised {c : Char} (h : raisedDigits.contains c = true) :
    isLetter c = false := by
  simpa using List.all_eq_true.mp kinds_apart.1 c (List.contains_iff_mem.mp h)

theorem isLetter_of_mem_marks {c : Char} (h : c ∈ marks) : isLetter c = false := by
  have hmark := List.all_eq_true.mp kinds_apart.2 c h
  simpa using (Bool.and_eq_true_iff.mp hmark).1

theorem isRaised_of_mem_marks {c : Char} (h : c ∈ marks) : raisedDigits.contains c = false := by
  have hmark := List.all_eq_true.mp kinds_apart.2 c h
  exact (Bool.not_eq_eq_eq_not).mp (Bool.and_eq_true_iff.mp hmark).2

/-- Behind a factor stands a mark or nothing. -/
def EndsFactor (rest : List Char) : Prop := ∀ c ∈ rest.head?, c ∈ marks

variable {symbol : Axis → String} {n n' : Axis → ℤ} {rest rest' : List Char}
  {axes axes' above above' below below' : List Axis}

theorem letters_of_isWord {word : String} (h : UnitRecord.isWord word = true) :
    word.toList ≠ [] ∧ ∀ c ∈ word.toList, isLetter c = true := by
  simpa [UnitRecord.isWord] using h

/-- A factor is read in one way, whatever stands behind it. -/
theorem factor_inj (hword : ∀ a, UnitRecord.isWord (symbol a) = true)
    (hdistinct : Function.Injective symbol) {a b : Axis} {m k : ℤ} (hm : 0 < m) (hk : 0 < k)
    (hrest : EndsFactor rest) (hrest' : EndsFactor rest')
    (h : (factorText (symbol a) m).toList ++ rest = (factorText (symbol b) k).toList ++ rest') :
    a = b ∧ m = k ∧ rest = rest' := by
  have hbehindSymbol {n : ℤ} {rest : List Char} (hn : 0 < n) (hrest : EndsFactor rest) :
      ∀ c ∈ (power n ++ rest).head?, isLetter c = false := by
    intro c hc
    rcases hpower : power n with _ | ⟨d, power'⟩
    · rw [hpower] at hc
      exact isLetter_of_mem_marks (hrest c hc)
    · rw [hpower] at hc
      obtain rfl : d = c := Option.some_inj.mp hc
      exact isLetter_of_raised (isRaised_of_mem_power hn d (hpower ▸ List.mem_cons_self))
  have hbehindPower {rest : List Char} (hrest : EndsFactor rest) :
      ∀ c ∈ rest.head?, raisedDigits.contains c = false :=
    fun c hc => isRaised_of_mem_marks (hrest c hc)
  rw [toList_factorText, toList_factorText, List.append_assoc, List.append_assoc] at h
  obtain ⟨hsymbols, hbehind⟩ := append_inj_of_span (letters_of_isWord (hword a)).2
    (letters_of_isWord (hword b)).2 (hbehindSymbol hm hrest) (hbehindSymbol hk hrest') h
  obtain ⟨hpowers, hrests⟩ := append_inj_of_span (isRaised_of_mem_power hm)
    (isRaised_of_mem_power hk) (hbehindPower hrest) (hbehindPower hrest') hbehind
  exact ⟨hdistinct (String.toList_inj.mp hsymbols), eq_of_power_eq hm hk hpowers, hrests⟩

/-! ## Products -/

/-- Some axes with their exponents and a dot in front of each. -/
def dotted (symbol : Axis → String) (n : Axis → ℤ) (axes : List Axis) : List Char :=
  axes.flatMap fun a => '·' :: (factorText (symbol a) (n a)).toList

theorem dotted_cons (symbol : Axis → String) (n : Axis → ℤ) (a : Axis) (axes : List Axis) :
    dotted symbol n (a :: axes) =
      '·' :: ((factorText (symbol a) (n a)).toList ++ dotted symbol n axes) := by
  rw [dotted, List.flatMap_cons, List.cons_append, dotted]

/-- A product has no dot in front of its first factor. -/
theorem dot_factorsText (symbol : Axis → String) (n : Axis → ℤ) (h : axes ≠ []) :
    '·' :: (factorsText symbol n axes).toList = dotted symbol n axes := by
  rw [factorsText, String.toList_intercalate, List.map_map]
  induction axes with
  | nil => exact absurd rfl h
  | cons a axes ih =>
    rw [dotted_cons, List.map_cons]
    cases axes with
    | nil => simp [dotted]
    | cons b axes =>
      rw [← ih (List.cons_ne_nil _ _), List.map_cons, List.intercalate_cons_cons]
      simp

/-- Behind a product stands a slash or nothing. -/
def EndsProduct (rest : List Char) : Prop := ∀ c ∈ rest.head?, c = '/'

theorem endsFactor_dotted (h : EndsProduct rest) : EndsFactor (dotted symbol n axes ++ rest) := by
  intro c hc
  cases axes with
  | nil =>
    obtain rfl : c = '/' := h c hc
    decide
  | cons a axes =>
    rw [dotted_cons] at hc
    obtain rfl : '·' = c := Option.some_inj.mp hc
    decide

/-- A product is read in one way, by induction on its factors. -/
theorem dotted_inj (hword : ∀ a, UnitRecord.isWord (symbol a) = true)
    (hdistinct : Function.Injective symbol) (hpos : ∀ a ∈ axes, 0 < n a)
    (hpos' : ∀ a ∈ axes', 0 < n' a) (hrest : EndsProduct rest) (hrest' : EndsProduct rest')
    (h : dotted symbol n axes ++ rest = dotted symbol n' axes' ++ rest') :
    axes = axes' ∧ (∀ a ∈ axes, n a = n' a) ∧ rest = rest' := by
  have hdot {axes : List Axis} {n : Axis → ℤ} {a : Axis} {rest rest' : List Char}
      (hrest : EndsProduct rest) : rest ≠ dotted symbol n (a :: axes) ++ rest' := by
    rintro rfl
    rw [dotted_cons] at hrest
    exact absurd (hrest '·' rfl) (by decide)
  induction axes generalizing axes' with
  | nil =>
    cases axes' with
    | nil => exact ⟨rfl, by simp, h⟩
    | cons b axes' => exact absurd h (hdot hrest)
  | cons a axes ih =>
    cases axes' with
    | nil => exact absurd h.symm (hdot hrest')
    | cons b axes' =>
      obtain ⟨ha, htail⟩ := List.forall_mem_cons.mp hpos
      obtain ⟨hb, htail'⟩ := List.forall_mem_cons.mp hpos'
      rw [dotted_cons, dotted_cons, List.cons_append, List.cons_append, List.append_assoc,
        List.append_assoc] at h
      obtain ⟨rfl, hexponent, hbehind⟩ := factor_inj hword hdistinct ha hb
        (endsFactor_dotted hrest) (endsFactor_dotted hrest') (List.tail_eq_of_cons_eq h)
      obtain ⟨rfl, hexponents, hrests⟩ := ih htail htail' hbehind
      exact ⟨rfl, List.forall_mem_cons.mpr ⟨hexponent, hexponents⟩, hrests⟩

/-! ## Fractions -/

/-- The numerator as it is shown: a one if only the denominator has factors. -/
def numerator (symbol : Axis → String) (n : Axis → ℤ) (above below : List Axis) : List Char :=
  if above = [] ∧ below ≠ [] then ['1'] else (factorsText symbol n above).toList

/-- The denominator with its slash, if it has factors. -/
def denominator (symbol : Axis → String) (n : Axis → ℤ) (below : List Axis) : List Char :=
  if below = [] then [] else '/' :: (factorsText symbol (fun a => -n a) below).toList

theorem toList_fractionText (symbol : Axis → String) (n : Axis → ℤ) (above below : List Axis) :
    (fractionText symbol n above below).toList =
      numerator symbol n above below ++ denominator symbol n below := by
  unfold fractionText numerator denominator
  by_cases hbelow : below = []
  · simp [hbelow]
  · by_cases habove : above = []
    · simp [habove, hbelow]
    · simp [habove, hbelow]

theorem endsProduct_denominator (symbol : Axis → String) (n : Axis → ℤ) (below : List Axis) :
    EndsProduct (denominator symbol n below) := by
  intro c hc
  unfold denominator at hc
  split at hc
  · cases hc
  · exact (Option.some_inj.mp hc).symm

theorem denominator_inj (hword : ∀ a, UnitRecord.isWord (symbol a) = true)
    (hdistinct : Function.Injective symbol) (hneg : ∀ a ∈ below, n a < 0)
    (hneg' : ∀ a ∈ below', n' a < 0)
    (h : denominator symbol n below = denominator symbol n' below') :
    below = below' ∧ ∀ a ∈ below, n a = n' a := by
  unfold denominator at h
  split at h <;> split at h
  · rename_i hnil hnil'
    subst hnil hnil'
    exact ⟨rfl, by simp⟩
  · cases h
  · cases h
  · rename_i hne hne'
    have hdotted : dotted symbol (fun a => -n a) below ++ [] =
        dotted symbol (fun a => -n' a) below' ++ [] := by
      rw [← dot_factorsText symbol _ hne, ← dot_factorsText symbol _ hne',
        List.tail_eq_of_cons_eq h]
    obtain ⟨hbelow, hexponents, _⟩ := dotted_inj hword hdistinct
      (fun a ha => Int.neg_pos_of_neg (hneg a ha)) (fun a ha => Int.neg_pos_of_neg (hneg' a ha))
      (by simp [EndsProduct]) (by simp [EndsProduct]) hdotted
    exact ⟨hbelow, fun a ha => Int.neg_inj.mp (hexponents a ha)⟩

/-- A text with something above the slash begins with a letter. -/
theorem letter_of_above (hword : ∀ a, UnitRecord.isWord (symbol a) = true) (habove : above ≠ [])
    (n : Axis → ℤ) (below : List Axis) :
    ∃ c ∈ (fractionText symbol n above below).toList.head?, isLetter c = true := by
  obtain ⟨a, axes, rfl⟩ := List.exists_cons_of_ne_nil habove
  obtain ⟨hne, hletters⟩ := letters_of_isWord (hword a)
  obtain ⟨c, cs, hsymbol⟩ := List.exists_cons_of_ne_nil hne
  have hdotted := dot_factorsText symbol n habove
  rw [dotted_cons, toList_factorText, hsymbol] at hdotted
  refine ⟨c, ?_, hletters c (hsymbol ▸ List.mem_cons_self)⟩
  rw [toList_fractionText, numerator, if_neg (by simp), List.tail_eq_of_cons_eq hdotted]
  rfl

/-- A text with nothing above the slash is empty or begins with a one. -/
theorem toList_fractionText_nil (symbol : Axis → String) (n : Axis → ℤ) (below : List Axis) :
    (fractionText symbol n [] below).toList =
      if below = [] then [] else '1' :: denominator symbol n below := by
  rw [toList_fractionText, numerator]
  by_cases hbelow : below = []
  · rw [if_neg (fun hand => hand.2 hbelow), if_pos hbelow, denominator, if_pos hbelow]
    rfl
  · rw [if_pos ⟨rfl, hbelow⟩, if_neg hbelow]
    rfl

theorem no_letter_of_not_above :
    ∀ c ∈ (fractionText symbol n [] below).toList.head?, isLetter c = false := by
  intro c hc
  rw [toList_fractionText_nil] at hc
  split at hc
  · cases hc
  · obtain rfl : '1' = c := Option.some_inj.mp hc
    exact isLetter_of_mem_marks (by decide)

theorem above_eq_nil_iff_of_eq (hword : ∀ a, UnitRecord.isWord (symbol a) = true)
    (h : fractionText symbol n above below = fractionText symbol n' above' below') :
    above = [] ↔ above' = [] := by
  have hone {n n' : Axis → ℤ} {above' below below' : List Axis}
      (h : fractionText symbol n [] below = fractionText symbol n' above' below') :
      above' = [] := by
    by_contra hne
    obtain ⟨c, hc, hletter⟩ := letter_of_above hword hne n' below'
    have hno := no_letter_of_not_above c (h ▸ hc)
    exact absurd (hletter.symm.trans hno) (by decide)
  constructor
  · rintro rfl
    exact hone h
  · rintro rfl
    exact hone h.symm

/-- Layouts that read alike have the same factors. -/
theorem fractionText_inj (hword : ∀ a, UnitRecord.isWord (symbol a) = true)
    (hdistinct : Function.Injective symbol) (hpos : ∀ a ∈ above, 0 < n a)
    (hpos' : ∀ a ∈ above', 0 < n' a) (hneg : ∀ a ∈ below, n a < 0)
    (hneg' : ∀ a ∈ below', n' a < 0)
    (h : fractionText symbol n above below = fractionText symbol n' above' below') :
    above = above' ∧ below = below' ∧ ∀ a, a ∈ above ∨ a ∈ below → n a = n' a := by
  have habove := above_eq_nil_iff_of_eq hword h
  have htext := congrArg String.toList h
  by_cases hnil : above = []
  · obtain rfl := hnil
    obtain rfl := habove.mp rfl
    have hdenominator : denominator symbol n below = denominator symbol n' below' := by
      rw [toList_fractionText_nil, toList_fractionText_nil] at htext
      split at htext <;> split at htext
      · simp [denominator, *]
      · cases htext
      · cases htext
      · exact List.tail_eq_of_cons_eq htext
    obtain ⟨hbelow, hexponents⟩ := denominator_inj hword hdistinct hneg hneg' hdenominator
    exact ⟨rfl, hbelow, by simpa using hexponents⟩
  · have hnil' : above' ≠ [] := fun hnil' => hnil (habove.mpr hnil')
    rw [toList_fractionText, toList_fractionText, numerator, numerator,
      if_neg (fun hand => hnil hand.1), if_neg (fun hand => hnil' hand.1)] at htext
    have hdotted : dotted symbol n above ++ denominator symbol n below =
        dotted symbol n' above' ++ denominator symbol n' below' := by
      rw [← dot_factorsText symbol n hnil, ← dot_factorsText symbol n' hnil', List.cons_append,
        List.cons_append, htext]
    obtain ⟨habove, hexponents, hdenominator⟩ := dotted_inj hword hdistinct hpos hpos'
      (endsProduct_denominator _ _ _) (endsProduct_denominator _ _ _) hdotted
    obtain ⟨hbelow, hexponents'⟩ := denominator_inj hword hdistinct hneg hneg' hdenominator
    exact ⟨habove, hbelow, fun a ha => ha.elim (hexponents a) (hexponents' a)⟩

/-- The exponents are those of the factors, and zero elsewhere. -/
theorem eq_of_fractionText_eq (hword : ∀ a, UnitRecord.isWord (symbol a) = true)
    (hdistinct : Function.Injective symbol) (hlayout : IsLayout n above below)
    (hlayout' : IsLayout n' above' below')
    (h : fractionText symbol n above below = fractionText symbol n' above' below') : n = n' := by
  obtain ⟨rfl, rfl, hexponents⟩ := fractionText_inj hword hdistinct
    (fun a => (hlayout.mem_above a).mp) (fun a => (hlayout'.mem_above a).mp)
    (fun a => (hlayout.mem_below a).mp) (fun a => (hlayout'.mem_below a).mp) h
  funext a
  have habove := (hlayout.mem_above a).symm.trans (hlayout'.mem_above a)
  have hbelow := (hlayout.mem_below a).symm.trans (hlayout'.mem_below a)
  by_cases hzero : n a = 0
  · omega
  · refine hexponents a ?_
    rw [hlayout.mem_above, hlayout.mem_below]
    omega

theorem isLayout_zero : IsLayout (fun _ => 0) [] [] where
  mem_above _ := by simp
  mem_below _ := by simp
  nodup_above := .nil
  nodup_below := .nil
  sorted_above := .nil
  sorted_below := .nil

/-- Only the text without factors is empty. -/
theorem fractionText_eq_empty_iff (hword : ∀ a, UnitRecord.isWord (symbol a) = true)
    (hdistinct : Function.Injective symbol) (hlayout : IsLayout n above below) :
    fractionText symbol n above below = "" ↔ ∀ a, n a = 0 := by
  constructor
  · intro hempty
    exact congrFun (eq_of_fractionText_eq hword hdistinct hlayout isLayout_zero hempty)
  · intro hzero
    have habove : above = [] := List.eq_nil_iff_forall_not_mem.mpr fun a ha => by
      have hpos := (hlayout.mem_above a).mp ha
      rw [hzero a] at hpos
      exact absurd hpos (Int.lt_irrefl 0)
    have hbelow : below = [] := List.eq_nil_iff_forall_not_mem.mpr fun a ha => by
      have hneg := (hlayout.mem_below a).mp ha
      rw [hzero a] at hneg
      exact absurd hneg (Int.lt_irrefl 0)
    rw [habove, hbelow]
    rfl

/-! ## Units -/

/-- The text of units lists each axis with an exponent once, in order, and it is empty for plain
numbers only. Different dimensions never read alike. -/
theorem unitsText_exact (units : Context Float)
    (hword : ∀ a, UnitRecord.isWord (units.get a).symbol = true)
    (hdistinct : Function.Injective fun a => (units.get a).symbol) :
    (∀ (dim : Dimension Float) (n : Axis → ℤ), HasExponents dim n →
      (∃ above below, IsLayout n above below ∧
        unitsText dim units = fractionText (fun a => (units.get a).symbol) n above below) ∧
      (unitsText dim units = "" ↔ ∀ a, n a = 0)) ∧
    ∀ (dim dim' : Dimension Float) (n n' : Axis → ℤ), HasExponents dim n → HasExponents dim' n' →
      unitsText dim units = unitsText dim' units → n = n' ∧ dim.eq dim' = true := by
  refine ⟨fun dim n hn => ?_, fun dim dim' n n' hn hn' htext => ?_⟩
  · obtain ⟨above, below, hlayout, htext⟩ := unitsText_eq_fractionText hn units
    refine ⟨⟨above, below, hlayout, htext⟩, ?_⟩
    rw [htext]
    exact fractionText_eq_empty_iff hword hdistinct hlayout
  · obtain ⟨above, below, hlayout, habove⟩ := unitsText_eq_fractionText hn units
    obtain ⟨above', below', hlayout', habove'⟩ := unitsText_eq_fractionText hn' units
    have hexponents : n = n' := eq_of_fractionText_eq hword hdistinct hlayout hlayout'
      (habove.symm.trans (htext.trans habove'))
    refine ⟨hexponents, Dimension.eq_iff.mpr fun a => ?_⟩
    exact (Number.eq_iff_of_toInt? (hn a) (hn' a)).mpr (congrFun hexponents a)

/-- The exponents of an acceleration. -/
def accelerationExponents : Axis → ℤ
  | .length => 1
  | .mass => 0
  | .time => -2

/-- An acceleration in SI units is shown with its layout, and so is one with a negative zero,
which is the same dimension. -/
theorem unitsText_acceleration :
    (∃ above below, IsLayout accelerationExponents above below ∧
      unitsText (.ofInts 1 0 (-2)) (.si : Context Float) =
        fractionText (fun a => ((.si : Context Float).get a).symbol) accelerationExponents
          above below) ∧
    unitsText (.ofInts 1 0 (-2)) (.si : Context Float) ≠ "" ∧
    Dimension.eq (K := Float) ⟨Scalar.ofInt 1, Scalar.neg Scalar.zero, Scalar.ofInt (-2)⟩
      (.ofInts 1 0 (-2)) = true := by
  have hword : ∀ a, UnitRecord.isWord ((.si : Context Float).get a).symbol = true := by
    intro a
    cases a <;> decide +kernel
  have hdistinct : Function.Injective fun a => ((.si : Context Float).get a).symbol := by
    intro a b h
    cases a <;> cases b <;> first | rfl | exact absurd h (by decide +kernel)
  have hexponents : HasExponents (.ofInts 1 0 (-2)) accelerationExponents := by
    intro a
    cases a <;> decide +kernel
  have hexponents' : HasExponents ⟨Scalar.ofInt 1, Scalar.neg Scalar.zero, Scalar.ofInt (-2)⟩
      accelerationExponents := by
    intro a
    cases a <;> decide +kernel
  have htext : unitsText (K := Float) ⟨Scalar.ofInt 1, Scalar.neg Scalar.zero, Scalar.ofInt (-2)⟩
      .si = unitsText (K := Float) (.ofInts 1 0 (-2)) .si := by
    decide +kernel
  obtain ⟨hlayout, hread⟩ := unitsText_exact .si hword hdistinct
  obtain ⟨hshown, hempty⟩ := hlayout _ _ hexponents
  refine ⟨hshown, fun h => ?_, (hread _ _ _ _ hexponents' hexponents htext).2⟩
  exact absurd (hempty.mp h .length) (by decide)

end Quantity

end UnitCalc
