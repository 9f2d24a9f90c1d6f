import UnitCalc.Calculator
import UnitCalc.Proofs.Evaluator.ScaledPower
import UnitCalc.Proofs.Lexeme.Spelling
import UnitCalc.Proofs.Number.Value
import UnitCalc.Proofs.Registry.Matching
import UnitCalc.Proofs.Registry.NormalSpelling

/-!
# One of each spelling

Where an expression can use a spelling, a one in front of it is calculated to exactly one of the
unit that is bound to the spelling: the spelling is the whole lexeme, it is its own normal form,
and the product with one changes no value.
-/

namespace UnitCalc

open UnitCalc.Expr UnitCalc.Expr.Grammar UnitCalc.Number UnitCalc.Number.Numeral UnitCalc.Text

/-! ## One of a unit -/

section Quantities

variable {records : List (UnitRecord Float)} {r : Registry Float} {u : Unit Float} {key : String}

/-- One of a unit has a finite value. -/
theorem isFinite_value_quantity (hr : Registry.ofRecords records = .ok r)
    (hu : r.find? key = some u) : u.quantity.value.isFinite = true := by
  obtain ⟨record, _, rfl, hvalid⟩ := Registry.exists_record_of_find? hr hu
  obtain ⟨_, hfinite⟩ := validFactor_iff.mp hvalid
  unfold Unit.quantity
  split
  · exact isFinite_ofInt (n := 1) (by decide)
  · exact hfinite

theorem scale_one {q : Quantity Float} (h : q.value.isFinite = true) :
    q.scale (Scalar.ofDecimal 1 0) = .ok q := by
  have hvalue : Scalar.mul q.value (Scalar.ofDecimal 1 0) = q.value := mul_one_eq h
  rw [Quantity.scale, hvalue, Quantity.finite_eq_ok_iff]
  exact ⟨h, rfl⟩

theorem numeralValue_one : numeralValue "1" = .ok (Scalar.ofDecimal 1 0 : Float) := by
  have hreading : Reading.ofText? "1" = some (.decimal false 1 0) := by decide
  have hfinite : (Scalar.ofDecimal 1 0 : Float).isFinite = true := by decide +kernel
  rw [numeralValue, hreading]
  exact if_pos hfinite

theorem derives_unit {token : Token} (h : token.terminal = .unit) :
    Derives .units [token] (.node .unit [.leaf .unit token.text]) := by
  have hlone := Derives.lone (c := .unitName) (p := .unit) (by decide) h
  have hoperand : operand? token = some (.leaf .unit token.text) := by simp [operand?, h]
  rw [hoperand] at hlone
  exact .promoted (by decide) (.promoted (c := .unitFactor) (by decide) hlone)

/-- A one in front of a spelling is one of its unit. -/
theorem calculate_one (hr : Registry.ofRecords records = .ok r) (hu : r.find? key = some u)
    {text : String} (hscan : Lexeme.scan r text = [⟨"1", 0⟩, ⟨key, 2⟩])
    (hunit : Terminal.ofText? r key = some .unit) : calculate r text = .ok u.quantity := by
  have hdigit : isNumeral (Lexeme.mk "1" 0).text.toList = true := by decide
  obtain ⟨l, hl, hltext, hwritten⟩ := exists_literal (r := r) hdigit
  have hterminal : (Token.ofLexeme r ⟨key, 2⟩).terminal = .unit := by
    show (Terminal.ofText? r key).getD .unknown = _
    rw [hunit]
    rfl
  have hparse : UnitCalc.parse r text = .ok (l.quantity (.node .unit [.leaf .unit key])) := by
    rw [parse_text_eq_ok_iff, Token.scan, hscan]
    exact parse_literal_units hl (derives_unit hterminal)
  have hvalue : plainEvaluate r (.node .unit [.leaf .unit key]) = .ok u.quantity := by
    rw [plainEvaluate_one (by simp), plainEvaluate, leafValue, if_pos rfl, Registry.quantity?, hu]
    rfl
  have hplain : (Quantity.ofValue (Scalar.ofDecimal 1 0 : Float)).isDimensionless = true :=
    isDimensionless_ofValue (Platform.plainLaws Platform.native) _
  rw [calculate, hparse]
  show evaluate r (l.quantity _) = _
  rw [evaluate_eq_plainEvaluate (by simp [Literal.quantity]), Literal.quantity,
    plainEvaluate_attach, hvalue, plainEvaluate_literal hwritten.terminal_ne, hltext,
    numeralValue_one]
  show attach (.ofValue (Scalar.ofDecimal 1 0)) u.quantity = _
  rw [attach_eq_scale hplain]
  exact scale_one (isFinite_value_quantity hr hu)

end Quantities

/-! ## All spellings -/

/-- The lexemes and the terminal of the second one, as tokens. -/
theorem scan_one_unit_iff {K : Type} [Scalar K] {r : Registry K} {text key : String} :
    Token.scan r text = [⟨⟨"1", 0⟩, .number⟩, ⟨⟨key, 2⟩, .unit⟩] ↔
      Lexeme.scan r text = [⟨"1", 0⟩, ⟨key, 2⟩] ∧ Terminal.ofText? r key = some .unit := by
  have hlexemes : (Token.scan r text).map Token.toLexeme = Lexeme.scan r text := by
    rw [Token.scan, List.map_map]
    exact List.map_id _
  have hdigit : isNumeral (Lexeme.mk "1" 0).text.toList = true := by decide
  have hone : Token.ofLexeme r ⟨"1", 0⟩ = ⟨⟨"1", 0⟩, .number⟩ :=
    congrArg (Token.mk ⟨"1", 0⟩) (terminal_of_isNumeral r hdigit)
  constructor
  · intro h
    rw [h] at hlexemes
    refine ⟨hlexemes.symm, ?_⟩
    rw [Token.scan, ← hlexemes] at h
    have hterminal : (Terminal.ofText? r key).getD .unknown = .unit :=
      congrArg Token.terminal (List.cons.inj (List.cons.inj h).2).1
    cases hsome : Terminal.ofText? r key with
    | none =>
      rw [hsome] at hterminal
      cases hterminal
    | some x =>
      rw [hsome] at hterminal
      exact congrArg some hterminal
  · rintro ⟨hscan, hunit⟩
    have hkey : Token.ofLexeme r ⟨key, 2⟩ = ⟨⟨key, 2⟩, .unit⟩ :=
      congrArg (Token.mk ⟨key, 2⟩) (by rw [hunit]; rfl)
    rw [Token.scan, hscan, List.map_cons, List.map_singleton, hone, hkey]

/-- For every constructed registry and every spelling in it that is not empty: behind a one and a
space it is one lexeme, and a unit, exactly if it can be typed. Then the whole is calculated to one
of the unit that is bound to this spelling, and to no other. -/
theorem typeable_spellings (records : List (UnitRecord Float)) (r : Registry Float)
    (hr : Registry.ofRecords records = .ok r) (key : String) (hkey : key ∈ r.spellings)
    (hne : key ≠ "") :
    (Token.scan r ("1 " ++ key) = [⟨⟨"1", 0⟩, .number⟩, ⟨⟨key, 2⟩, .unit⟩] ↔ Typeable key) ∧
    ∃ u, (key, u) ∈ r.bindings ∧ r.get key = .ok u ∧
      (Typeable key → calculate r ("1 " ++ key) = .ok u.quantity) := by
  have hbuilt := Registry.built_of_ofRecords Registry.unitsEqualThemselves_float hr
  have hmem : key ∈ r.keys := Registry.mem_spellings_iff_mem_keys.mp hkey
  have hnormal := hbuilt.normalSpelling_key hmem
  obtain ⟨u, hu⟩ := hbuilt.exists_find?_key hmem
  have hhas : r.has key = true := Registry.has_iff.mpr ⟨u, hu⟩
  obtain ⟨c, cs, hchars⟩ : ∃ c cs, key.toList = c :: cs := by
    refine List.exists_cons_of_ne_nil fun hnil => hne ?_
    rw [← String.ofList_toList (s := key), hnil]
  have hblank : isBlank c = false := by
    have htrimmed := trimmed_normalSpelling key
    rw [hnormal] at htrimmed
    exact htrimmed.head c (by rw [hchars]; rfl)
  have hword : String.ofList (c :: cs) = key := by rw [← hchars, String.ofList_toList]
  have hscan := scan_one_eq_iff (r := r) hblank key hchars
  have hiff := takeNext_iff_typeable (hword.symm ▸ hmem) (hword.symm ▸ hhas)
  rw [hword, ← hscan] at hiff
  refine ⟨scan_one_unit_iff.trans hiff, u, ?_, Registry.get_eq_ok_iff.mpr hu, fun h => ?_⟩
  · have hbound := Registry.mem_of_find? hu
    rwa [hnormal] at hbound
  · obtain ⟨hlexemes, hunit⟩ := hiff.mpr h
    exact calculate_one hr hu hlexemes hunit

/-- Inches, with a sign and with a spelling of two words. -/
def inches : List (UnitRecord Float) :=
  [⟨.length, "inch", "in", "in", 0.0254, false, ["″", "zoll english"]⟩]

/-- The sign of the inch can be typed, and the two words cannot. -/
theorem typeable_inches : ∃ r u, Registry.ofRecords inches = .ok r ∧
    ("″" ∈ r.spellings ∧ "zoll english" ∈ r.spellings) ∧
    Token.scan r "1 ″" = [⟨⟨"1", 0⟩, .number⟩, ⟨⟨"″", 2⟩, .unit⟩] ∧
    Token.scan r "1 zoll english" ≠ [⟨⟨"1", 0⟩, .number⟩, ⟨⟨"zoll english", 2⟩, .unit⟩] ∧
    r.get "″" = .ok u ∧ calculate r "1 ″" = .ok u.quantity := by
  have hmem : (Registry.ofRecords inches).toOption.any (fun r =>
      "″" ∈ r.keys && "zoll english" ∈ r.keys) = true := by
    decide +kernel
  cases hr : Registry.ofRecords inches with
  | error f =>
    rw [hr] at hmem
    cases hmem
  | ok r =>
    rw [hr] at hmem
    simp only [Except.toOption, Option.any_some, Bool.and_eq_true, decide_eq_true_eq,
      ← Registry.mem_spellings_iff_mem_keys] at hmem
    obtain ⟨hsign, u, _, hu, hone⟩ := typeable_spellings inches r hr "″" hmem.1 (by decide)
    obtain ⟨hwords, _⟩ := typeable_spellings inches r hr "zoll english" hmem.2 (by decide)
    have htypeable : Typeable "″" := by decide +kernel
    have hnot : ¬ Typeable "zoll english" := by decide +kernel
    exact ⟨r, u, rfl, hmem, hsign.mpr htypeable, fun h => hnot (hwords.mp h), hu, hone htypeable⟩

end UnitCalc
