import UnitCalc.Proofs.Evaluator.ScaledPower
import UnitCalc.Proofs.Lexeme.Spaced
import UnitCalc.Proofs.Number.LongestNumeral

/-!
# A numeral on its own

A text that is a numeral is one lexeme, since a scan finds the longest numeral and this is the whole
text. It is parsed in one way, and its value is the number that it is read as: a plain number, or a
fault if the number is too large.
-/

namespace UnitCalc

open UnitCalc.Expr UnitCalc.Expr.Grammar UnitCalc.Number UnitCalc.Number.Numeral UnitCalc.Text

section Parsing

variable {K : Type} {r : Registry K} {text : String}

/-- A numeral is one lexeme. -/
theorem scan_of_isNumeral (h : isNumeral text.toList = true) :
    Lexeme.scan r text = [⟨text, 0⟩] := by
  have hscan := scan_of_describes (isNumeral_iff.mp h)
  obtain ⟨c, cs, hchars⟩ := List.exists_cons_of_ne_nil (scan_append hscan).2
  have hblank : isBlank c = false := by
    refine isBlank_of_isNumeric (numeric_of_isNumeral h c ?_)
    rw [hchars]
    exact List.mem_cons_self
  have hdrop : text.toList.dropWhile isBlank = c :: cs := by
    rw [hchars, List.dropWhile_cons_of_neg (by simp [hblank])]
  have hnext : Lexeme.takeNext r false c cs = (text.toList, []) := by
    rw [Lexeme.takeNext, Lexeme.takeNumeral?_cons, if_neg (by simp), ← hchars, hscan]
  have htake : text.toList.takeWhile isBlank = [] := by
    rw [hchars, List.takeWhile_cons_of_neg (by simp [hblank])]
  have hfuel : text.toList.length = cs.length + 1 := by rw [hchars, List.length_cons]
  rw [Lexeme.scan, hfuel, Lexeme.scanFrom_succ hdrop hnext, htake, String.ofList_toList,
    Lexeme.scanFrom_of_blank (by simp)]
  rfl

/-- A literal on its own is parsed as this literal. -/
theorem parse_literal {t : Token} {l : Literal} (h : Literal.ofToken? t = some l) :
    Expr.parse [t] = .ok l.tree := by
  refine parse_eq_ok_iff.mpr ⟨.expression [] .empty (.behind (.literal l)), ?_, rfl⟩
  rw [State.start, State.run_cons (step_literal h _ _)]
  rfl

end Parsing

section Evaluation

variable {r : Registry Float} {text : String}

/-- A numeral stands for the decimal that it writes, where this is finite as a double. -/
theorem numeralValue_float (h : isNumeral text.toList = true) :
    ∃ reading, Writes text.toList reading ∧ ofText? text = some (ofReading reading) ∧
      numeralValue text = if (ofReading reading).isFinite = true then .ok (ofReading reading)
        else .error (.domain (.numeralTooLarge text)) := by
  obtain ⟨negative, digits, exponent, hwrites, hreading⟩ := exists_writes h
  refine ⟨_, hwrites, congrArg (Option.map ofReading) hreading, ?_⟩
  rw [numeralValue, hreading]
  rfl

/-- A numeral is parsed in one way, and its value is the number that it stands for. -/
theorem calculate_numeral (h : isNumeral text.toList = true) : ∃ tree,
    parse r text = .ok tree ∧ tree.readings = [tree] ∧
      calculate r text = (numeralValue text).map .ofValue := by
  have hlexeme : isNumeral (Lexeme.mk text 0).text.toList = true := h
  obtain ⟨l, hl, hltext, hwritten⟩ := exists_literal (r := r) hlexeme
  have hparse : parse r text = .ok l.tree := by
    rw [parse_text_eq_ok_iff, Token.scan, scan_of_isNumeral h]
    exact parse_literal hl
  refine ⟨l.tree, hparse, rfl, ?_⟩
  rw [calculate, hparse]
  show evaluate r l.tree = _
  rw [evaluate_eq_plainEvaluate rfl, plainEvaluate_literal hwritten.terminal_ne, hltext]

end Evaluation

/-- For the rest of a text at any position: a scan leaves what the greedy matcher leaves for the
pattern of numerals, what it finds is the longest beginning that the pattern describes, and it finds
nothing exactly if there is none. For every registry and every text that the pattern describes: the
text is one lexeme, it has one derivation tree, and it is calculated to the plain number that it
stands for, or to a fault of domain if this number is not finite. -/
theorem numerals_are_scanned_whole :
    (∀ cs : List Char,
      (Numeral.scan cs).map (·.2) = numeralPattern.match? some cs ∧
      (∀ word behind, Numeral.scan cs = some (word, behind) ↔
        numeralPattern.IsLongest cs word behind) ∧
      (Numeral.scan cs = none ↔ ∀ word, word <+: cs → ¬ numeralPattern.Describes word)) ∧
    ∀ (r : Registry Float) (text : String), numeralPattern.Describes text.toList →
      Lexeme.scan r text = [⟨text, 0⟩] ∧
      (∃ tree, parse r text = .ok tree ∧ tree.readings = [tree] ∧
        ∀ t, Derives .equation (Token.scan r text) t ↔ t = tree) ∧
      ∃ reading, Writes text.toList reading ∧ ofText? text = some (ofReading reading) ∧
        calculate r text =
          if (ofReading reading).isFinite = true then .ok ⟨ofReading reading, .zero, .si⟩
          else .error (.domain (.numeralTooLarge text)) := by
  refine ⟨fun cs => ⟨(match?_numeralPattern cs).symm, fun _ _ => scan_eq_some_iff,
    scan_eq_none_iff_forall⟩, ?_⟩
  intro r text htext
  have hnumeral := isNumeral_iff.mpr htext
  obtain ⟨tree, hparse, hone, hvalue⟩ := calculate_numeral (r := r) hnumeral
  obtain ⟨reading, hwrites, htake, hnumber⟩ := numeralValue_float hnumeral
  refine ⟨scan_of_isNumeral hnumeral, ⟨tree, hparse, hone, fun t => ?_⟩, reading, hwrites, htake, ?_⟩
  · rw [← mem_readings_of_parse (parse_text_eq_ok_iff.mp hparse) t, hone, List.mem_singleton]
  · rw [hvalue, hnumber]
    split <;> rfl

/-- A numeral with digits of two scripts, one that is too large, and one with an `e` behind it. -/
theorem calculate_loneNumerals :
    Numeral.scan "+.5e-m".toList = some ("+.5".toList, "e-m".toList) ∧
    Lexeme.scan (Registry.empty : Registry Float) "-1.e\u0662" = [⟨"-1.e\u0662", 0⟩] ∧
    calculate Registry.empty "-1.e\u0662" = .ok ⟨-Number.ofDecimal 1 2, .zero, .si⟩ ∧
    calculate (Registry.empty : Registry Float) "1e400" =
      .error (.domain (.numeralTooLarge "1e400")) := by
  obtain ⟨hscan, hwhole⟩ := numerals_are_scanned_whole
  have hlongest : numeralPattern.IsLongest "+.5e-m".toList "+.5".toList "e-m".toList :=
    scan_eq_some_iff.mp (by decide)
  have hhundred : ofText? "-1.e\u0662" = some (-Number.ofDecimal 1 2) :=
    congrArg (Option.map ofReading) (by decide : Reading.ofText? "-1.e\u0662" =
      some (.decimal true 1 2))
  have hlarge : ofText? "1e400" = some (Number.ofDecimal 1 400) :=
    congrArg (Option.map ofReading) (by decide : Reading.ofText? "1e400" =
      some (.decimal false 1 400))
  obtain ⟨hlexeme, _, _, _, hread, hvalue⟩ :=
    hwhole Registry.empty "-1.e\u0662" (isNumeral_iff.mp (by decide))
  obtain ⟨_, _, _, _, hread', hvalue'⟩ := hwhole Registry.empty "1e400" (isNumeral_iff.mp (by decide))
  rw [hhundred] at hread
  rw [hlarge] at hread'
  rw [← Option.some.inj hread, if_pos (by decide +kernel)] at hvalue
  rw [← Option.some.inj hread', if_neg (by decide +kernel)] at hvalue'
  exact ⟨((hscan _).2.1 _ _).mpr hlongest, hlexeme, hvalue, hvalue'⟩

end UnitCalc
