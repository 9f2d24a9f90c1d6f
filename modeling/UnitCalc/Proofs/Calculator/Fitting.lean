import UnitCalc.Proofs.Evaluator.Forest
import UnitCalc.Proofs.Evaluator.Invariant
import UnitCalc.Proofs.Parser.Language

/-!
# The parts of the calculator fit together

Lexemes are classified by one table, the grammar names productions in another, and the
evaluator has its own two: what a leaf can be, and which operands a production reduces. They
fit: a text that parses never meets a leaf without a value or a production that is not reduced
with the operands it has. Nothing is asked of the numbers, and nothing of the registry.
-/

namespace UnitCalc.Expr

variable {K : Type} [Scalar K]

/-! ## Trees that fit -/

/-- Whether a production is reduced for exactly `n` operands. -/
def Production.Takes (K : Type) [Scalar K] (p : Production) (n : Nat) : Prop :=
  ∀ qs : List (Quantity K),
    (∃ text, p.reduce qs = .error (.breakdown (.arity text))) ↔ qs.length ≠ n

mutual

/-- A tree in which every leaf is a unit of the registry or a numeral that can be read, every
production is reduced with as many operands as its node has, and every choice has readings. -/
def Fits (r : Registry K) : Tree → Prop
  | .leaf terminal text =>
    (terminal = .unit → ∃ q, r.quantity? text = some q) ∧
      (terminal ≠ .unit → ∃ reading, Number.Numeral.Reading.ofText? text = some reading)
  | .node p children =>
    (∀ name, p ≠ .other name) ∧ p.Takes K children.length ∧ AllFit r children
  | .choice trees => trees ≠ [] ∧ AllFit r trees

/-- Whether some trees all fit. -/
def AllFit (r : Registry K) : List Tree → Prop
  | [] => True
  | tree :: trees => Fits r tree ∧ AllFit r trees

end

/-! ## Reductions -/

/-- Whatever the operands are, their faults are those of arithmetic. -/
theorem trivialInvariant : Invariant (fun _ : Quantity K => True) where
  e := trivial
  pi := trivial
  neg _ _ := trivial
  abs _ _ := trivial
  apply _ _ _ _ _ := trivial
  same _ _ := trivial
  product _ _ _ := trivial
  quotient _ _ _ := trivial
  power _ _ := trivial

theorem Production.reduce_outcome {p : Production} {qs : List (Quantity K)}
    (h : p.arity? = some qs.length) : Outcome (fun _ => True) (p.reduce qs) :=
  trivialInvariant.reduce h fun _ _ => trivial

theorem Production.takes_of_arity {p : Production} {n : Nat} (h : p.arity? = some n) :
    p.Takes K n := by
  intro qs
  constructor
  · rintro ⟨text, htext⟩ rfl
    have houtcome := Production.reduce_outcome h
    rw [htext] at houtcome
    exact houtcome trivial
  · intro hne
    refine Production.reduce_of_arity_ne ?_
    rw [h]
    exact fun hlength => hne (Option.some.inj hlength).symm

section Trees

variable {r : Registry K}

/-! ## Leaves -/

/-- A fault that only rules out a reading is one of arithmetic. -/
theorem Readable.outcome {terminal : Terminal} {text : String} (h : Readable r terminal text) :
    Outcome (fun _ => True) (leafValue r terminal text) := by
  unfold Readable at h
  generalize leafValue r terminal text = x at h ⊢
  cases x with
  | ok q => trivial
  | error f =>
    rcases Fault.rulesOutReading_iff.mp (h f rfl) with ⟨cause, rfl⟩ | ⟨cause, rfl⟩
    · exact id
    · exact id

theorem Readable.exists_quantity {text : String} (h : Readable r .unit text) :
    ∃ q, r.quantity? text = some q := by
  cases hq : r.quantity? text with
  | some q => exact ⟨q, rfl⟩
  | none =>
    have hf := h (.unknownUnit text) (by simp [leafValue, hq])
    cases hf

theorem Readable.exists_reading {terminal : Terminal} (hterminal : terminal ≠ .unit)
    {text : String} (h : Readable r terminal text) :
    ∃ reading, Number.Numeral.Reading.ofText? text = some reading := by
  cases hreading : Number.Numeral.Reading.ofText? text with
  | some reading => exact ⟨reading, rfl⟩
  | none =>
    have hf := h (.badNumeral text) (by simp [leafValue, if_neg hterminal, numeralValue, hreading,
      Except.map])
    cases hf

/-! ## Well-formed trees -/

mutual

theorem fits_of_wellFormed : ∀ t : Tree, WellFormed r t → Fits r t
  | .leaf terminal text, h => by
    refine ⟨?_, fun hterminal => Readable.exists_reading hterminal h⟩
    rintro rfl
    exact Readable.exists_quantity h
  | .node p children, ⟨harity, hchildren⟩ => by
    refine ⟨?_, Production.takes_of_arity harity, allFit_of_allWellFormed children hchildren⟩
    rintro name rfl
    cases harity
  | .choice trees, ⟨hne, htrees⟩ => ⟨hne, allFit_of_allWellFormed trees htrees⟩

theorem allFit_of_allWellFormed : ∀ ts : List Tree, AllWellFormed r ts → AllFit r ts
  | [], _ => trivial
  | t :: ts, ⟨ht, hts⟩ => ⟨fits_of_wellFormed t ht, allFit_of_allWellFormed ts hts⟩

end

mutual

/-- The plain evaluation of a well-formed reading meets faults of arithmetic only. -/
theorem plainEvaluate_outcome : ∀ t : Tree, WellFormed r t → t.choices = [] →
    Outcome (fun _ => True) (plainEvaluate r t)
  | .leaf terminal text, h, _ => by
    rw [plainEvaluate]
    exact Readable.outcome h
  | .node p children, ⟨harity, hchildren⟩, hchoices => by
    rw [Tree.choices] at hchoices
    rw [plainEvaluate_node p (by rintro name rfl; cases harity)]
    refine (plainEvaluateAll_outcome children hchildren hchoices).bind ?_
    intro qs hlength
    exact Production.reduce_outcome (hlength ▸ harity)
  | .choice trees, _, hchoices => by
    rw [Tree.choices] at hchoices
    cases hchoices

theorem plainEvaluateAll_outcome : ∀ ts : List Tree, AllWellFormed r ts →
    Tree.choicesOfAll ts = [] →
    Outcome (fun qs => qs.length = ts.length) (plainEvaluateAll r ts)
  | [], _, _ => rfl
  | t :: ts, ⟨ht, hts⟩, hchoices => by
    rw [Tree.choicesOfAll, List.append_eq_nil_iff] at hchoices
    refine (plainEvaluate_outcome t ht hchoices.1).bind fun q _ => ?_
    refine (plainEvaluateAll_outcome ts hts hchoices.2).bind fun qs hlength => ?_
    exact congrArg Nat.succ hlength

end

end Trees

end UnitCalc.Expr

namespace UnitCalc

open UnitCalc.Expr

/-- For every registry and every text that parses with it: the tree and all its readings fit
the registry and the evaluator, so the evaluation never ends with an unknown unit, an unreadable
numeral, an unknown production, a wrong number of operands or an empty choice. -/
theorem parse_fits {K : Type} [Scalar K] {r : Registry K} {text : String} {tree : Expr.Tree}
    (h : parse r text = .ok tree) :
    Fits r tree ∧ (∀ a ∈ tree.readings, Fits r a) ∧
      ∀ f, evaluate r tree = .error f → ¬ f.OfTree := by
  have hparse : Expr.parse ((Lexeme.scan r text).map (Token.ofLexeme r)) = .ok tree :=
    parse_text_eq_ok_iff.mp h
  have hwellFormed {a : Expr.Tree} (ha : a ∈ tree.readings) : WellFormed r a :=
    wellFormed_of_mem_readings hparse ha
  refine ⟨fits_of_wellFormed tree (wellFormed_of_parse hparse),
    fun a ha => fits_of_wellFormed a (hwellFormed ha), ?_⟩
  intro f hf
  have hchoices : ∀ trees ∈ tree.choices, trees ≠ [] := by
    intro trees htrees
    obtain ⟨_, _, rfl, _⟩ := isPair_of_forall₂ (choices_of_parse hparse) trees htrees
    exact List.cons_ne_nil _ _
  obtain ⟨a, ha, haf⟩ := exists_reading_of_evaluate_error hchoices hf
  have houtcome := plainEvaluate_outcome a (hwellFormed ha)
    (Expr.Tree.choices_of_derives ((mem_readings_of_parse hparse a).mp ha))
  rw [haf] at houtcome
  exact houtcome

/-- A text with digits of two scripts, a sign that is part of a numeral, and two readings. -/
theorem parse_fits_arabicDigits :
    ∃ tree, parse meterRegistry "-2^٣ m * ln(e)" = .ok tree ∧ tree.readings.length = 2 ∧
      Fits meterRegistry tree ∧ (∀ a ∈ tree.readings, Fits meterRegistry a) ∧
      ∀ f, evaluate meterRegistry tree = .error f → ¬ f.OfTree := by
  have hcheck : (match parse meterRegistry "-2^٣ m * ln(e)" with
      | .ok tree => tree.readings.length == 2
      | .error _ => false) = true := by
    decide +kernel
  cases h : parse meterRegistry "-2^٣ m * ln(e)" with
  | error f =>
    rw [h] at hcheck
    cases hcheck
  | ok tree =>
    simp only [h, beq_iff_eq] at hcheck
    exact ⟨tree, rfl, hcheck, parse_fits h⟩

end UnitCalc
