import UnitCalc.Expr.Token
import UnitCalc.Proofs.Number.Reading

/-!
# What lexemes are classified as

A lexeme is an operator sign or keyword, or else a numeral, or else a unit. No numeral is spelled
like a sign or keyword, so that every numeral has the terminal of its sign. A sign and a numeral
without one are a numeral together.
-/

namespace UnitCalc.Expr

open Number.Numeral

variable {K : Type} [Scalar K]

/-- The terminals that a text can have, each for a reason. -/
inductive Classified (r : Registry K) (text : String) (x : Terminal) : Prop where
  | fixed (h : (text, x) ∈ Terminal.fixed)
  | numeral (h : isNumeral text.toList = true) (hx : x = .ofNumeral text.toList)
  | unit (h : r.has text = true) (hx : x = .unit)
  | unknown (hx : x = .unknown)

theorem classified_ofLexeme (r : Registry K) (lexeme : Lexeme) :
    Classified r lexeme.text (Token.ofLexeme r lexeme).terminal := by
  show Classified r lexeme.text ((Terminal.ofText? r lexeme.text).getD .unknown)
  unfold Terminal.ofText?
  split
  · rename_i x hlookup
    obtain ⟨before, after, hsplit, _⟩ := List.lookup_eq_some_iff.mp hlookup
    exact .fixed (by simp [hsplit])
  · split
    · exact .unknown rfl
    · show Classified r lexeme.text (Terminal.ofOther r lexeme.text)
      unfold Terminal.ofOther
      split
      · rename_i hnumeral
        exact .numeral hnumeral rfl
      · split
        · rename_i hunit
          exact .unit hunit rfl
        · exact .unknown rfl

/-! ## Numerals -/

theorem isNumeral_fixed : ∀ entry ∈ Terminal.fixed, isNumeral entry.1.toList = false := by
  decide

theorem terminal_of_isNumeral (r : Registry K) {lexeme : Lexeme}
    (h : isNumeral lexeme.text.toList = true) :
    (Token.ofLexeme r lexeme).terminal = .ofNumeral lexeme.text.toList := by
  have hlookup : Terminal.fixed.lookup lexeme.text = none := by
    rw [List.lookup_eq_none_iff]
    intro entry hentry
    have hfixed := isNumeral_fixed entry hentry
    rw [bne_iff_ne]
    intro htext
    rw [← htext, h] at hfixed
    cases hfixed
  have hempty : lexeme.text.isEmpty = false := by
    rw [← Bool.not_eq_true, String.isEmpty_iff]
    intro htext
    rw [htext] at h
    cases h
  show (Terminal.ofText? r lexeme.text).getD .unknown = _
  unfold Terminal.ofText?
  rw [hlookup, hempty]
  show Terminal.ofOther r lexeme.text = _
  unfold Terminal.ofOther
  rw [if_pos h]

theorem takeSign_of_number {cs : List Char} (h : Terminal.ofNumeral cs = .number) :
    takeSign cs = ([], cs) := by
  fun_cases takeSign cs with
  | case1 rest => cases h
  | case2 rest => cases h
  | case3 hplus hminus => rfl

/-- A lexeme that is taken for a numeral without a sign is one. -/
theorem isNumeral_of_number {r : Registry K} {lexeme : Lexeme}
    (h : (Token.ofLexeme r lexeme).terminal = .number) :
    isNumeral lexeme.text.toList = true ∧
      takeSign lexeme.text.toList = ([], lexeme.text.toList) := by
  cases classified_ofLexeme r lexeme with
  | fixed hfixed =>
    rw [h] at hfixed
    simp [Terminal.fixed] at hfixed
  | numeral hnumeral hterminal => exact ⟨hnumeral, takeSign_of_number (hterminal.symm.trans h)⟩
  | unit _ hterminal | unknown hterminal =>
    rw [h] at hterminal
    cases hterminal

/-! ## Signs -/

theorem ofNumeral_cons {c : Char} (hc : isSign c = true) (cs : List Char) :
    Terminal.ofNumeral (c :: cs) = .positiveNumber ∨
      Terminal.ofNumeral (c :: cs) = .negativeNumber := by
  rcases isSign_iff.mp hc with rfl | rfl
  · exact .inl rfl
  · exact .inr rfl

/-- A lexeme that is taken for the sign of a sum is that sign. -/
theorem isSign_of_sumSign {r : Registry K} {lexeme : Lexeme}
    (h : (Token.ofLexeme r lexeme).terminal = .plus ∨
      (Token.ofLexeme r lexeme).terminal = .minus) :
    ∃ c, isSign c = true ∧ lexeme.text.toList = [c] ∧
      ((Token.ofLexeme r lexeme).terminal = .minus ↔ c = '-') := by
  cases classified_ofLexeme r lexeme with
  | fixed hfixed =>
    generalize (Token.ofLexeme r lexeme).terminal = x at h hfixed ⊢
    rcases h with rfl | rfl
    · have htext : lexeme.text = "+" := by simpa [Terminal.fixed] using hfixed
      rw [htext]
      exact ⟨'+', by decide⟩
    · have htext : lexeme.text = "-" := by simpa [Terminal.fixed] using hfixed
      rw [htext]
      exact ⟨'-', by decide⟩
  | numeral _ hterminal =>
    rw [hterminal] at h
    unfold Terminal.ofNumeral at h
    split at h <;> simp at h
  | unit _ hterminal | unknown hterminal =>
    rw [hterminal] at h
    simp at h

end UnitCalc.Expr
