import UnitCalc.Proofs.Evaluator.Sign
import UnitCalc.Proofs.Lexeme.Terminal
import UnitCalc.Proofs.Number.Sign
import UnitCalc.Proofs.Parser.BinarySign

/-!
# A sign with and without a blank behind it

Without a blank between them, the sign of a sum and the numeral behind it are one lexeme, a
literal with a sign. The grammar has a term for it that mirrors the term of a numeral, and what
both texts calculate is the same, down to the sign of a zero. Only one form is missing: the
factorial of a literal with a sign is closed, so there is no second factorial and no power of it.
-/

namespace UnitCalc.Expr

open Number Number.Numeral

/-- A sign and the numeral behind it as one lexeme, wherever it starts. -/
def Lexeme.together (sign n : Lexeme) (position : Nat) : Lexeme :=
  ⟨sign.text ++ n.text, position⟩

section Literals

variable {K : Type} [Scalar K] {r : Registry K} {sign n : Lexeme}

/-- The numeral, and the literal that it is with the sign in front. -/
theorem exists_signs (position : Nat)
    (hsign : (Token.ofLexeme r sign).terminal = .plus ∨ (Token.ofLexeme r sign).terminal = .minus)
    (hn : (Token.ofLexeme r n).terminal = .number) :
    ∃ c l l', Literal.Signs c l l' ∧
      (if c == '-' then Production.sub else .add, (Token.ofLexeme r sign).terminal) ∈ sumSigns ∧
      Literal.ofToken? (Token.ofLexeme r n) = some l ∧
      Literal.ofToken? (Token.ofLexeme r (sign.together n position)) = some l' := by
  obtain ⟨c, hc, htext, hminus⟩ := isSign_of_sumSign hsign
  obtain ⟨hnumeral, hplain⟩ := isNumeral_of_number hn
  have htogether : (sign.together n position).text.toList = c :: n.text.toList := by
    show (sign.text ++ n.text).toList = _
    rw [String.toList_append, htext]
    rfl
  have hnumeral' : isNumeral (sign.together n position).text.toList = true := by
    rw [htogether, isNumeral_cons hc hplain, hnumeral]
  have hsigned := ofNumeral_cons hc n.text.toList
  rw [← htogether, ← terminal_of_isNumeral r hnumeral'] at hsigned
  refine ⟨c, _, _, ?_, ?_, ofToken?_of_number hn, ofToken?_of_signed hsigned⟩
  · refine ⟨hc, rfl, rfl, ⟨by simp, ?_⟩, htogether, hplain, hnumeral⟩
    rcases hsigned with h | h <;> simp [h]
  · rcases hsign with h | h
    · have hplus : c ≠ '-' := fun hc => by simp [hminus.mpr hc] at h
      simp [h, hplus]
    · simp [h, hminus.mp h]

end Literals

/-- For every registry, all lexemes, and a sign between an expression and a term that starts with
a numeral: with the sign and the numeral as one lexeme, the lexemes are accepted again exactly if
they do not raise a factorial of the numeral. Then both trees have the same value, with its
dimension and units, or faults of one kind. -/
theorem evaluate_together (p : Platform) :
    letI := p.doubles
    ∀ (r : Registry Float) (before behind : List Lexeme) (sign n : Lexeme) (position : Nat),
      ReadsSum (before.map (Token.ofLexeme r)) (Token.ofLexeme r sign)
        ((n :: behind).map (Token.ofLexeme r)) →
      (Token.ofLexeme r n).terminal = .number →
      ∃ tree, parse ((before ++ sign :: n :: behind).map (Token.ofLexeme r)) = .ok tree ∧
        ((∃ tree', parse ((before ++ sign.together n position :: behind).map (Token.ofLexeme r)) =
            .ok tree') ↔ ¬ RaisesFactorial (behind.map (Token.ofLexeme r))) ∧
        ∀ tree', parse ((before ++ sign.together n position :: behind).map (Token.ofLexeme r)) =
            .ok tree' → Alike SameKind Eq (evaluate r tree) (evaluate r tree') := by
  let _ := p.doubles
  intro r before behind sign n position hsum hn
  obtain ⟨tree, htree⟩ := hsum.exists_parse
  obtain ⟨c, l, l', hsigns, hk, hl, hl'⟩ := exists_signs position hsum.sumSign hn
  have hmirrors := mirrors p.signLaws r hsigns
  obtain ⟨hraised, hplain⟩ := parse_together hmirrors hk hl hl' hsum.exists_last htree
  simp only [List.map_append, List.map_cons] at htree ⊢
  refine ⟨tree, htree, ⟨?_, ?_⟩, ?_⟩
  · rintro ⟨tree', htree'⟩ hraises
    obtain ⟨place, hplace⟩ := hraised hraises
    rw [hplace] at htree'
    cases htree'
  · intro h
    obtain ⟨tree', htree', _⟩ := hplain h
    exact ⟨tree', htree'⟩
  · intro tree' htree'
    by_cases hraises : RaisesFactorial (behind.map (Token.ofLexeme r))
    · obtain ⟨place, hplace⟩ := hraised hraises
      rw [hplace] at htree'
      cases htree'
    · obtain ⟨_, h, hrelated⟩ := hplain hraises
      rw [htree'] at h
      cases h
      exact evaluate_of_related hrelated

/-! ## Two differences -/

open Grammar (Derives operand?)

section Numbers

variable {a : List Token} {t : Token} {l : Tree}

theorem derives_postfixed_of_number (ht : t.terminal = .number) :
    ∃ l, Derives .postfixed [t] l := by
  have hnumber : Derives .plainNumber [t] (.node .number (operand? t).toList) :=
    .lone (by decide) ht
  have hatom : Derives .atom [t] _ := hnumber.promoted (by decide)
  exact ⟨_, hatom.promoted (by decide)⟩

theorem derives_term_of_postfixed (h : Derives .postfixed a l) : Derives .term a l := by
  have hpower : Derives .power a l := h.promoted (by decide)
  have hfactor : Derives .factor a l := hpower.promoted (by decide)
  exact hfactor.promoted (by decide)

theorem derives_expr_of_postfixed (h : Derives .postfixed a l) : Derives .expr a l :=
  (derives_term_of_postfixed h).promoted (by decide)

end Numbers

/-- The difference `80 - 4` is the same without blanks. -/
theorem evaluate_eightyMinusFour :
    letI := Platform.native.doubles
    ∃ tree tree', parse (Token.scan (.empty : Registry Float) "80 - 4") = .ok tree ∧
      parse (Token.scan (.empty : Registry Float) "80-4") = .ok tree' ∧
      Alike SameKind Eq (evaluate (.empty : Registry Float) tree) (evaluate .empty tree') := by
  let _ := Platform.native.doubles
  have hscan : Token.scan (.empty : Registry Float) "80 - 4" =
      List.map (Token.ofLexeme (.empty : Registry Float))
        ([⟨"80", 0⟩] ++ ⟨"-", 3⟩ :: ⟨"4", 5⟩ :: []) := by
    decide +kernel
  have hscan' : Token.scan (.empty : Registry Float) "80-4" =
      List.map (Token.ofLexeme (.empty : Registry Float))
        ([⟨"80", 0⟩] ++ Lexeme.together ⟨"-", 3⟩ ⟨"4", 5⟩ 2 :: []) := by
    decide +kernel
  have hterminals : (Token.ofLexeme (.empty : Registry Float) ⟨"80", 0⟩).terminal = .number ∧
      (Token.ofLexeme (.empty : Registry Float) ⟨"-", 3⟩).terminal = .minus ∧
      (Token.ofLexeme (.empty : Registry Float) ⟨"4", 5⟩).terminal = .number := by
    decide +kernel
  obtain ⟨heighty, hminus, hfour⟩ := hterminals
  obtain ⟨_, hleft⟩ := derives_postfixed_of_number heighty
  obtain ⟨_, hright⟩ := derives_postfixed_of_number hfour
  have hsum := readsSum_of_derives (.inr hminus) (derives_expr_of_postfixed hleft)
    (derives_term_of_postfixed hright)
  obtain ⟨tree, htree, haccepted, hsame⟩ :=
    evaluate_together Platform.native .empty [⟨"80", 0⟩] [] ⟨"-", 3⟩ ⟨"4", 5⟩ 2 hsum hfour
  have hplain : ¬ RaisesFactorial
      (([] : List Lexeme).map (Token.ofLexeme (.empty : Registry Float))) := by
    rintro ⟨_, _, _, ⟨⟩, _⟩
  obtain ⟨tree', htree'⟩ := haccepted.mpr hplain
  exact ⟨tree, tree', hscan ▸ htree, hscan' ▸ htree', hsame tree' htree'⟩

/-- The difference `1 - 3!!` is read, and `1-3!!` is not. -/
theorem parse_oneMinusSecondFactorial :
    let token := Token.ofLexeme (.empty : Registry Float)
    let behind := [token ⟨"!", 5⟩, token ⟨"!", 6⟩]
    Token.scan (.empty : Registry Float) "1 - 3!!" =
        [token ⟨"1", 0⟩] ++ token ⟨"-", 2⟩ :: token ⟨"3", 4⟩ :: behind ∧
      ReadsSum [token ⟨"1", 0⟩] (token ⟨"-", 2⟩) (token ⟨"3", 4⟩ :: behind) ∧
      (token ⟨"3", 4⟩).terminal = .number ∧
      (∃ tree, parse (Token.scan (.empty : Registry Float) "1 - 3!!") = .ok tree) ∧
      (∃ place, parse ([token ⟨"1", 0⟩] ++
        token (Lexeme.together ⟨"-", 2⟩ ⟨"3", 4⟩ 2) :: behind) = .error place) ∧
      ∃ f, UnitCalc.parse (.empty : Registry Float) "1-3!!" = .error f ∧ f.kind = .malformed := by
  intro token behind
  have hscan : Token.scan (.empty : Registry Float) "1 - 3!!" =
      [token ⟨"1", 0⟩] ++ token ⟨"-", 2⟩ :: token ⟨"3", 4⟩ :: behind := by
    show Token.scan (.empty : Registry Float) "1 - 3!!" =
      List.map (Token.ofLexeme (.empty : Registry Float))
        [⟨"1", 0⟩, ⟨"-", 2⟩, ⟨"3", 4⟩, ⟨"!", 5⟩, ⟨"!", 6⟩]
    decide +kernel
  have hterminals : (token ⟨"1", 0⟩).terminal = .number ∧ (token ⟨"-", 2⟩).terminal = .minus ∧
      (token ⟨"3", 4⟩).terminal = .number ∧ (token ⟨"!", 5⟩).terminal = .bang ∧
      (token ⟨"!", 6⟩).terminal = .bang := by
    decide +kernel
  obtain ⟨hone, hminus, hthree, hbang, hbang'⟩ := hterminals
  have hsum : ReadsSum [token ⟨"1", 0⟩] (token ⟨"-", 2⟩) (token ⟨"3", 4⟩ :: behind) := by
    obtain ⟨_, hleft⟩ := derives_postfixed_of_number hone
    obtain ⟨_, hright⟩ := derives_postfixed_of_number hthree
    have hfactorial : Derives .postfixed ([token ⟨"3", 4⟩] ++ [token ⟨"!", 5⟩]) _ :=
      .ended (p := .factorial) (by decide) hbang (by simp [operand?, hbang]) hright
    have hsecond : Derives .postfixed (_ ++ [token ⟨"!", 6⟩]) _ :=
      .ended (p := .factorial) (by decide) hbang' (by simp [operand?, hbang']) hfactorial
    exact readsSum_of_derives (.inr hminus) (derives_expr_of_postfixed hleft)
      (derives_term_of_postfixed hsecond)
  have hplace : throws (parse (List.map (Token.ofLexeme (.empty : Registry Float))
      [⟨"1", 0⟩, Lexeme.together ⟨"-", 2⟩ ⟨"3", 4⟩ 2, ⟨"!", 5⟩, ⟨"!", 6⟩])) (fun _ => true) =
        true := by
    decide +kernel
  have hfault : throws (UnitCalc.parse (.empty : Registry Float) "1-3!!")
      (·.kind == .malformed) = true := by
    decide +kernel
  obtain ⟨place, hplace, _⟩ := exists_of_throws hplace
  obtain ⟨f, hf, hkind⟩ := exists_of_throws hfault
  exact ⟨hscan, hsum, hthree, hscan ▸ hsum.exists_parse, ⟨place, hplace⟩, f, hf,
    beq_iff_eq.mp hkind⟩

end UnitCalc.Expr
