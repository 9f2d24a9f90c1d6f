import Mathlib.Data.List.Forall2
import UnitCalc.Calculator
import UnitCalc.Proofs.Alike
import UnitCalc.Proofs.Evaluator.Forest
import UnitCalc.Proofs.Lexeme.Spaced
import UnitCalc.Proofs.Number.Finite

/-!
# Blanks between lexemes

Two texts with the same lexemes are calculated alike: the parser reads no positions, so that it
takes both texts through the same states. With the lexemes found again, whatever blanks are between
them, a text can be respaced, and only the place of a syntax error is another one.
-/

namespace UnitCalc

open Number Text

namespace Expr

/-! ## Parsing without positions -/

/-- Tokens that differ in nothing but their position. -/
structure Token.SameWord (t t' : Token) : Prop where
  text : t.text = t'.text
  terminal : t.terminal = t'.terminal

section Parsing

variable {t t' : Token} {ts ts' : List Token}

theorem Token.SameWord.step (h : t.SameWord t') (s : State) : s.step t = s.step t' := by
  obtain ⟨⟨text, position⟩, terminal⟩ := t
  obtain ⟨⟨text', position'⟩, terminal'⟩ := t'
  obtain ⟨rfl, rfl⟩ := h
  rfl

theorem run_sameWords (h : List.Forall₂ Token.SameWord ts ts') (s : State) :
    Alike (List.Forall₂ Token.SameWord) Eq (s.run ts) (s.run ts') := by
  induction h generalizing s with
  | nil => exact rfl
  | cons ht hts ih =>
    simp only [State.run, ← ht.step]
    split
    · exact ih _
    · exact .cons ht hts

theorem parse_sameWords (h : List.Forall₂ Token.SameWord ts ts') :
    Alike (Option.Rel Token.SameWord) Eq (parse ts) (parse ts') := by
  unfold parse
  rcases (run_sameWords h .start).cases with ⟨s, _, hs, hs', rfl⟩ | ⟨rest, rest', hs, hs', hrest⟩
  · rw [hs, hs']
    simp only
    cases s.finish? with
    | some tree => exact rfl
    | none => exact .none
  · rw [hs, hs']
    cases hrest with
    | nil => exact .none
    | cons ht _ => exact .some ht

end Parsing

theorem sameWords_of_map_text {K : Type} [Scalar K] {r : Registry K}
    {lexemes lexemes' : List Lexeme} (h : lexemes.map (·.text) = lexemes'.map (·.text)) :
    List.Forall₂ Token.SameWord (lexemes.map (Token.ofLexeme r))
      (lexemes'.map (Token.ofLexeme r)) := by
  rw [← List.forall₂_eq_eq_eq, List.forall₂_map_left_iff, List.forall₂_map_right_iff] at h
  rw [List.forall₂_map_left_iff, List.forall₂_map_right_iff]
  exact h.imp fun lexeme lexeme' htext => ⟨htext, by simp only [Token.ofLexeme, htext]⟩

end Expr

/-! ## Texts with the same lexemes -/

/-- Faults that differ in nothing but the text and the place in it. -/
def Fault.SameButPlace {K : Type} : Fault K → Fault K → Prop
  | .unexpected word _ _, .unexpected word' _ _ => word = word'
  | .unexpectedEnd _, .unexpectedEnd _ => True
  | f, g => f = g

theorem Fault.SameButPlace.refl {K : Type} (f : Fault K) : f.SameButPlace f := by
  cases f <;> simp [SameButPlace]

section Texts

variable {K : Type} [Scalar K] {r : Registry K} {text text' : String}

/-- Texts with the same lexemes, the same derivation tree and the same value. -/
structure ReadAlike (r : Registry K) (text text' : String) : Prop where
  lexemes : (Expr.Lexeme.scan r text).map (·.text) = (Expr.Lexeme.scan r text').map (·.text)
  parse : Alike Fault.SameButPlace Eq (parse r text) (parse r text')
  calculate : Alike Fault.SameButPlace Eq (calculate r text) (calculate r text')

theorem parse_alike
    (h : (Expr.Lexeme.scan r text).map (·.text) = (Expr.Lexeme.scan r text').map (·.text)) :
    Alike Fault.SameButPlace Eq (parse r text) (parse r text') := by
  unfold parse
  rcases (Expr.parse_sameWords (Expr.sameWords_of_map_text (r := r) h)).cases with
    ⟨tree, _, htree, htree', rfl⟩ | ⟨t, t', ht, ht', hsame⟩
  · rw [Expr.Token.scan, Expr.Token.scan, htree, htree']
    exact rfl
  · rw [Expr.Token.scan, Expr.Token.scan, ht, ht']
    cases hsame with
    | some h => exact h.text
    | none => exact trivial

theorem readAlike_of_lexemes
    (h : (Expr.Lexeme.scan r text).map (·.text) = (Expr.Lexeme.scan r text').map (·.text)) :
    ReadAlike r text text' where
  lexemes := h
  parse := parse_alike h
  calculate := (parse_alike h).bind fun tree _ htree =>
    htree ▸ .refl Fault.SameButPlace.refl (fun _ => rfl) (Expr.evaluate r tree)

end Texts

/-! ## Respaced texts -/

section Respaced

open Expr.Lexeme

/-- For every registry without blanks in its spellings and every text: the lexemes with any blanks
between any two, and in front and behind, make up a text that has the same lexemes and is calculated
alike, and so do the lexemes with single blanks between them. -/
theorem readAlike_spread {K : Type} [Scalar K] (r : Registry K)
    (hkeys : ∀ key ∈ r.keys, withoutBlanks key = true) (text : String) :
    (∀ before pieces, AreSpaced before pieces →
      pieces.map (·.1) = (scan r text).map (·.text) → ReadAlike r text (spread before pieces)) ∧
    ReadAlike r text (" ".intercalate ((scan r text).map (·.text))) := by
  have hspread (before : String) (pieces : List (String × String))
      (hspaced : AreSpaced before pieces)
      (hwords : pieces.map (·.1) = (scan r text).map (·.text)) :
      ReadAlike r text (spread before pieces) :=
    readAlike_of_lexemes (map_text_scan_spread hkeys hspaced hwords).symm
  refine ⟨hspread, ?_⟩
  have hsingly := hspread "" (singly ((scan r text).map (·.text)))
    (areSpaced_singly rfl _) (map_singly _)
  rwa [spread_singly, String.empty_append] at hsingly

/-- The sum of `1m` and `2m`, where the plus sign is no sign of the `2`. -/
theorem readAlike_meters :
    letI := Platform.native.doubles
    ReadAlike Expr.meterRegistry "1m+2m" "\t1  m + 2 m" ∧
      ReadAlike Expr.meterRegistry "1m+2m" "1 m + 2 m" := by
  let _ := Platform.native.doubles
  have hwords : (scan Expr.meterRegistry "1m+2m").map (·.text) = ["1", "m", "+", "2", "m"] := by
    decide +kernel
  obtain ⟨hspread, hsingly⟩ := readAlike_spread Expr.meterRegistry (by decide) "1m+2m"
  rw [hwords] at hsingly
  have hspaced : AreSpaced "\t" [("1", "  "), ("m", " "), ("+", " "), ("2", " "), ("m", "")] :=
    ⟨by decide, by decide, by decide⟩
  exact ⟨hspread _ _ hspaced hwords.symm, hsingly⟩

end Respaced

end UnitCalc
