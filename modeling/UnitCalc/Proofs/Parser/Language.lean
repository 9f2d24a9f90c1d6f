import UnitCalc.Calculator
import UnitCalc.Proofs.Grammar.Language
import UnitCalc.Proofs.Parser.Completeness
import UnitCalc.Proofs.Parser.Soundness

/-!
# The parser accepts the language of the grammar

Soundness and completeness of the parser together: it accepts the sentences of the grammar and
no others, and its trees stand for all derivation trees and no others.
-/

namespace UnitCalc.Expr

open Grammar

/-- A parse succeeds exactly on what the grammar derives. -/
theorem parse_ok_iff {tokens : List Token} :
    (∃ tree, parse tokens = .ok tree) ↔ ∃ t, Derives .equation tokens t := by
  constructor
  · rintro ⟨tree, h⟩
    obtain ⟨⟨t, ht⟩, hall⟩ := yields_of_parse h
    exact ⟨t, hall t ht⟩
  · rintro ⟨t, h⟩
    obtain ⟨tree, hparse, _⟩ := parse_of_derives h
    exact ⟨tree, hparse⟩

/-- The readings of a parse are the derivation trees. -/
theorem mem_readings_of_parse {tokens : List Token} {tree : Tree} (h : parse tokens = .ok tree)
    (t : Tree) : t ∈ tree.readings ↔ Derives .equation tokens t := by
  constructor
  · intro ht
    exact (yields_of_parse h).2 t ht
  · intro ht
    obtain ⟨tree', hparse, hmem⟩ := parse_of_derives ht
    rw [h] at hparse
    cases hparse
    exact hmem

/-- For every registry and all lexemes, the parser accepts exactly the sentences of the
grammar, and the readings of its tree are exactly the derivation trees. -/
theorem parse_exact {K : Type} [Scalar K] (r : Registry K) (lexemes : List Lexeme) :
    ((∃ tree, parse (lexemes.map (Token.ofLexeme r)) = .ok tree) ↔
      lexemes.map (fun lexeme => (Token.ofLexeme r lexeme).terminal) ∈
        contextFreeGrammar.language) ∧
    ∀ tree, parse (lexemes.map (Token.ofLexeme r)) = .ok tree →
      ∀ t, t ∈ tree.readings ↔ Derives .equation (lexemes.map (Token.ofLexeme r)) t := by
  refine ⟨?_, fun tree h t => mem_readings_of_parse h t⟩
  have hlanguage := @mem_language_iff (lexemes.map (Token.ofLexeme r))
  rw [List.map_map] at hlanguage
  exact parse_ok_iff.trans hlanguage.symm

theorem parse_text_eq_ok_iff {K : Type} [Scalar K] {r : Registry K} {text : String} {tree : Tree} :
    UnitCalc.parse r text = .ok tree ↔ parse (Token.scan r text) = .ok tree := by
  unfold UnitCalc.parse
  constructor
  · intro h
    split at h
    · rename_i hparse
      cases h
      exact hparse
    · cases h
    · cases h
  · intro h
    rw [h]

end UnitCalc.Expr
