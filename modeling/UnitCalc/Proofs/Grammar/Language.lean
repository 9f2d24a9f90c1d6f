import Mathlib.Computability.ContextFreeGrammar
import UnitCalc.Proofs.Grammar.Derivation

/-!
# The language of the grammar

Read without productions, the rules are a context-free grammar over terminals. Tokens derive a
tree from a category exactly if the category generates their terminals, so the texts of tokens
and the dropping of signs and brackets from trees play no part in what is derivable.
-/

namespace UnitCalc.Expr

open Grammar (Category DerivesAll rules operand?)

/-- A place of a rule as a symbol of a context-free grammar. -/
def formal : Grammar.Symbol → Symbol Terminal Category
  | .category c => .nonterminal c
  | .terminal x => .terminal x

/-- A symbol of a context-free grammar as a place of a rule. -/
def informal : Symbol Terminal Category → Grammar.Symbol
  | .nonterminal c => .category c
  | .terminal x => .terminal x

@[simp] theorem informal_formal (s : Grammar.Symbol) : informal (formal s) = s := by
  cases s <;> rfl

@[simp] theorem map_informal_formal (symbols : List Grammar.Symbol) :
    (symbols.map formal).map informal = symbols := by
  simp [Function.comp_def]

/-- The rules of the grammar without their productions. -/
def formalRules : List (ContextFreeRule Terminal Category) :=
  rules.map fun rule => ⟨rule.category, rule.symbols.map formal⟩

/-- The grammar as a context-free grammar over terminals. -/
abbrev contextFreeGrammar : ContextFreeGrammar Terminal where
  NT := Category
  initial := .equation
  rules := formalRules.toFinset

theorem mem_rules_contextFreeGrammar {r : ContextFreeRule Terminal Category} :
    r ∈ contextFreeGrammar.rules ↔
      ∃ rule ∈ rules, r = ⟨rule.category, rule.symbols.map formal⟩ := by
  show r ∈ formalRules.toFinset ↔ _
  rw [List.mem_toFinset, formalRules, List.mem_map]
  constructor
  · rintro ⟨rule, hrule, rfl⟩
    exact ⟨rule, hrule, rfl⟩
  · rintro ⟨rule, hrule, rfl⟩
    exact ⟨rule, hrule, rfl⟩

/-- The terminals of some tokens as a sentential form. -/
def sentence (tokens : List Token) : List (Symbol Terminal Category) :=
  (tokens.map (·.terminal)).map .terminal

@[simp] theorem sentence_cons (t : Token) (tokens : List Token) :
    sentence (t :: tokens) = .terminal t.terminal :: sentence tokens := rfl

@[simp] theorem sentence_append (a b : List Token) :
    sentence (a ++ b) = sentence a ++ sentence b := by
  simp [sentence]

/-! ## From trees to sentences -/

/-- One step by a rule. -/
theorem produces_of_rule {c : Category} {symbols : List Grammar.Symbol} {p : Option Production}
    (rule : ⟨c, symbols, p⟩ ∈ rules) :
    contextFreeGrammar.Produces [.nonterminal c] (symbols.map formal) :=
  ⟨⟨c, symbols.map formal⟩, mem_rules_contextFreeGrammar.mpr ⟨_, rule, rfl⟩,
    ContextFreeRule.Rewrites.input_output⟩

theorem generates_of_derives {c : Category} {tokens : List Token} {t : Tree}
    (h : Grammar.Derives c tokens t) :
    contextFreeGrammar.Derives [.nonterminal c] (sentence tokens) := by
  exact Grammar.Derives.rec
    (motive_1 := fun c tokens _ _ =>
      contextFreeGrammar.Derives [.nonterminal c] (sentence tokens))
    (motive_2 := fun symbols tokens _ _ =>
      contextFreeGrammar.Derives (symbols.map formal) (sentence tokens))
    (fun rule _ parts => (produces_of_rule rule).trans_derives parts)
    (fun rule _ parts => (produces_of_rule rule).trans_derives parts)
    (ContextFreeGrammar.Derives.refl _)
    (fun {c symbols first rest tree operands} _ _ hfirst hrest => by
      rw [sentence_append]
      have hleft := hfirst.append_right (symbols.map formal)
      exact hleft.trans (hrest.append_left _))
    (fun {t symbols rest operands} _ hrest => by
      rw [sentence_cons]
      exact hrest.append_left [.terminal t.terminal])
    h

/-! ## From sentences to trees -/

/-- Tokens of symbols in a row are cut where the row is cut. -/
theorem derivesAll_append {s₁ s₂ : List Grammar.Symbol} {tokens : List Token} :
    (∃ operands, DerivesAll (s₁ ++ s₂) tokens operands) ↔
      ∃ a b, tokens = a ++ b ∧ (∃ operands, DerivesAll s₁ a operands) ∧
        ∃ operands, DerivesAll s₂ b operands := by
  induction s₁ generalizing tokens with
  | nil =>
    constructor
    · rintro ⟨operands, h⟩
      exact ⟨[], tokens, rfl, ⟨[], .nil⟩, operands, h⟩
    · rintro ⟨a, b, rfl, ⟨_, h⟩, hb⟩
      cases h
      exact hb
  | cons s s₁ ih =>
    constructor
    · rintro ⟨_, h⟩
      cases h with
      | category head tail =>
        obtain ⟨a, b, rfl, ⟨_, ha⟩, hb⟩ := ih.mp ⟨_, tail⟩
        exact ⟨_, b, (List.append_assoc _ a b).symm, ⟨_, .category head ha⟩, hb⟩
      | terminal tail =>
        obtain ⟨a, b, rfl, ⟨_, ha⟩, hb⟩ := ih.mp ⟨_, tail⟩
        exact ⟨_, b, rfl, ⟨_, .terminal ha⟩, hb⟩
    · rintro ⟨_, b, rfl, ⟨_, h⟩, hb⟩
      cases h with
      | category head tail =>
        obtain ⟨_, h⟩ := ih.mpr ⟨_, b, rfl, ⟨_, tail⟩, hb⟩
        exact ⟨_, by rw [List.append_assoc]; exact .category head h⟩
      | terminal tail =>
        obtain ⟨_, h⟩ := ih.mpr ⟨_, b, rfl, ⟨_, tail⟩, hb⟩
        exact ⟨_, .terminal h⟩

/-- A rule without a production has exactly one operand to hand on. -/
theorem exists_operand_of_rule {c : Category} {symbols : List Grammar.Symbol}
    (rule : ⟨c, symbols, none⟩ ∈ rules) {tokens : List Token} {operands : List Tree}
    (h : DerivesAll symbols tokens operands) : ∃ t, operands = [t] := by
  generalize hr : (⟨c, symbols, none⟩ : Grammar.Rule) = r at rule
  cases Grammar.Rule.shape_of_mem r rule with
  | between | beside | ended | headed | lone => cases hr
  | promoted c d =>
    cases hr
    obtain _ | ⟨_, ⟨⟩⟩ := h
    exact ⟨_, rfl⟩
  | unsigned c d x hx =>
    cases hr
    obtain _ | _ | ⟨_ | ⟨_, ⟨⟩⟩⟩ := h
    exact ⟨_, by rw [hx _ rfl]; rfl⟩
  | enclosed c d x y hx hy =>
    cases hr
    obtain _ | _ | ⟨_ | ⟨_, _ | _ | ⟨⟨⟩⟩⟩⟩ := h
    exact ⟨_, by rw [hx _ rfl, hy _ rfl]; rfl⟩

theorem derives_of_rule {rule : Grammar.Rule} (hrule : rule ∈ rules) {tokens : List Token}
    {operands : List Tree} (h : DerivesAll rule.symbols tokens operands) :
    ∃ t, Grammar.Derives rule.category tokens t := by
  obtain ⟨c, symbols, p⟩ := rule
  cases p with
  | some p => exact ⟨_, .node hrule h⟩
  | none =>
    obtain ⟨t, rfl⟩ := exists_operand_of_rule hrule h
    exact ⟨t, .same hrule h⟩

theorem derivesAll_sentence (tokens : List Token) :
    ∃ operands, DerivesAll ((sentence tokens).map informal) tokens operands := by
  induction tokens with
  | nil => exact ⟨[], .nil⟩
  | cons t tokens ih =>
    obtain ⟨operands, h⟩ := ih
    exact ⟨_, .terminal h⟩

/-- Undoing one rewriting step puts the pieces of the rule together. -/
theorem derivesAll_of_produces {u v : List (Symbol Terminal Category)} {tokens : List Token}
    (h : contextFreeGrammar.Produces u v)
    (hv : ∃ operands, DerivesAll (v.map informal) tokens operands) :
    ∃ operands, DerivesAll (u.map informal) tokens operands := by
  obtain ⟨r, hr, hrewrites⟩ := h
  obtain ⟨rule, hrule, rfl⟩ := mem_rules_contextFreeGrammar.mp hr
  obtain ⟨p, q, rfl, rfl⟩ := hrewrites.exists_parts
  simp only [List.map_append, map_informal_formal, List.map_cons, informal, List.append_assoc,
    List.singleton_append] at hv ⊢
  obtain ⟨a, _, rfl, ha, hv⟩ := derivesAll_append.mp hv
  obtain ⟨b, c, rfl, ⟨_, hb⟩, _, hc⟩ := derivesAll_append.mp hv
  obtain ⟨t, ht⟩ := derives_of_rule hrule hb
  exact derivesAll_append.mpr ⟨a, b ++ c, rfl, ha, _, .category ht hc⟩

theorem derives_of_generates {c : Category} {tokens : List Token}
    (h : contextFreeGrammar.Derives [.nonterminal c] (sentence tokens)) :
    ∃ t, Grammar.Derives c tokens t := by
  have all : ∃ operands, DerivesAll ([Symbol.nonterminal c].map informal) tokens operands := by
    generalize [Symbol.nonterminal c] = u at h
    induction h using Relation.ReflTransGen.head_induction_on with
    | refl => exact derivesAll_sentence tokens
    | head hproduces _ ih => exact derivesAll_of_produces hproduces ih
  obtain ⟨_, h⟩ := all
  cases h with
  | category head tail =>
    cases tail
    exact ⟨_, by simpa using head⟩

/-- Tokens have a derivation tree exactly if their terminals are in the language. -/
theorem mem_language_iff {tokens : List Token} :
    tokens.map (·.terminal) ∈ contextFreeGrammar.language ↔
      ∃ t, Grammar.Derives .equation tokens t := by
  rw [ContextFreeGrammar.mem_language_iff]
  constructor
  · exact derives_of_generates
  · rintro ⟨t, h⟩
    exact generates_of_derives h

end UnitCalc.Expr
