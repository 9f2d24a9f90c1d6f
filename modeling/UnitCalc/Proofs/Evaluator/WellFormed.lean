import UnitCalc.Calculator
import UnitCalc.Proofs.Lexeme.Terminal
import UnitCalc.Proofs.Parser.Ambiguity

/-!
# Parse trees are well-formed

Every node of a parse tree has as many operands as its production takes, every leaf can be
read, and every choice has readings. So an evaluation that starts from a text never meets an
unknown production, a wrong number of operands, an unknown unit or an unreadable numeral.
-/

namespace UnitCalc.Expr

open Grammar

variable {K : Type} [Scalar K]

/-! ## Well-formed trees -/

/-- The number of operands of a production of the grammar. -/
def Production.arity? : Production → Option Nat
  | .e | .pi => some 0
  | .neg | .factorial | .signedFactorial | .sqrt | .log | .ln => some 1
  | .number | .signedNumber | .unit => some 1
  | .convert | .add | .sub | .mul | .div | .mod | .pow | .signedPow => some 2
  | .quantity | .signedQuantity | .scaled | .signedScaled => some 2
  | .unitMul | .unitDiv | .unitPow => some 2
  | .other _ => none

theorem Production.arity_le_two {p : Production} {n : Nat} (h : p.arity? = some n) : n ≤ 2 := by
  cases p <;> cases h <;> decide

/-- A leaf that has a value, or a numeral that is too large for one. -/
def Readable (r : Registry K) (terminal : Terminal) (text : String) : Prop :=
  ∀ f, leafValue r terminal text = .error f → f.rulesOutReading = true

mutual

/-- A tree in which every production has its operands and every leaf can be read. -/
def WellFormed (r : Registry K) : Tree → Prop
  | .leaf terminal text => Readable r terminal text
  | .node p children => p.arity? = some children.length ∧ AllWellFormed r children
  | .choice trees => trees ≠ [] ∧ AllWellFormed r trees

def AllWellFormed (r : Registry K) : List Tree → Prop
  | [] => True
  | tree :: trees => WellFormed r tree ∧ AllWellFormed r trees

end

theorem allWellFormed_iff {r : Registry K} {trees : List Tree} :
    AllWellFormed r trees ↔ ∀ t ∈ trees, WellFormed r t := by
  induction trees with
  | nil => simp [AllWellFormed]
  | cons t trees ih => simp [AllWellFormed, ih]

/-! ## Derived trees -/

/-- Whether the production of a rule takes as many operands as the rule has. -/
def Rule.agrees (rule : Grammar.Rule) : Bool :=
  match rule.symbols, rule.production with
  | [.category _, .terminal _, .category _], some p => p.arity? == some 2
  | [.category _, .category _], some p => p.arity? == some 2
  | [.category _, .terminal _], some p => p.arity? == some 1
  | [.terminal _, .category _], some p => p.arity? == some 1
  | [.terminal x], some p =>
    p.arity? == some (operand? ⟨⟨"", 0⟩, x⟩).toList.length
  | _, _ => true

theorem Rule.agrees_of_mem : ∀ rule ∈ rules, Rule.agrees rule = true := by
  decide

theorem wellFormed_of_derives {r : Registry K} {c : Category} {tokens : List Token} {t : Tree}
    (h : Derives c tokens t)
    (hread : ∀ token ∈ tokens, operand? token ≠ none →
      Readable r token.terminal token.text) : WellFormed r t := by
  revert hread
  refine h.shapeInduction ?promoted ?between ?beside ?ended ?headed ?unsigned ?enclosed ?lone
  case promoted =>
    intro c d a l _ _ hl hread
    exact hl hread
  case between =>
    intro c d d' x p a b l r k rule _ _ hl _ hr hread
    have harity := Rule.agrees_of_mem _ rule
    refine ⟨by simpa [Rule.agrees] using harity, hl fun k hk => hread k (by simp [hk]),
      hr fun k hk => hread k (by simp [hk]), trivial⟩
  case beside =>
    intro c d d' p a b l r rule _ hl _ hr hread
    have harity := Rule.agrees_of_mem _ rule
    refine ⟨by simpa [Rule.agrees] using harity, hl fun k hk => hread k (by simp [hk]),
      hr fun k hk => hread k (by simp [hk]), trivial⟩
  case ended =>
    intro c d x p a l k rule _ _ hl hread
    have harity := Rule.agrees_of_mem _ rule
    exact ⟨by simpa [Rule.agrees] using harity, hl fun k hk => hread k (by simp [hk]), trivial⟩
  case headed =>
    intro c d x p a l k rule _ _ hl hread
    have harity := Rule.agrees_of_mem _ rule
    exact ⟨by simpa [Rule.agrees] using harity, hl fun k hk => hread k (by simp [hk]), trivial⟩
  case unsigned =>
    intro c d x a l k _ _ _ hl hread
    exact hl fun k hk => hread k (by simp [hk])
  case enclosed =>
    intro c d x y a l k k' _ _ _ _ hl hread
    exact hl fun k hk => hread k (by simp [hk])
  case lone =>
    intro c x p k rule hk hread
    have harity := Rule.agrees_of_mem _ rule
    subst hk
    refine ⟨?_, ?_⟩
    -- The number of operands depends on the terminal only, and not on the text.
    · simp only [Rule.agrees, beq_iff_eq] at harity
      rw [harity]
      unfold operand?
      cases k.terminal <;> rfl
    · cases hoperand : operand? k with
      | none => exact trivial
      | some leaf =>
        have hreadable := hread k List.mem_cons_self (by simp [hoperand])
        unfold operand? at hoperand
        split at hoperand <;> cases hoperand <;> exact ⟨hreadable, trivial⟩

/-! ## Choices -/

theorem exists_mem_readings {t : Tree} (h : ∀ c ∈ t.choices, Tree.IsPair c) :
    ∃ a, a ∈ t.readings := by
  refine List.exists_mem_of_length_pos ?_
  rw [Tree.length_readings t h]
  exact Nat.two_pow_pos _

theorem exists_mem_readingsOfAll {ts : List Tree}
    (h : ∀ c ∈ Tree.choicesOfAll ts, Tree.IsPair c) : ∃ as, as ∈ Tree.readingsOfAll ts := by
  refine List.exists_mem_of_length_pos ?_
  rw [Tree.length_readingsOfAll ts h]
  exact Nat.two_pow_pos _

mutual

/-- A tree is well-formed if all its readings are. -/
theorem wellFormed_of_readings {r : Registry K} : ∀ t : Tree,
    (∀ c ∈ t.choices, Tree.IsPair c) → (∀ a ∈ t.readings, WellFormed r a) → WellFormed r t
  | .leaf terminal text, _, h => h _ (by rw [Tree.readings]; exact List.mem_singleton_self _)
  | .node p children, hpairs, h => by
    rw [Tree.choices] at hpairs
    have hnode (as : List Tree) (has : as ∈ Tree.readingsOfAll children) :
        WellFormed r (.node p as) := by
      refine h _ ?_
      rw [Tree.readings]
      exact List.mem_map_of_mem has
    obtain ⟨as, has⟩ := exists_mem_readingsOfAll hpairs
    have harity := (hnode as has).1
    rw [Tree.length_of_mem_readingsOfAll has] at harity
    exact ⟨harity, allWellFormed_of_readings children hpairs fun as has => (hnode as has).2⟩
  | .choice trees, hpairs, h => by
    rw [Tree.choices] at hpairs
    have hpair := hpairs trees List.mem_cons_self
    obtain ⟨hreadings, _⟩ := Tree.readings_choice_of_isPair hpair
    obtain ⟨l, l', rfl, _⟩ := hpair
    rw [hreadings] at h
    exact ⟨List.cons_ne_nil _ _, allWellFormed_iff.mpr h⟩

theorem allWellFormed_of_readings {r : Registry K} : ∀ ts : List Tree,
    (∀ c ∈ Tree.choicesOfAll ts, Tree.IsPair c) →
    (∀ as ∈ Tree.readingsOfAll ts, AllWellFormed r as) → AllWellFormed r ts
  | [], _, _ => trivial
  | t :: ts, hpairs, h => by
    rw [Tree.choicesOfAll] at hpairs
    have hfirst : ∀ c ∈ t.choices, Tree.IsPair c :=
      fun c hc => hpairs c (List.mem_append_left _ hc)
    have hrest : ∀ c ∈ Tree.choicesOfAll ts, Tree.IsPair c :=
      fun c hc => hpairs c (List.mem_append_right _ hc)
    have hcons {a : Tree} {as : List Tree} (ha : a ∈ t.readings)
        (has : as ∈ Tree.readingsOfAll ts) : AllWellFormed r (a :: as) := by
      refine h _ ?_
      rw [Tree.readingsOfAll]
      exact List.mem_flatMap.mpr ⟨a, ha, List.mem_map_of_mem has⟩
    obtain ⟨a, ha⟩ := exists_mem_readings hfirst
    obtain ⟨as, has⟩ := exists_mem_readingsOfAll hrest
    exact ⟨wellFormed_of_readings t hfirst fun a ha => (hcons ha has).1,
      allWellFormed_of_readings ts hrest fun as has => (hcons ha has).2⟩

end

/-! ## Parse trees -/

theorem readable_numeral (r : Registry K) {terminal : Terminal} {text : String}
    (hterminal : terminal ≠ .unit) (htext : Number.Numeral.isNumeral text.toList = true) :
    Readable r terminal text := by
  intro f hf
  obtain ⟨reading, hreading⟩ := Number.Numeral.ofText?_of_isNumeral htext
  simp only [leafValue, if_neg hterminal, numeralValue, hreading] at hf
  cases reading with
  | decimal negative digits exponent =>
    simp only at hf
    split at hf <;> cases hf
    rfl
  | infinite | notANumber =>
    cases hf
    rfl

theorem readable_unit {r : Registry K} {text : String} (h : r.has text = true) :
    Readable r .unit text := by
  intro f hf
  obtain ⟨u, hu⟩ := Registry.has_iff.mp h
  simp [leafValue, Registry.quantity?, hu] at hf

/-- No operator sign or keyword is an operand. -/
theorem operand?_of_fixed {k : Token} (h : k.terminal ∈ Terminal.fixed.map (·.2)) :
    operand? k = none := by
  simp only [Terminal.fixed, List.map_cons, List.map_nil, List.mem_cons, List.not_mem_nil,
    or_false] at h
  unfold operand?
  split <;> simp_all

/-- A lexeme that is taken for a numeral or a unit can be read as one. -/
theorem readable_ofLexeme (r : Registry K) (lexeme : Lexeme)
    (h : operand? (Token.ofLexeme r lexeme) ≠ none) :
    Readable r (Token.ofLexeme r lexeme).terminal lexeme.text := by
  cases classified_ofLexeme r lexeme with
  | fixed hfixed => exact absurd (operand?_of_fixed (List.mem_map_of_mem hfixed)) h
  | numeral hnumeral hterminal =>
    refine readable_numeral r ?_ hnumeral
    rw [hterminal]
    unfold Terminal.ofNumeral
    split <;> simp
  | unit hhas hterminal =>
    rw [hterminal]
    exact readable_unit hhas
  | unknown hterminal => exact absurd (by simp [operand?, hterminal]) h

section Parse

variable {r : Registry K} {lexemes : List Lexeme} {tree : Tree}

theorem wellFormed_of_mem_readings (h : parse (lexemes.map (Token.ofLexeme r)) = .ok tree)
    {t : Tree} (ht : t ∈ tree.readings) : WellFormed r t := by
  refine wellFormed_of_derives ((mem_readings_of_parse h t).mp ht) ?_
  intro token htoken hoperand
  obtain ⟨lexeme, _, rfl⟩ := List.mem_map.mp htoken
  exact readable_ofLexeme r lexeme hoperand

/-- The tree of a parse is well-formed. -/
theorem wellFormed_of_parse (h : parse (lexemes.map (Token.ofLexeme r)) = .ok tree) :
    WellFormed r tree :=
  wellFormed_of_readings tree (isPair_of_forall₂ (choices_of_parse h))
    fun _ ht => wellFormed_of_mem_readings h ht

end Parse

end UnitCalc.Expr
