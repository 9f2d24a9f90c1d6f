import UnitCalc.Proofs.Parser.Language
import UnitCalc.Proofs.Parser.SideBySide

/-!
# A sign between two terms

In a sentence of the grammar, a sign is that of a sum or difference if an expression ends in
front of it and a term starts behind it. An expression ends with a token that ends an operand,
so in front of such a sign the parser has a complete factor. With a numeral behind it, the sign
and the numeral can be put together: the parse succeeds again, unless a factorial is raised, and
the two trees are related.
-/

namespace UnitCalc.Expr

open Grammar

/-! ## The end of an expression -/

/-- The terminals that an operand can end with. -/
def operandEnds : List Terminal :=
  [.number, .positiveNumber, .negativeNumber, .unit, .rightParen, .bang, .e, .pi]

/-- Whether a place of a rule that is a terminal can end an operand. -/
def endsOperand : Grammar.Symbol → Bool
  | .terminal x => operandEnds.contains x
  | .category _ => true

theorem endsOperand_of_rule : ∀ rule ∈ rules, rule.symbols.getLast?.all endsOperand = true := by
  decide

theorem mem_operandEnds_of_rule {rule : Grammar.Rule} {x : Terminal} (h : rule ∈ rules)
    (hx : rule.symbols.getLast? = some (.terminal x)) : x ∈ operandEnds := by
  have hends := endsOperand_of_rule rule h
  rw [hx] at hends
  exact List.contains_iff_mem.mp hends

/-- The tokens of a category end with the end of an operand. -/
theorem exists_last {c : Category} {ts : List Token} {t : Tree} (h : Derives c ts t) :
    ∃ pre last, ts = pre ++ [last] ∧ last.terminal ∈ operandEnds := by
  refine h.shapeInduction ?promoted ?between ?beside ?ended ?headed ?unsigned ?enclosed ?lone
  case promoted =>
    intro _ _ _ _ _ _ ih
    exact ih
  case between =>
    intro _ _ _ _ _ a _ _ _ k _ _ _ _ _ ih
    obtain ⟨pre, last, rfl, hlast⟩ := ih
    exact ⟨a ++ k :: pre, last, by simp, hlast⟩
  case beside =>
    intro _ _ _ _ a _ _ _ _ _ _ _ ih
    obtain ⟨pre, last, rfl, hlast⟩ := ih
    exact ⟨a ++ pre, last, (List.append_assoc ..).symm, hlast⟩
  case ended =>
    intro _ _ _ _ a _ k rule hk _ _
    exact ⟨a, k, rfl, hk ▸ mem_operandEnds_of_rule rule rfl⟩
  case headed | unsigned =>
    intros
    rename_i k _ _ _ ih
    obtain ⟨pre, last, rfl, hlast⟩ := ih
    exact ⟨k :: pre, last, rfl, hlast⟩
  case enclosed =>
    intro _ _ _ _ a _ k k' rule _ hk' _ _
    exact ⟨k :: a, k', rfl, hk' ▸ mem_operandEnds_of_rule rule rfl⟩
  case lone =>
    intro _ _ _ k rule hk
    exact ⟨[], k, rfl, hk ▸ mem_operandEnds_of_rule rule rfl⟩

/-! ## The state behind an expression -/

namespace State

variable {frames : List Frame} {level : Level} {t : Token} {s s' : State}

/-- The states behind the end of an operand: a factor is complete, or it is the units of a
conversion that are read. -/
inductive BehindEnd : State → Prop where
  | completes {s : State} {frames : List Frame} {sum product : Option (Production × Tree)}
      {factor : Tree} (h : Completes s frames sum product factor) : BehindEnd s
  | conversion (source : Tree) (us : UnitRun) : BehindEnd (.conversion source us)

theorem BehindEnd.behind (frames : List Frame) (level : Level) (o : Operand) :
    BehindEnd (.expression frames level (.behind o)) :=
  .completes (.operand level o)

theorem BeforeOperand.behindEnd (ht : t.terminal ∈ operandEnds)
    (h : BeforeOperand frames level t s) : BehindEnd s := by
  cases h with
  | literal | constant => exact .behind _ _ _
  | function f h =>
    rcases (functionName_ofToken? h).1 with h | h | h <;> simp [operandEnds, h] at ht
  | plus h | minus h | group h => simp [operandEnds, h] at ht

theorem BeforeArgument.behindEnd {f : FunctionName} {juxtaposed : Bool}
    (ht : t.terminal ∈ operandEnds) (h : BeforeArgument frames level f juxtaposed t s) :
    BehindEnd s := by
  cases h with
  | operand => exact .behind _ _ _
  | group h => simp [operandEnds, h] at ht

theorem BehindFactor.behindEnd {factor : Tree} (ht : t.terminal ∈ operandEnds)
    (h : BehindFactor level factor t frames s) : BehindEnd s := by
  cases h with
  | product frames p h =>
    rcases mem_productSigns.mp h with ⟨_, h⟩ | ⟨_, h⟩ | ⟨_, h⟩ <;> simp [operandEnds, h] at ht
  | sum frames p h =>
    rcases mem_sumSigns.mp h with ⟨_, h⟩ | ⟨_, h⟩ <;> simp [operandEnds, h] at ht
  | group frames h | conversion h => simp [operandEnds, h] at ht
  | close | signed | constant => exact .behind _ _ _
  | function frames f h =>
    rcases (functionName_ofToken? h).1 with h | h | h <;> simp [operandEnds, h] at ht

theorem BehindOperand.behindEnd {o : Operand} (ht : t.terminal ∈ operandEnds)
    (h : BehindOperand frames level t o s) : BehindEnd s := by
  cases h with
  | literalFactorial | factorial => exact .behind _ _ _
  | literalPower l h | power tree h => simp [operandEnds, h] at ht
  | units l h => exact .completes (.quantity level l _ _ rfl)
  | factor o s h => exact h.behindEnd ht

/-- A run of units that goes on with the end of an operand can end there. -/
theorem exists_tree?_of_step {us us' : UnitRun} (ht : t.terminal ∈ operandEnds)
    (hstep : us.step t = some us') : ∃ u, us'.tree? = some u := by
  cases UnitRun.step_cases hstep with
  | start | joined | raised => exact ⟨_, rfl⟩
  | named left base h => simp [operandEnds, h] at ht
  | extended us us' run hrun h =>
    cases h with
    | unit => exact ⟨_, rfl⟩
    | joined p h =>
      rcases mem_unitSigns.mp h with ⟨_, h⟩ | ⟨_, h⟩ <;> simp [operandEnds, h] at ht

theorem BehindUnits.behindEnd {l : Literal} {us : UnitRun} (ht : t.terminal ∈ operandEnds)
    (h : BehindUnits frames level l t us s) : BehindEnd s := by
  cases h with
  | units us us' h =>
    obtain ⟨u, hu⟩ := exists_tree?_of_step ht h
    exact .completes (.quantity level l us' u hu)
  | joined p run s hend h => exact h.behindEnd ht
  | factor us run s hend hrun h => exact h.behindEnd ht

theorem behindEnd_of_step (ht : t.terminal ∈ operandEnds) (h : s.step t = some s') :
    BehindEnd s' := by
  cases step_cases h with
  | before frames level s h => exact h.behindEnd ht
  | argument frames level f juxtaposed s h => exact h.behindEnd ht
  | behind frames level o s h => exact h.behindEnd ht
  | quantity frames level l us s h => exact h.behindEnd ht
  | conversion source us us' h => exact .conversion source us'

theorem step_conversion_of_sumSign {p : Production} {source : Tree} {us : UnitRun}
    (h : (p, t.terminal) ∈ sumSigns) : (State.conversion source us).step t = none := by
  have ht : t.terminal = .plus ∨ t.terminal = .minus :=
    (mem_sumSigns.mp h).imp And.right And.right
  cases us <;> rcases ht with ht | ht <;>
    simp [State.step, UnitRun.step, UnitRun.extend, Literal.ofToken?, ht]

/-- Behind a sign of a sum, a numeral is read in a term of its own. -/
theorem exists_step_sum {k n : Token} {p : Production} {l : Literal} (hs : BehindEnd s)
    (hk : (p, k.terminal) ∈ sumSigns) (hn : Literal.ofToken? n = some l)
    (hstep : s.step k = some s') :
    ∃ frames left, s'.step n = some (.expression frames (.ofSum p left) (.behind (.literal l))) ∧
      ∀ {g : Token} {l' : Literal}, Literal.ofToken? g = some l' → l'.signed = true →
        s.step g = some (.expression frames (.ofSum .add left) (.behind (.literal l'))) := by
  cases hs with
  | conversion source us =>
    rw [step_conversion_of_sumSign hk] at hstep
    cases hstep
  | @completes _ frames sum product factor hs =>
    let level : Level := ⟨sum, product, []⟩
    have hsign : k.terminal ∉ [.bang, .caret, .unit, .star, .slash] := by
      rcases mem_sumSigns.mp hk with ⟨_, h⟩ | ⟨_, h⟩ <;> simp [h]
    rw [hs.step hsign, (BehindFactor.sum frames p hk).eq_some] at hstep
    cases hstep
    refine ⟨frames, level.expression factor, ?_, ?_⟩
    · exact (Steps.before _ _ _ (.literal l hn)).eq_some
    · intro g l' hg hsigned
      have hliteral : g.terminal ∉ [.bang, .caret, .unit, .star, .slash] := by
        rcases literal_ofToken? hg with ⟨_, h⟩ | ⟨_, h | h⟩ <;> simp [h]
      rw [hs.step hliteral]
      exact (BehindFactor.signed frames l' hg hsigned).eq_some

end State

/-! ## Apart and together -/

section Parse

variable {R : Side → Tree → Tree → Prop} {p : Production} {l l' : Literal}
  {before behind : List Token} {k n g : Token} {tree : Tree}

/-- A sentence with a sign between an expression and a numeral, and the tokens with the literal
that the sign and the numeral are together: the parse of the tokens, too, succeeds, with a
related tree, unless a factorial is raised. -/
theorem parse_together (mirrors : Mirrors R p l l') (hk : (p, k.terminal) ∈ sumSigns)
    (hn : Literal.ofToken? n = some l) (hg : Literal.ofToken? g = some l')
    (hbefore : ∃ pre last, before = pre ++ [last] ∧ last.terminal ∈ operandEnds)
    (hparse : parse (before ++ k :: n :: behind) = .ok tree) :
    (RaisesFactorial behind → ∃ place, parse (before ++ g :: behind) = .error place) ∧
      (¬ RaisesFactorial behind →
        ∃ tree', parse (before ++ g :: behind) = .ok tree' ∧ R .same tree tree') := by
  obtain ⟨s, hrun, htree⟩ := parse_eq_ok_iff.mp hparse
  obtain ⟨pre, last, rfl, hlast⟩ := hbefore
  -- The states around the last token of the expression, and behind the sign and the numeral.
  obtain ⟨s₁, hbefore, hrun⟩ := State.run_append_eq_ok_iff.mp hrun
  obtain ⟨s₂, hsign, hrun⟩ := State.run_cons_eq_ok_iff.mp hrun
  obtain ⟨s₃, hnumeral, hrun⟩ := State.run_cons_eq_ok_iff.mp hrun
  obtain ⟨s₀, _, hend⟩ := State.run_append_eq_ok_iff.mp hbefore
  obtain ⟨_, hstep, ⟨⟩⟩ := State.run_cons_eq_ok_iff.mp hend
  obtain ⟨frames, left, hnumeral', hliteral⟩ :=
    State.exists_step_sum (State.behindEnd_of_step hlast hstep) hk hn hsign
  obtain rfl := Option.some.inj (hnumeral.symm.trans hnumeral')
  have htogether := State.run_append_ok (b := g :: behind) hbefore
  rw [State.run_cons (hliteral hg mirrors.signed)] at htogether
  constructor
  · intro hraises
    obtain ⟨rest, hrest⟩ := run_of_raisesFactorial frames mirrors.signed hraises (.ofSum .add left)
    refine ⟨rest.head?, ?_⟩
    unfold parse
    rw [htogether, hrest]
  · intro hplain
    obtain ⟨s', tree', hrun', htree', h⟩ :=
      exists_run_finish?_literal mirrors frames left hplain hrun htree
    exact ⟨tree', parse_eq_ok_iff.mpr ⟨s', htogether.trans hrun', htree'⟩, h⟩

end Parse

/-! ## Signs in sentences -/

/-- The tokens are a sentence of the grammar in which the sign is that of a sum or difference:
an expression ends in front of it, a term starts behind it, and where these stand together with
the sign, the sentence has an expression. -/
def ReadsSum (before : List Token) (k : Token) (behind : List Token) : Prop :=
  ∃ outer left right rest, before = outer ++ left ∧ behind = right ++ rest ∧
    (k.terminal = .plus ∨ k.terminal = .minus) ∧
    contextFreeGrammar.Derives [.nonterminal .equation]
      (sentence outer ++ .nonterminal .expr :: sentence rest) ∧
    contextFreeGrammar.Derives [.nonterminal .expr] (sentence left) ∧
    contextFreeGrammar.Derives [.nonterminal .term] (sentence right)

section ReadsSum

variable {before behind : List Token} {k : Token}

theorem ReadsSum.sumSign (h : ReadsSum before k behind) :
    k.terminal = .plus ∨ k.terminal = .minus := by
  obtain ⟨_, _, _, _, _, _, hk, _⟩ := h
  exact hk

/-- An expression, a sign and a term are the whole sentence. -/
theorem readsSum_of_derives {l r : Tree} (hk : k.terminal = .plus ∨ k.terminal = .minus)
    (hl : Grammar.Derives .expr before l) (hr : Grammar.Derives .term behind r) :
    ReadsSum before k behind := by
  have hexpr : ⟨.equation, [.category .expr], none⟩ ∈ Grammar.rules := by decide
  have hproduces := produces_of_rule hexpr
  exact ⟨[], before, behind, [], rfl, (List.append_nil behind).symm, hk, hproduces.single,
    generates_of_derives hl, generates_of_derives hr⟩

/-- The tokens around such a sign are accepted. -/
theorem ReadsSum.exists_parse (h : ReadsSum before k behind) :
    ∃ tree, parse (before ++ k :: behind) = .ok tree := by
  obtain ⟨outer, left, right, rest, rfl, rfl, hk, houter, hleft, hright⟩ := h
  obtain ⟨l, hl⟩ := derives_of_generates hleft
  obtain ⟨r, hr⟩ := derives_of_generates hright
  have hsign : operand? k = none := by
    rcases hk with hk | hk <;> simp [operand?, hk]
  have hsum : contextFreeGrammar.Derives [.nonterminal .expr] (sentence (left ++ k :: right)) := by
    rcases hk with hk | hk
    · exact generates_of_derives (.between (p := .add) (by decide) hk hsign hl hr)
    · exact generates_of_derives (.between (p := .sub) (by decide) hk hsign hl hr)
  have hsentence : contextFreeGrammar.Derives [.nonterminal .equation]
      (sentence (outer ++ left ++ k :: (right ++ rest))) := by
    have hinner := (hsum.append_left (sentence outer)).append_right (sentence rest)
    rw [List.append_assoc, List.singleton_append] at hinner
    simpa using houter.trans hinner
  rw [parse_ok_iff, ← mem_language_iff, ContextFreeGrammar.mem_language_iff]
  exact hsentence

/-- In front of such a sign an operand ends. -/
theorem ReadsSum.exists_last (h : ReadsSum before k behind) :
    ∃ pre last, before = pre ++ [last] ∧ last.terminal ∈ operandEnds := by
  obtain ⟨outer, left, _, _, rfl, _, _, _, hleft, _⟩ := h
  obtain ⟨l, hl⟩ := derives_of_generates hleft
  obtain ⟨pre, last, rfl, hlast⟩ := UnitCalc.Expr.exists_last hl
  exact ⟨outer ++ pre, last, (List.append_assoc ..).symm, hlast⟩

end ReadsSum

end UnitCalc.Expr
