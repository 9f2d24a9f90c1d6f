import UnitCalc.Proofs.Parser.Recognition

/-!
# What is derived the parser reads

Every rule of the grammar keeps what the tokens of its parts cause, so the tokens of a
derivation cause what `Recognized` says of its category, and the parser reads them.
-/

namespace UnitCalc.Expr

open Grammar

/-! ## Units -/

section Units

variable {a b : List Token} {l r : Tree} {t : Token} {us : UnitRun}

/-- Units go on with a sign of a product and a unit, or with a unit alone. -/
theorem UnitFactorRuns.join (h : UnitFactorRuns b r) (us : UnitRun)
    (left : Option (Production × Tree))
    (hstep : ∀ k, k.terminal = .unit → us.step k = some (.named left (UnitRun.unit k))) :
    ∃ us', us.run b = some us' ∧ us'.tree? = some (.closeOver left r) := by
  obtain ⟨k, rest, rfl, hk, hrest⟩ := h
  obtain ⟨us', hrun, htree⟩ := hrest left
  refine ⟨us', ?_, htree⟩
  simpa [UnitRun.run, hstep k hk] using hrun

theorem recognized_units (h : UnitFactorRuns b r) : Recognized .units b r :=
  h.join .start none fun k hk => by simp [UnitRun.step, hk]

theorem recognized_units_joined {p : Production} (hl : Recognized .units a l)
    (hp : (p, t.terminal) ∈ [(.unitMul, .star), (.unitDiv, .slash)]) (hr : UnitFactorRuns b r) :
    Recognized .units (a ++ t :: b) (.node p [l, r]) := by
  obtain ⟨us, hrun, htree⟩ := hl
  simp only [List.mem_cons, Prod.mk.injEq, List.not_mem_nil, or_false] at hp
  have hstep : us.step t = some (.joined p l) := by
    rcases hp with ⟨rfl, ht⟩ | ⟨rfl, ht⟩ <;>
      simp [UnitRun.step_of_tree? htree, ht, UnitRun.extend]
  obtain ⟨us', hrun', htree'⟩ := hr.join (.joined p l) (some (p, l))
    fun k hk => by simp [UnitRun.step, hk]
  refine ⟨us', ?_, htree'⟩
  rw [UnitRun.run_append, hrun]
  simpa [UnitRun.run, hstep] using hrun'

theorem recognized_units_beside (hl : Recognized .units a l) (hr : UnitFactorRuns b r) :
    Recognized .units (a ++ b) (.node .unitMul [l, r]) := by
  obtain ⟨us, hrun, htree⟩ := hl
  obtain ⟨us', hrun', htree'⟩ := hr.join us (some (.unitMul, l))
    fun k hk => by simp [UnitRun.step_of_tree? htree, UnitRun.extend, hk]
  exact ⟨us', by rw [UnitRun.run_append, hrun]; exact hrun', htree'⟩

theorem recognized_unitFactor (h : Recognized .unitName a l) : UnitFactorRuns a l := by
  obtain ⟨k, rfl, hk, rfl⟩ := h
  exact ⟨k, [], rfl, hk, fun left => ⟨_, rfl, rfl⟩⟩

theorem recognized_unitPow (hl : Recognized .unitName a l) (ht : t.terminal = .caret)
    (hr : Recognized .exponent b r) : UnitFactorRuns (a ++ t :: b) (.node .unitPow [l, r]) := by
  obtain ⟨k, rfl, hk, rfl⟩ := hl
  obtain ⟨k', n, rfl, hn, rfl⟩ := hr
  refine ⟨k, [t, k'], rfl, hk, ?_⟩
  intro left
  refine ⟨.whole left (.node .unitPow [UnitRun.unit k, n.tree]), ?_, rfl⟩
  simp [UnitRun.run, UnitRun.step, ht, hn]

/-- Behind a numeral, units lead to the quantity. -/
theorem run_literal_units {u : Tree} {ts : List Token} (h : Recognized .units ts u)
    (frames : List Frame) (level : Level) (l : Literal) :
    ∃ us, (State.expression frames level (.behind (.literal l))).run ts =
      .ok (.expression frames level (.quantity l us)) ∧ us.tree? = some u := by
  obtain ⟨us, hrun, htree⟩ := h
  cases ts with
  | nil =>
    cases hrun
    cases htree
  | cons k rest =>
    obtain ⟨us₁, hstep, hrun⟩ := UnitRun.run_cons_eq_some_iff.mp hrun
    simp only [UnitRun.step, Option.ite_none_right_eq_some] at hstep
    obtain ⟨hk, hus₁⟩ := hstep
    cases hus₁
    refine ⟨us, ?_, htree⟩
    rw [State.run_cons (by simp [State.step, State.behindOperand, hk]; rfl)]
    exact State.run_quantity hrun

end Units

/-! ## Factors -/

section Factors

variable {frames : List Frame} {level : Level} {c : Category} {a b ts : List Token}
  {l r t : Tree} {k x : Token} {n m : Literal} {signed : Bool} {s : State}

theorem step_literal (h : Literal.ofToken? k = some n) (frames : List Frame) (level : Level) :
    (State.expression frames level .before).step k =
      some (.expression frames level (.behind (.literal n))) := by
  simp [State.step, State.beforeOperand, h]

theorem step_literal_caret (h : x.terminal = .caret) (frames : List Frame) (level : Level)
    (n : Literal) : (State.expression frames level (.behind (.literal n))).step x =
      some (.expression frames (level.openPrefix (.literalPower n)) .before) := by
  simp [State.step, State.behindOperand, h]

theorem terminal_ne_unit_of_ofToken? (h : Literal.ofToken? k = some n) : k.terminal ≠ .unit := by
  intro hk
  simp [Literal.ofToken?, hk] at h

/-- The factor behind an open operator is the operand of that operator. -/
theorem HoldsFactor.close {o : OpenPrefix} (h : HoldsFactor frames (level.openPrefix o) r s)
    (hr : (o.close r).Covers t) : HoldsFactor frames level t s := by
  obtain ⟨factor, hs, hf⟩ := h
  exact ⟨factor, hs, hf.trans (hr.factor level)⟩

theorem holdsFactor_operand (o : Operand) (h : o.tree.Covers t) :
    HoldsFactor frames level t (.expression frames level (.behind o)) :=
  ⟨_, .operand level o, h.factor level⟩

theorem LiteralRuns.factorRuns (h : LiteralRuns signed ts t) : FactorRuns ts t := by
  obtain ⟨k, n, rest, rfl, hn, _, hrun⟩ := h
  refine ⟨⟨k, rest, rfl, terminal_ne_unit_of_ofToken? hn⟩, ?_⟩
  intro frames level
  rw [State.run_cons (step_literal hn frames level)]
  exact hrun frames level

theorem factorRuns_unary {o : OpenPrefix} (hk : k.terminal ≠ .unit)
    (hstep : ∀ frames level, (State.expression frames level .before).step k =
      some (.expression frames (level.openPrefix o) .before))
    (h : FactorRuns a l) : FactorRuns (k :: a) (o.close l) := by
  refine ⟨⟨k, a, rfl, hk⟩, ?_⟩
  intro frames level
  obtain ⟨s, hrun, hs⟩ := h.2 frames (level.openPrefix o)
  rw [State.run_cons (hstep frames level)]
  exact ⟨s, hrun, hs.close (Tree.Covers.refl _)⟩

theorem factorRuns_plus (hk : k.terminal = .plus) (h : FactorRuns a l) : FactorRuns (k :: a) l :=
  factorRuns_unary (o := .plus) (by simp [hk])
    (by simp [State.step, State.beforeOperand, Literal.ofToken?, constant?,
      FunctionName.ofToken?, hk]) h

theorem factorRuns_minus (hk : k.terminal = .minus) (h : FactorRuns a l) :
    FactorRuns (k :: a) (.node .neg [l]) :=
  factorRuns_unary (o := .minus) (by simp [hk])
    (by simp [State.step, State.beforeOperand, Literal.ofToken?, constant?,
      FunctionName.ofToken?, hk]) h

/-! ### Signed numerals -/

theorem literalRuns_number (h : Recognized .signedNumber ts t) : LiteralRuns true ts t := by
  obtain ⟨k, n, rfl, hn, hs, rfl⟩ := h
  exact ⟨k, n, [], rfl, hn, hs, fun frames level =>
    ⟨_, rfl, holdsFactor_operand (.literal n) (Tree.Covers.refl _)⟩⟩

theorem literalRuns_pow (h : Recognized .signedNumber a l) (hx : x.terminal = .caret)
    (hr : FactorRuns b r) : LiteralRuns true (a ++ x :: b) (.node .signedPow [l, r]) := by
  obtain ⟨k, n, rfl, hn, hs, rfl⟩ := h
  refine ⟨k, n, x :: b, rfl, hn, hs, ?_⟩
  intro frames level
  obtain ⟨s, hrun, hfactor⟩ := hr.2 frames (level.openPrefix (.literalPower n))
  rw [State.run_cons (step_literal_caret hx frames level n)]
  refine ⟨s, hrun, hfactor.close ?_⟩
  simpa [OpenPrefix.close, Literal.power, hs] using Tree.Covers.refl (n.power r)

theorem literalRuns_factorial (h : Recognized .signedNumber a l) (hx : x.terminal = .bang) :
    LiteralRuns true (a ++ [x]) (.node .signedFactorial [l]) := by
  obtain ⟨k, n, rfl, hn, hs, rfl⟩ := h
  refine ⟨k, n, [x], rfl, hn, hs, ?_⟩
  intro frames level
  have hstep : (State.expression frames level (.behind (.literal n))).step x =
      some (.expression frames level (.behind (.closed n.factorial))) := by
    simp [State.step, State.behindOperand, hx, hs]
  rw [State.run_cons hstep]
  refine ⟨_, rfl, holdsFactor_operand (.closed n.factorial) ?_⟩
  simpa [Operand.tree, Literal.factorial, hs] using Tree.Covers.refl n.factorial

/-! ### Quantities -/

theorem recognized_scaled (hl : ∃ k n, a = [k] ∧ Literal.ofToken? k = some n ∧
      n.signed = signed ∧ l = n.tree) (hx : x.terminal = .caret)
    (hr : Recognized .exponent b r) :
    IsMagnitude signed (a ++ x :: b)
      (.node (if signed then .signedScaled else .scaled) [l, r]) := by
  obtain ⟨k, n, rfl, hn, hs, rfl⟩ := hl
  obtain ⟨k', m, rfl, hm, rfl⟩ := hr
  exact ⟨k, n, hn, hs, .inr ⟨x, k', m, rfl, hx, hm, rfl⟩⟩

/-- The units make a numeral in front of them a quantity, and the power of two numerals too:
there the parser holds both readings. -/
theorem literalRuns_quantity (hl : IsMagnitude signed a l) (hr : Recognized .units b r) :
    LiteralRuns signed (a ++ b)
      (.node (if signed then .signedQuantity else .quantity) [l, r]) := by
  obtain ⟨k, n, hn, rfl, ⟨rfl, rfl⟩ | ⟨x, k', m, rfl, hx, hm, rfl⟩⟩ := hl
  -- units behind a numeral
  · refine ⟨k, n, b, rfl, hn, rfl, ?_⟩
    intro frames level
    obtain ⟨us, hrun, hu⟩ := run_literal_units hr frames level n
    exact ⟨_, hrun, _, .quantity level n us r hu, Tree.covers_quantityFactor level n r⟩
  -- units behind a power of two numerals
  · refine ⟨k, n, x :: k' :: b, rfl, hn, rfl, ?_⟩
    intro frames level
    obtain ⟨us, hrun, hu⟩ :=
      run_literal_units hr frames (level.openPrefix (.literalPower n)) m
    rw [State.run_cons (step_literal_caret hx frames level n),
      State.run_cons (step_literal hm frames _)]
    refine ⟨_, hrun, _, .quantity _ m us r hu, ?_⟩
    have hscaled : (Tree.choice [n.power (m.quantity r), n.scaledQuantity m r]).Covers
        (n.scaledQuantity m r) := by
      intro t ht
      exact Tree.mem_readings_choice.mpr (.inr ht)
    exact hscaled.factor level

end Factors

/-! ## Operands -/

section Operands

variable {frames : List Frame} {level : Level} {c : Category} {a b ts : List Token}
  {l r t : Tree} {k x : Token} {s : State}

theorem OperandRuns.factorRuns (h : OperandRuns ts t) (hd : Derives c ts t) :
    FactorRuns ts t := by
  refine ⟨h.1, ?_⟩
  intro frames level
  obtain ⟨o, hrun, hcases⟩ := h.2 frames level
  refine ⟨_, hrun, holdsFactor_operand o ?_⟩
  rcases hcases with ⟨n, rfl, _, rfl⟩ | ⟨tree, rfl, ht⟩
  · exact Tree.Covers.refl _
  · exact Tree.covers_of_mem hd ht

theorem operandRuns_power (hl : OperandRuns a l) (hd : Derives c a l)
    (hx : x.terminal = .caret) (hr : FactorRuns b r) :
    FactorRuns (a ++ x :: b) (.node .pow [l, r]) := by
  obtain ⟨⟨k, rest, rfl, hk⟩, hl⟩ := hl
  refine ⟨⟨k, rest ++ x :: b, rfl, hk⟩, ?_⟩
  intro frames level
  obtain ⟨o, hrun, hcases⟩ := hl frames level
  rw [State.run_append_ok hrun]
  -- A numeral is not closed by the caret: units behind the exponent may still take both.
  rcases hcases with ⟨n, rfl, hn, rfl⟩ | ⟨tree, rfl, ht⟩
  · obtain ⟨s, hrun', hs⟩ := hr.2 frames (level.openPrefix (.literalPower n))
    rw [State.run_cons (step_literal_caret hx frames level n)]
    refine ⟨s, hrun', hs.close ?_⟩
    simpa [OpenPrefix.close, Literal.power, hn] using Tree.Covers.refl (n.power r)
  · obtain ⟨s, hrun', hs⟩ := hr.2 frames (level.openPrefix (.power tree))
    have hstep : (State.expression frames level (.behind (.primary tree))).step x =
        some (.expression frames (level.openPrefix (.power tree)) .before) := by
      simp [State.step, State.behindOperand, hx]
    rw [State.run_cons hstep]
    exact ⟨s, hrun', hs.close ((Tree.covers_of_mem hd ht).node (Tree.Covers.refl r))⟩

theorem operandRuns_factorial (hl : OperandRuns a l) (hx : x.terminal = .bang) :
    OperandRuns (a ++ [x]) (.node .factorial [l]) := by
  obtain ⟨⟨k, rest, rfl, hk⟩, hl⟩ := hl
  refine ⟨⟨k, rest ++ [x], rfl, hk⟩, ?_⟩
  intro frames level
  obtain ⟨o, hrun, hcases⟩ := hl frames level
  rw [State.run_append_ok hrun]
  rcases hcases with ⟨n, rfl, hn, rfl⟩ | ⟨tree, rfl, ht⟩
  · refine ⟨.primary n.factorial, ?_, .inr ⟨_, rfl, ?_⟩⟩
    · simp [State.run, State.step, State.behindOperand, hx, hn]
    · simp only [Literal.factorial, hn]
      exact Tree.mem_readings_one.mpr ⟨_, List.mem_singleton_self _, rfl⟩
  · refine ⟨.primary (.node .factorial [tree]), ?_, .inr ⟨_, rfl, ?_⟩⟩
    · simp [State.run, State.step, State.behindOperand, hx]
    · exact Tree.mem_readings_one.mpr ⟨l, ht, rfl⟩

theorem operandRuns_number (h : Recognized .plainNumber ts t) : OperandRuns ts t := by
  obtain ⟨k, n, rfl, hn, hs, rfl⟩ := h
  refine ⟨⟨k, [], rfl, terminal_ne_unit_of_ofToken? hn⟩, ?_⟩
  intro frames level
  exact ⟨.literal n, State.run_cons (step_literal hn frames level), .inl ⟨n, rfl, hs, rfl⟩⟩

theorem operandRuns_constant (h : Recognized .constant ts t) : OperandRuns ts t := by
  obtain ⟨k, rfl, ht⟩ := h
  obtain ⟨hk, hlit, hself⟩ := constant?_eq_some ht
  refine ⟨⟨k, [], rfl, ?_⟩, fun frames level => ⟨.primary t, ?_, .inr ⟨t, rfl, hself⟩⟩⟩
  · rcases hk with hk | hk <;> simp [hk]
  · simp [State.run, State.step, State.beforeOperand, hlit, ht]

/-! ### Brackets -/

theorem HoldsExpr.close {frame : Frame} (h : HoldsExpr (frame :: frames) t s)
    (hk : k.terminal = .rightParen) :
    ∃ e, s.step k = some (.expression frames frame.level (.behind (frame.operand e))) ∧
      t ∈ e.readings := by
  obtain ⟨sum, product, factor, hs, ht⟩ := h
  refine ⟨_, ?_, ht⟩
  rw [hs.step (by simp [hk])]
  simp [State.behindFactor, hk, Level.expression, Level.term]

/-- Behind an open bracket, an expression and the closing bracket make an operand. -/
theorem run_group (h : ExprRuns a t) (hk : k.terminal = .rightParen) (frame : Frame)
    (frames : List Frame) :
    ∃ e, (State.expression (frame :: frames) .empty .before).run (a ++ [k]) =
        .ok (.expression frames frame.level (.behind (frame.operand e))) ∧ t ∈ e.readings := by
  obtain ⟨s, hrun, hs⟩ := h (frame :: frames)
  obtain ⟨e, hstep, he⟩ := hs.close hk
  refine ⟨e, ?_, he⟩
  rw [State.run_append_ok hrun, State.run_cons hstep, State.run]

theorem operandRuns_group (h : Recognized .group ts t) : OperandRuns ts t := by
  obtain ⟨k, a, k', rfl, hk, hk', hrun⟩ := h
  refine ⟨⟨k, a ++ [k'], rfl, by simp [hk]⟩, ?_⟩
  intro frames level
  obtain ⟨e, hrun, he⟩ := run_group hrun hk' ⟨level, none, false⟩ frames
  have hstep : (State.expression frames level .before).step k =
      some (.expression (⟨level, none, false⟩ :: frames) .empty .before) := by
    simp [State.step, State.beforeOperand, Literal.ofToken?, constant?,
      FunctionName.ofToken?, hk]
  rw [State.run_cons hstep, hrun]
  exact ⟨.primary e, rfl, .inr ⟨e, rfl, he⟩⟩

/-! ### Functions -/

theorem mem_readings_apply {f : FunctionName} (h : t ∈ l.readings) :
    f.apply t ∈ (f.apply l).readings :=
  Tree.mem_readings_one.mpr ⟨t, h, rfl⟩

theorem argumentRuns_group (h : Recognized .group ts t) : ArgumentRuns ts t := by
  obtain ⟨k, a, k', rfl, hk, hk', hrun⟩ := h
  intro f frames level j
  obtain ⟨e, hrun, he⟩ := run_group hrun hk' ⟨level, some f, j⟩ frames
  have hstep : (State.expression frames level (.argument f j)).step k =
      some (.expression (⟨level, some f, j⟩ :: frames) .empty .before) := by
    simp [State.step, State.beforeArgument, hk]
  rw [State.run_cons hstep, hrun]
  exact ⟨e, rfl, he⟩

theorem argumentRuns_number (h : Recognized .plainNumber ts t) : ArgumentRuns ts t := by
  obtain ⟨k, n, rfl, hn, hs, rfl⟩ := h
  intro f frames level j
  refine ⟨n.tree, ?_, List.mem_singleton_self _⟩
  unfold Literal.ofToken? at hn
  split at hn <;> cases hn
  · rename_i hk
    simp [State.run, State.step, State.beforeArgument, hk]
  · cases hs
  · cases hs

theorem argumentRuns_constant (h : Recognized .constant ts t) : ArgumentRuns ts t := by
  obtain ⟨k, rfl, ht⟩ := h
  obtain ⟨hk, _, hself⟩ := constant?_eq_some ht
  intro f frames level j
  refine ⟨t, ?_, hself⟩
  rcases hk with hk | hk <;> simp [State.run, State.step, State.beforeArgument, hk, ht]

theorem operandRuns_function (h : Recognized .function ts t) : OperandRuns ts t := by
  obtain ⟨k, f, rest, y, rfl, hf, rfl, hrun⟩ := h
  obtain ⟨hk, hlit, hconst⟩ := functionName_ofToken? hf
  refine ⟨⟨k, rest, rfl, ?_⟩, fun frames level => ?_⟩
  · rcases hk with hk | hk | hk <;> simp [hk]
  · obtain ⟨tree, hrun, ht⟩ := hrun f frames level false
    have hstep : (State.expression frames level .before).step k =
        some (.expression frames level (.argument f false)) := by
      simp [State.step, State.beforeOperand, hlit, hconst, hf]
    rw [State.run_cons hstep, hrun]
    exact ⟨.primary (f.apply tree), rfl, .inr ⟨_, rfl, mem_readings_apply ht⟩⟩

/-! ### Juxtaposed operands -/

theorem juxtaposedRuns_group (h : Recognized .group ts t) : JuxtaposedRuns ts t := by
  obtain ⟨k, a, k', rfl, hk, hk', hrun⟩ := h
  refine ⟨k, a ++ [k'], rfl, by simp [hk], ?_⟩
  intro frames level factor
  obtain ⟨e, hrun, he⟩ := run_group hrun hk' ⟨level.openProduct .mul factor, none, true⟩ frames
  exact ⟨_, e, by simp [State.behindFactor, hk], hrun, he⟩

theorem juxtaposedRuns_constant (h : Recognized .constant ts t) : JuxtaposedRuns ts t := by
  obtain ⟨k, rfl, ht⟩ := h
  obtain ⟨hk, hlit, hself⟩ := constant?_eq_some ht
  refine ⟨k, [], rfl, ?_, fun frames level factor => ⟨_, t, ?_, rfl, hself⟩⟩
  · rcases hk with hk | hk <;> simp [hk]
  · rcases hk with hk | hk <;> simp [State.behindFactor, hk, hlit, ht]

theorem juxtaposedRuns_function (h : Recognized .function ts t) : JuxtaposedRuns ts t := by
  obtain ⟨k, f, rest, y, rfl, hf, rfl, hrun⟩ := h
  obtain ⟨hk, hlit, hconst⟩ := functionName_ofToken? hf
  refine ⟨k, rest, rfl, ?_, fun frames level factor => ?_⟩
  · rcases hk with hk | hk | hk <;> simp [hk]
  · obtain ⟨tree, hrun, ht⟩ := hrun f frames (level.openProduct .mul factor) true
    refine ⟨_, f.apply tree, ?_, hrun, mem_readings_apply ht⟩
    rcases hk with hk | hk | hk <;> simp [State.behindFactor, hk, hlit, hconst, hf]

end Operands

/-! ## Terms and expressions -/

section Terms

variable {frames : List Frame} {sum : Option (Production × Tree)} {a b ts : List Token}
  {l r t : Tree} {k x : Token} {n : Literal} {p : Production} {s : State}

theorem HoldsFactor.holdsTerm (h : HoldsFactor frames ⟨sum, none, []⟩ t s)
    (ht : t ∈ t.readings) : HoldsTerm frames sum t s := by
  obtain ⟨factor, hs, hf⟩ := h
  exact ⟨none, factor, hs, hf t ht⟩

/-- Behind a term, a product goes on in the place of its right operand. -/
theorem HoldsTerm.product (h : HoldsTerm frames sum l s)
    (hp : (p, x.terminal) ∈ productSigns) (hr : FactorRuns b r) (hd : r ∈ r.readings) :
    ∃ s', s.run (x :: b) = .ok s' ∧ HoldsTerm frames sum (.node p [l, r]) s' := by
  obtain ⟨product, factor, hs, hl⟩ := h
  obtain ⟨s', hrun, factor', hs', hf'⟩ :=
    hr.2 frames ⟨sum, some (p, .closeOver product factor), []⟩
  rw [hs.run_product hp hr.1]
  exact ⟨s', hrun, _, factor', hs', Tree.mem_readings_two.mpr ⟨l, hl, r, hf' r hd, rfl⟩⟩

theorem HoldsTerm.juxtapose (h : HoldsTerm frames sum l s) (hr : JuxtaposedRuns b r) :
    ∃ s', s.run b = .ok s' ∧ HoldsTerm frames sum (.node .mul [l, r]) s' := by
  obtain ⟨product, factor, hs, hl⟩ := h
  obtain ⟨k, rest, rfl, hk, hr⟩ := hr
  obtain ⟨s₁, tree, hstep, hrun, ht⟩ := hr frames ⟨sum, product, []⟩ factor
  rw [State.run_cons ((hs.step hk).trans hstep), hrun]
  exact ⟨_, rfl, _, tree, .operand _ (.closed tree), Tree.mem_readings_two.mpr ⟨l, hl, r, ht, rfl⟩⟩

theorem FactorRuns.termRuns (h : FactorRuns ts t) (ht : t ∈ t.readings) : TermRuns ts t := by
  intro frames sum
  obtain ⟨s, hrun, hs⟩ := h.2 frames ⟨sum, none, []⟩
  exact ⟨s, hrun, hs.holdsTerm ht⟩

theorem LiteralRuns.signedTermRuns (h : LiteralRuns true ts t) (ht : t ∈ t.readings) :
    SignedTermRuns ts t := by
  obtain ⟨k, n, rest, rfl, hn, hs, hrun⟩ := h
  refine ⟨k, n, rest, rfl, hn, hs, ?_⟩
  intro frames sum
  obtain ⟨s, hrun, hs⟩ := hrun frames ⟨sum, none, []⟩
  exact ⟨s, hrun, hs.holdsTerm ht⟩

theorem TermRuns.append (h : TermRuns a l) (hb : ∀ {frames sum s}, HoldsTerm frames sum l s →
    ∃ s', s.run b = .ok s' ∧ HoldsTerm frames sum t s') : TermRuns (a ++ b) t := by
  intro frames sum
  obtain ⟨s, hrun, hs⟩ := h frames sum
  rw [State.run_append_ok hrun]
  exact hb hs

theorem SignedTermRuns.append (h : SignedTermRuns a l)
    (hb : ∀ {frames sum s}, HoldsTerm frames sum l s →
      ∃ s', s.run b = .ok s' ∧ HoldsTerm frames sum t s') : SignedTermRuns (a ++ b) t := by
  obtain ⟨k, n, rest, rfl, hn, hsigned, hrun⟩ := h
  refine ⟨k, n, rest ++ b, rfl, hn, hsigned, ?_⟩
  intro frames sum
  obtain ⟨s, hrun, hs⟩ := hrun frames sum
  rw [State.run_append_ok hrun]
  exact hb hs

/-! ### Sums -/

theorem TermRuns.exprRuns (h : TermRuns ts t) : ExprRuns ts t := by
  intro frames
  obtain ⟨s, hrun, product, factor, hs, ht⟩ := h frames none
  exact ⟨s, hrun, none, product, factor, hs, ht⟩

theorem exprRuns_sum (hl : ExprRuns a l)
    (hp : (p, x.terminal) ∈ sumSigns) (hr : TermRuns b r) :
    ExprRuns (a ++ x :: b) (.node p [l, r]) := by
  intro frames
  obtain ⟨s, hrun, sum, product, factor, hs, ht⟩ := hl frames
  obtain ⟨s', hrun', product', factor', hs', ht'⟩ :=
    hr frames (some (p, .closeOver sum (.closeOver product factor)))
  refine ⟨s', ?_, _, product', factor', hs', Tree.mem_readings_two.mpr ⟨l, ht, r, ht', rfl⟩⟩
  rw [State.run_append_ok hrun, ← hrun']
  refine State.run_cons ?_
  rcases mem_sumSigns.mp hp with ⟨rfl, hx⟩ | ⟨rfl, hx⟩
  · rw [hs.step (by simp [hx])]
    simp [State.behindFactor, hx, Level.openSum, Level.expression, Level.term]
  · rw [hs.step (by simp [hx])]
    simp [State.behindFactor, hx, Level.openSum, Level.expression, Level.term]

/-- A numeral with a sign is a summand without an operator in front of it. -/
theorem exprRuns_signed (hl : ExprRuns a l) (hr : SignedTermRuns b r) :
    ExprRuns (a ++ b) (.node .add [l, r]) := by
  intro frames
  obtain ⟨s, hrun, sum, product, factor, hs, ht⟩ := hl frames
  obtain ⟨k, n, rest, rfl, hn, hsigned, hr⟩ := hr
  obtain ⟨s', hrun', product', factor', hs', ht'⟩ :=
    hr frames (some (.add, .closeOver sum (.closeOver product factor)))
  refine ⟨s', ?_, _, product', factor', hs', Tree.mem_readings_two.mpr ⟨l, ht, r, ht', rfl⟩⟩
  have hk : k.terminal = .positiveNumber ∨ k.terminal = .negativeNumber := by
    unfold Literal.ofToken? at hn
    split at hn <;> cases hn
    · cases hsigned
    · left; assumption
    · right; assumption
  rw [State.run_append_ok hrun, ← hrun']
  refine State.run_cons ?_
  rcases hk with hk | hk
  · rw [hs.step (by simp [hk])]
    simp [State.behindFactor, hk, hn, hsigned, Level.openSum, Level.expression, Level.term]
  · rw [hs.step (by simp [hk])]
    simp [State.behindFactor, hk, hn, hsigned, Level.openSum, Level.expression, Level.term]

/-! ### Whole expressions -/

theorem HoldsExpr.finish? (h : HoldsExpr [] t s) :
    ∃ tree, s.finish? = some tree ∧ t ∈ tree.readings := by
  obtain ⟨sum, product, factor, hs, ht⟩ := h
  cases hs with
  | operand level o => exact ⟨_, rfl, ht⟩
  | quantity level l us u hu => exact ⟨_, by rw [State.finish?, hu]; rfl, ht⟩

theorem recognized_equation (h : ExprRuns ts t) : Recognized .equation ts t := by
  obtain ⟨s, hrun, hs⟩ := h []
  obtain ⟨tree, hfinish, ht⟩ := hs.finish?
  exact ⟨s, tree, hrun, hfinish, ht⟩

theorem recognized_conversion (hl : ExprRuns a l) (hx : x.terminal = .arrow)
    (hr : Recognized .units b r) (hd : r ∈ r.readings) :
    Recognized .equation (a ++ x :: b) (.node .convert [l, r]) := by
  obtain ⟨s, hrun, sum, product, factor, hs, ht⟩ := hl []
  obtain ⟨us, hus, hu⟩ := hr
  have hstep : s.step x =
      some (.conversion (.closeOver sum (.closeOver product factor)) .start) := by
    rw [hs.step (by simp [hx])]
    simp [State.behindFactor, hx, Level.expression, Level.term]
  refine ⟨.conversion (.closeOver sum (.closeOver product factor)) us,
    .node .convert [.closeOver sum (.closeOver product factor), r], ?_, ?_,
    Tree.mem_readings_two.mpr ⟨l, ht, r, hd, rfl⟩⟩
  · rw [State.start, State.run_append_ok hrun, State.run_cons hstep]
    exact State.run_conversion hus
  · simp [State.finish?, hu]

end Terms

/-! ## Every derivation is read -/

section Shapes

variable {c d d' : Category} {p : Production} {x y : Terminal} {a b : List Token}
  {l r : Tree} {t t' : Token}

theorem recognized_promoted (rule : ⟨c, [.category d], none⟩ ∈ rules) (hd : Derives d a l)
    (h : Recognized d a l) : Recognized c a l := by
  have hself : l ∈ l.readings := Tree.mem_readings_self hd
  simp only [rules, node, same, List.mem_cons, Rule.mk.injEq, List.cons.injEq,
    Grammar.Symbol.category.injEq, reduceCtorEq, and_true, and_false, List.not_mem_nil, or_false,
    false_or] at rule
  -- one case for each rule of this shape, in the order of the grammar
  rcases rule with ⟨rfl, rfl⟩ | ⟨rfl, rfl⟩ | ⟨rfl, rfl⟩ | ⟨rfl, rfl⟩ | ⟨rfl, rfl⟩ | ⟨rfl, rfl⟩ |
    ⟨rfl, rfl⟩ | ⟨rfl, rfl⟩ | ⟨rfl, rfl⟩ | ⟨rfl, rfl⟩ | ⟨rfl, rfl⟩ | ⟨rfl, rfl⟩ | ⟨rfl, rfl⟩ |
    ⟨rfl, rfl⟩ | ⟨rfl, rfl⟩ | ⟨rfl, rfl⟩ | ⟨rfl, rfl⟩ | ⟨rfl, rfl⟩ | ⟨rfl, rfl⟩ | ⟨rfl, rfl⟩ |
    ⟨rfl, rfl⟩ | ⟨rfl, rfl⟩ | ⟨rfl, rfl⟩ | ⟨rfl, rfl⟩ | ⟨rfl, rfl⟩ | ⟨rfl, rfl⟩ | ⟨rfl, rfl⟩
  · exact recognized_equation h
  · exact TermRuns.exprRuns h
  · exact FactorRuns.termRuns h hself
  · exact LiteralRuns.signedTermRuns h hself
  · exact juxtaposedRuns_group h
  · exact juxtaposedRuns_constant h
  · exact juxtaposedRuns_function h
  -- a factor: a power, a signed factor or a quantity
  · exact h
  · exact LiteralRuns.factorRuns h
  · exact LiteralRuns.factorRuns h
  · exact literalRuns_number h
  · exact h
  · exact OperandRuns.factorRuns h hd
  · exact h
  -- an atom
  · exact operandRuns_number h
  · exact operandRuns_group h
  · exact operandRuns_function h
  · exact operandRuns_constant h
  -- an argument
  · exact argumentRuns_group h
  · exact argumentRuns_number h
  · exact argumentRuns_constant h
  -- a magnitude or an exponent: numerals
  · obtain ⟨k, n, rfl, hn, hs, rfl⟩ := h
    exact ⟨k, n, hn, hs, .inl ⟨rfl, rfl⟩⟩
  · obtain ⟨k, n, rfl, hn, hs, rfl⟩ := h
    exact ⟨k, n, hn, hs, .inl ⟨rfl, rfl⟩⟩
  · obtain ⟨k, n, rfl, hn, _, rfl⟩ := h
    exact ⟨k, n, rfl, hn, rfl⟩
  · obtain ⟨k, n, rfl, hn, _, rfl⟩ := h
    exact ⟨k, n, rfl, hn, rfl⟩
  -- units
  · exact recognized_units h
  · exact recognized_unitFactor h

theorem recognized_between (rule : ⟨c, [.category d, .terminal x, .category d'], some p⟩ ∈ rules)
    (ht : t.terminal = x) (hdl : Derives d a l) (hl : Recognized d a l) (hdr : Derives d' b r)
    (hr : Recognized d' b r) : Recognized c (a ++ t :: b) (.node p [l, r]) := by
  have hself : r ∈ r.readings := Tree.mem_readings_self hdr
  simp only [rules, node, same, List.mem_cons, Rule.mk.injEq, List.cons.injEq,
    Grammar.Symbol.category.injEq, Grammar.Symbol.terminal.injEq, Option.some.injEq,
    reduceCtorEq, and_true, and_false, false_and, List.not_mem_nil, or_false, false_or] at rule
  rcases rule with ⟨rfl, ⟨rfl, rfl, rfl⟩, rfl⟩ | ⟨rfl, ⟨rfl, rfl, rfl⟩, rfl⟩ |
    ⟨rfl, ⟨rfl, rfl, rfl⟩, rfl⟩ | ⟨rfl, ⟨rfl, rfl, rfl⟩, rfl⟩ | ⟨rfl, ⟨rfl, rfl, rfl⟩, rfl⟩ |
    ⟨rfl, ⟨rfl, rfl, rfl⟩, rfl⟩ | ⟨rfl, ⟨rfl, rfl, rfl⟩, rfl⟩ | ⟨rfl, ⟨rfl, rfl, rfl⟩, rfl⟩ |
    ⟨rfl, ⟨rfl, rfl, rfl⟩, rfl⟩ | ⟨rfl, ⟨rfl, rfl, rfl⟩, rfl⟩ | ⟨rfl, ⟨rfl, rfl, rfl⟩, rfl⟩ |
    ⟨rfl, ⟨rfl, rfl, rfl⟩, rfl⟩ | ⟨rfl, ⟨rfl, rfl, rfl⟩, rfl⟩ | ⟨rfl, ⟨rfl, rfl, rfl⟩, rfl⟩ |
    ⟨rfl, ⟨rfl, rfl, rfl⟩, rfl⟩ | ⟨rfl, ⟨rfl, rfl, rfl⟩, rfl⟩
  · exact recognized_conversion hl ht hr hself
  · exact exprRuns_sum hl (by simp [ht]) hr
  · exact exprRuns_sum hl (by simp [ht]) hr
  -- products, behind a term or a signed term
  · exact TermRuns.append hl fun hs => hs.product (by simp [ht]) hr hself
  · exact TermRuns.append hl fun hs => hs.product (by simp [ht]) hr hself
  · exact TermRuns.append hl fun hs => hs.product (by simp [ht]) hr hself
  · exact SignedTermRuns.append hl fun hs => hs.product (by simp [ht]) hr hself
  · exact SignedTermRuns.append hl fun hs => hs.product (by simp [ht]) hr hself
  · exact SignedTermRuns.append hl fun hs => hs.product (by simp [ht]) hr hself
  -- powers
  · exact literalRuns_pow hl ht hr
  · exact operandRuns_power hl hdl ht hr
  · exact (recognized_scaled hl ht hr : IsMagnitude false _ _)
  · exact (recognized_scaled hl ht hr : IsMagnitude true _ _)
  -- units
  · exact recognized_units_joined hl (by simp [ht]) hr
  · exact recognized_units_joined hl (by simp [ht]) hr
  · exact recognized_unitPow hl ht hr

theorem recognized_beside (rule : ⟨c, [.category d, .category d'], some p⟩ ∈ rules)
    (hl : Recognized d a l) (hr : Recognized d' b r) : Recognized c (a ++ b) (.node p [l, r]) := by
  simp only [rules, node, same, List.mem_cons, Rule.mk.injEq, List.cons.injEq,
    Grammar.Symbol.category.injEq, Option.some.injEq, reduceCtorEq, and_true, and_false, false_and,
    List.not_mem_nil, or_false, false_or] at rule
  rcases rule with ⟨rfl, ⟨rfl, rfl⟩, rfl⟩ | ⟨rfl, ⟨rfl, rfl⟩, rfl⟩ | ⟨rfl, ⟨rfl, rfl⟩, rfl⟩ |
    ⟨rfl, ⟨rfl, rfl⟩, rfl⟩ | ⟨rfl, ⟨rfl, rfl⟩, rfl⟩ | ⟨rfl, ⟨rfl, rfl⟩, rfl⟩
  · exact exprRuns_signed hl hr
  · exact TermRuns.append hl fun hs => hs.juxtapose hr
  · exact SignedTermRuns.append hl fun hs => hs.juxtapose hr
  · exact (literalRuns_quantity hl hr : LiteralRuns false _ _)
  · exact (literalRuns_quantity hl hr : LiteralRuns true _ _)
  · exact recognized_units_beside hl hr

theorem recognized_ended (rule : ⟨c, [.category d, .terminal x], some p⟩ ∈ rules)
    (ht : t.terminal = x) (hl : Recognized d a l) :
    Recognized c (a ++ [t]) (.node p [l]) := by
  simp only [rules, node, same, List.mem_cons, Rule.mk.injEq, List.cons.injEq,
    Grammar.Symbol.category.injEq, Grammar.Symbol.terminal.injEq, Option.some.injEq,
    reduceCtorEq, and_true, and_false, false_and, List.not_mem_nil, or_false, false_or] at rule
  rcases rule with ⟨rfl, ⟨rfl, rfl⟩, rfl⟩ | ⟨rfl, ⟨rfl, rfl⟩, rfl⟩
  · exact literalRuns_factorial hl ht
  · exact operandRuns_factorial hl ht

theorem recognized_headed (rule : ⟨c, [.terminal x, .category d], some p⟩ ∈ rules)
    (ht : t.terminal = x) (hl : Recognized d a l) : Recognized c (t :: a) (.node p [l]) := by
  simp only [rules, node, same, List.mem_cons, Rule.mk.injEq, List.cons.injEq,
    Grammar.Symbol.category.injEq, Grammar.Symbol.terminal.injEq, Option.some.injEq,
    reduceCtorEq, and_true, and_false, false_and, List.not_mem_nil, or_false, false_or] at rule
  rcases rule with ⟨rfl, ⟨rfl, rfl⟩, rfl⟩ | ⟨rfl, ⟨rfl, rfl⟩, rfl⟩ | ⟨rfl, ⟨rfl, rfl⟩, rfl⟩ |
    ⟨rfl, ⟨rfl, rfl⟩, rfl⟩
  · exact factorRuns_minus ht hl
  · exact ⟨t, .sqrt, a, l, rfl, by simp [FunctionName.ofToken?, ht], rfl, hl⟩
  · exact ⟨t, .log, a, l, rfl, by simp [FunctionName.ofToken?, ht], rfl, hl⟩
  · exact ⟨t, .ln, a, l, rfl, by simp [FunctionName.ofToken?, ht], rfl, hl⟩

theorem recognized_unsigned (rule : ⟨c, [.terminal x, .category d], none⟩ ∈ rules)
    (ht : t.terminal = x) (hl : Recognized d a l) : Recognized c (t :: a) l := by
  simp only [rules, node, same, List.mem_cons, Rule.mk.injEq, List.cons.injEq,
    Grammar.Symbol.category.injEq, Grammar.Symbol.terminal.injEq, reduceCtorEq, and_true,
    and_false, false_and, List.not_mem_nil, or_false, false_or] at rule
  obtain ⟨rfl, rfl, rfl⟩ := rule
  exact factorRuns_plus ht hl

theorem recognized_enclosed
    (rule : ⟨c, [.terminal x, .category d, .terminal y], none⟩ ∈ rules)
    (ht : t.terminal = x) (ht' : t'.terminal = y) (hl : Recognized d a l) :
    Recognized c (t :: (a ++ [t'])) l := by
  simp only [rules, node, same, List.mem_cons, Rule.mk.injEq, List.cons.injEq,
    Grammar.Symbol.category.injEq, Grammar.Symbol.terminal.injEq, reduceCtorEq, and_true, and_false,
    List.not_mem_nil, or_false, false_or] at rule
  obtain ⟨rfl, rfl, rfl, rfl⟩ := rule
  exact ⟨t, a, t', rfl, ht, ht', hl⟩

theorem recognized_lone (rule : ⟨c, [.terminal x], some p⟩ ∈ rules) (ht : t.terminal = x) :
    Recognized c [t] (.node p (operand? t).toList) := by
  simp only [rules, node, same, List.mem_cons, Rule.mk.injEq, List.cons.injEq,
    Grammar.Symbol.terminal.injEq, Option.some.injEq, reduceCtorEq, and_true, and_false, false_and,
    List.not_mem_nil, or_false, false_or] at rule
  rcases rule with ⟨rfl, rfl, rfl⟩ | ⟨rfl, rfl, rfl⟩ | ⟨rfl, rfl, rfl⟩ | ⟨rfl, rfl, rfl⟩ |
    ⟨rfl, rfl, rfl⟩ | ⟨rfl, rfl, rfl⟩
  · exact ⟨t, rfl, by simp [constant?, operand?, ht]⟩
  · exact ⟨t, rfl, by simp [constant?, operand?, ht]⟩
  · exact ⟨t, _, rfl, by simp [Literal.ofToken?, ht]; rfl, rfl,
      by simp [operand?, ht, Literal.tree]⟩
  · exact ⟨t, _, rfl, by simp [Literal.ofToken?, ht]; rfl, rfl,
      by simp [operand?, ht, Literal.tree]⟩
  · exact ⟨t, _, rfl, by simp [Literal.ofToken?, ht]; rfl, rfl,
      by simp [operand?, ht, Literal.tree]⟩
  · exact ⟨t, rfl, ht, by simp [operand?, ht, UnitRun.unit]⟩

end Shapes

/-- The tokens of every derivation cause what their category says. -/
theorem recognized_of_derives {c : Category} {ts : List Token} {t : Tree} (h : Derives c ts t) :
    Recognized c ts t := by
  refine h.shapeInduction ?promoted ?between ?beside ?ended ?headed ?unsigned ?enclosed ?lone
  case promoted =>
    intro c d a l rule hd hl
    exact recognized_promoted rule hd hl
  case between =>
    intro c d d' x p a b l r k rule hk hdl hl hdr hr
    exact recognized_between rule hk hdl hl hdr hr
  case beside =>
    intro c d d' p a b l r rule _ hl _ hr
    exact recognized_beside rule hl hr
  case ended =>
    intro c d x p a l k rule hk _ hl
    exact recognized_ended rule hk hl
  case headed =>
    intro c d x p a l k rule hk _ hl
    exact recognized_headed rule hk hl
  case unsigned =>
    intro c d x a l k rule hk _ hl
    exact recognized_unsigned rule hk hl
  case enclosed =>
    intro c d x y a l k k' rule hk hk' _ hl
    exact recognized_enclosed rule hk hk' hl
  case lone =>
    intro c x p k rule hk
    exact recognized_lone rule hk

/-- Whatever the grammar derives from the tokens is a reading of their parse. -/
theorem parse_of_derives {tokens : List Token} {t : Tree} (h : Derives .equation tokens t) :
    ∃ tree, parse tokens = .ok tree ∧ t ∈ tree.readings := by
  obtain ⟨s, tree, hrun, hfinish, ht⟩ := recognized_of_derives h
  exact ⟨tree, parse_eq_ok_iff.mpr ⟨s, hrun, hfinish⟩, ht⟩

end UnitCalc.Expr
