import UnitCalc.Proofs.Evaluator.Calculus
import UnitCalc.Proofs.Evaluator.TwoRuns
import UnitCalc.Proofs.Exact.Simulation

/-!
# Base scales do not matter

If all units of length are made longer by one factor, all units of mass by another and all
units of time by a third, and derived units as their dimensions say, then every expression
means what it did before: the same reading survives, the dimension is the same, and the SI
magnitude is larger by exactly the factor of the dimension. A plain number stays what it was.

The evaluator is not compared with itself. Both runs do what the reference evaluator does over
their registry, and the amounts of the reference evaluator scale at every node.
-/

namespace UnitCalc.Exact

open UnitCalc.Number UnitCalc.Expr

/-! ## Amounts at another scale -/

/-- Two amounts of one dimension, the second larger by the factor of the dimension. -/
def Scales (s : PerAxis ℚ) (a a' : Amount) : Prop :=
  ∃ e, a.dim = wholeDim e ∧ a' = ⟨a.magnitude * scaleBy s e, a.dim⟩

/-- Two calculations with amounts at two scales, or with one failure. -/
abbrev ScalesTo (s : PerAxis ℚ) : Except Failure Amount → Except Failure Amount → Prop :=
  Alike Eq (Scales s)

section Amounts

variable {s : PerAxis ℚ} {a a' b b' : Amount}

theorem noDim_eq : noDim = wholeDim ⟨0, 0, 0⟩ := wholeDim_zero.symm

theorem scales_plain (s : PerAxis ℚ) (x : ℚ) : Scales s (.plain x) (.plain x) := by
  refine ⟨⟨0, 0, 0⟩, noDim_eq, ?_⟩
  rw [scaleBy_zero, mul_one]

theorem Scales.dim (h : Scales s a a') : a'.dim = a.dim := by
  obtain ⟨e, _, rfl⟩ := h
  rfl

theorem Scales.magnitude_of_noDim (h : Scales s a a') (ha : a.dim = noDim) :
    a'.magnitude = a.magnitude := by
  obtain ⟨e, he, rfl⟩ := h
  have hzero : e = ⟨0, 0, 0⟩ := wholeDim_inj.mp (he.symm.trans (ha.trans noDim_eq))
  rw [hzero, scaleBy_zero, mul_one]

theorem Scales.number (h : Scales s a a') : a'.number = a.number := by
  unfold Amount.number
  rw [h.dim]
  split
  · rename_i hdim
    rw [h.magnitude_of_noDim hdim]
  · rfl

/-- Amounts of one dimension scale by one factor. -/
theorem Scales.same_factor (ha : Scales s a a') (hb : Scales s b b') (hdim : a.dim = b.dim) :
    ∃ e, a.dim = wholeDim e ∧ a' = ⟨a.magnitude * scaleBy s e, a.dim⟩ ∧
      b' = ⟨b.magnitude * scaleBy s e, b.dim⟩ := by
  obtain ⟨e, hae, rfl⟩ := ha
  obtain ⟨e', hbe, rfl⟩ := hb
  have he : e = e' := wholeDim_inj.mp (hae.symm.trans (hdim.trans hbe))
  exact ⟨e, hae, rfl, by rw [he]⟩

theorem add_scales (ha : Scales s a a') (hb : Scales s b b') :
    ScalesTo s (a.add b) (a'.add b') := by
  unfold Amount.add
  rw [ha.dim, hb.dim]
  by_cases hdim : a.dim = b.dim
  · obtain ⟨e, he, rfl, rfl⟩ := ha.same_factor hb hdim
    rw [if_pos hdim, if_pos hdim, ← add_mul]
    exact ⟨e, he, rfl⟩
  · rw [if_neg hdim, if_neg hdim]
    exact rfl

theorem sub_scales (ha : Scales s a a') (hb : Scales s b b') :
    ScalesTo s (a.sub b) (a'.sub b') := by
  unfold Amount.sub
  rw [ha.dim, hb.dim]
  by_cases hdim : a.dim = b.dim
  · obtain ⟨e, he, rfl, rfl⟩ := ha.same_factor hb hdim
    rw [if_pos hdim, if_pos hdim, ← sub_mul]
    exact ⟨e, he, rfl⟩
  · rw [if_neg hdim, if_neg hdim]
    exact rfl

theorem neg_scales (ha : Scales s a a') : Scales s a.neg a'.neg := by
  obtain ⟨e, he, rfl⟩ := ha
  refine ⟨e, he, ?_⟩
  rw [Amount.neg, Amount.neg, neg_mul]

variable (hs : ∀ axis, 0 < s.get axis)

include hs

theorem Scales.magnitude_eq_zero_iff (h : Scales s a a') :
    a'.magnitude = 0 ↔ a.magnitude = 0 := by
  obtain ⟨e, _, rfl⟩ := h
  exact mul_eq_zero_iff_right (scaleBy_pos hs e).ne'

theorem Scales.magnitude_neg_iff (h : Scales s a a') : a'.magnitude < 0 ↔ a.magnitude < 0 := by
  obtain ⟨e, _, rfl⟩ := h
  have hpos := scaleBy_pos hs e
  exact ⟨fun h' => neg_of_mul_neg_left h' hpos.le, fun h' => mul_neg_of_neg_of_pos h' hpos⟩

theorem abs_scales (ha : Scales s a a') : Scales s a.abs a'.abs := by
  obtain ⟨e, he, rfl⟩ := ha
  refine ⟨e, he, ?_⟩
  rw [Amount.abs, Amount.abs, abs_mul, abs_of_pos (scaleBy_pos hs e)]

theorem mod_scales (ha : Scales s a a') (hb : Scales s b b') :
    ScalesTo s (a.mod b) (a'.mod b') := by
  unfold Amount.mod
  rw [ha.dim, hb.dim]
  by_cases hdim : a.dim = b.dim
  · rw [if_pos hdim, if_pos hdim]
    by_cases hzero : b.magnitude = 0
    · rw [if_pos hzero, if_pos ((hb.magnitude_eq_zero_iff hs).mpr hzero)]
      exact rfl
    · rw [if_neg hzero, if_neg (fun h => hzero ((hb.magnitude_eq_zero_iff hs).mp h))]
      obtain ⟨e, he, rfl, rfl⟩ := ha.same_factor hb hdim
      rw [remainder_mul_right _ _ (scaleBy_pos hs e).ne']
      exact ⟨e, he, rfl⟩
  · rw [if_neg hdim, if_neg hdim]
    exact rfl

theorem mul_scales (ha : Scales s a a') (hb : Scales s b b') :
    Scales s (a.mul b) (a'.mul b') := by
  obtain ⟨e, he, rfl⟩ := ha
  obtain ⟨e', he', rfl⟩ := hb
  refine ⟨e.zipWith (· + ·) e', ?_, ?_⟩
  · rw [Amount.mul, he, he', wholeDim_add]
  · rw [Amount.mul, Amount.mul, scaleBy_add hs, mul_mul_mul_comm]

theorem div_scales (ha : Scales s a a') (hb : Scales s b b') :
    ScalesTo s (a.div b) (a'.div b') := by
  unfold Amount.div
  by_cases hzero : b.magnitude = 0
  · rw [if_pos hzero, if_pos ((hb.magnitude_eq_zero_iff hs).mpr hzero)]
    exact rfl
  · rw [if_neg hzero, if_neg (fun h => hzero ((hb.magnitude_eq_zero_iff hs).mp h))]
    obtain ⟨e, he, rfl⟩ := ha
    obtain ⟨e', he', rfl⟩ := hb
    refine ⟨e.zipWith (· - ·) e', ?_, ?_⟩
    · rw [he, he', wholeDim_sub]
    · rw [scaleBy_sub hs, div_mul_div_comm]

/-- A power whose exponent, if it is a plain number at all, is whole. -/
theorem pow_scales (ha : Scales s a a') (hb : Scales s b b')
    (hwhole : b.dim = noDim → b.magnitude.isInt = true) :
    ScalesTo s (a.pow b) (a'.pow b') := by
  unfold Amount.pow
  rw [hb.number]
  unfold Amount.number
  by_cases hdim : b.dim = noDim
  · rw [if_pos hdim]
    show ScalesTo s (if _ then _ else _) (if _ then _ else _)
    have hiff := ha.magnitude_eq_zero_iff hs
    by_cases hzero : a.magnitude = 0 ∧ b.magnitude < 0
    · rw [if_pos hzero, if_pos ⟨hiff.mpr hzero.1, hzero.2⟩]
      exact rfl
    · rw [if_neg hzero, if_neg (fun h => hzero ⟨hiff.mp h.1, h.2⟩)]
      obtain ⟨e, he, rfl⟩ := ha
      have hn := eq_intCast_of_isInt (hwhole hdim)
      refine ⟨e.map (· * b.magnitude.num), ?_, ?_⟩
      · rw [he, ← wholeDim_mul, ← hn]
      · rw [scaleBy_mul, mul_zpow]
  · rw [if_neg hdim]
    exact rfl

omit hs in
theorem apply_scales (f : ℚ → Option ℚ) (ha : Scales s a a') :
    ScalesTo s (a.apply f) (a'.apply f) := by
  unfold Amount.apply
  rw [ha.number]
  cases a.number with
  | error failure => exact rfl
  | ok x =>
    simp only [bind, Except.bind]
    cases f x with
    | none => exact rfl
    | some y => exact scales_plain s y

theorem signed_scales {f g : Amount → Except Failure Amount} (ha : Scales s a a')
    (h : ScalesTo s (f a.abs) (g a'.abs)) : ScalesTo s (a.signed f) (a'.signed g) := by
  refine h.bind ?_
  intro c c' hc
  have hiff := ha.magnitude_neg_iff hs
  by_cases hneg : a.magnitude < 0
  · rw [if_pos hneg, if_pos (hiff.mpr hneg)]
    exact neg_scales hc
  · rw [if_neg hneg, if_neg (fun h => hneg (hiff.mp h))]
    exact hc

omit hs in
theorem attach_scales (ha : Scales s a a') (hb : Scales s b b') :
    ScalesTo s (a.attach b) (a'.attach b') := by
  unfold Amount.attach
  rw [ha.number]
  cases a.number with
  | error failure => exact rfl
  | ok x =>
    obtain ⟨e, he, rfl⟩ := hb
    refine ⟨e, he, ?_⟩
    rw [mul_assoc]

end Amounts

/-! ## Productions at another scale -/

section Productions

variable {s : PerAxis ℚ} {p : Production}

/-- Every production scales with its operands, if it raises nothing to a fraction. -/
theorem amountOf_scales [Given] (hs : ∀ axis, 0 < s.get axis) {as as' : List Amount}
    (h : List.Forall₂ (Scales s) as as') (hwhole : wholeOn p as = true) :
    ScalesTo s (amountOf p as) (amountOf p as') := by
  match as, as', h with
  | [], [], _ =>
    cases p <;> first | exact rfl | exact scales_plain s _
  | [a], [a'], .cons ha .nil =>
    cases p <;> try exact rfl
    case neg => exact neg_scales ha
    case factorial => exact apply_scales _ ha
    case signedFactorial =>
      exact signed_scales hs ha (apply_scales (function? .factorial) (abs_scales hs ha))
    case log => exact apply_scales _ ha
    case ln => exact apply_scales _ ha
    case number | signedNumber | unit => exact ha
  | [a, b], [a', b'], .cons ha (.cons hb .nil) =>
    have hexponent (h : wholeOn .pow [a, b] = true) (hdim : b.dim = noDim) :
        b.magnitude.isInt = true := by
      simpa [wholeOn, hdim] using h
    cases p <;> try exact rfl
    case convert => exact ha
    case add => exact add_scales ha hb
    case sub => exact sub_scales ha hb
    case mul | unitMul => exact mul_scales hs ha hb
    case div | unitDiv => exact div_scales hs ha hb
    case mod => exact mod_scales hs ha hb
    case pow | scaled | unitPow => exact pow_scales hs ha hb (hexponent hwhole)
    case signedPow | signedScaled =>
      exact signed_scales (f := (·.pow b)) (g := (·.pow b')) hs ha
        (pow_scales hs (abs_scales hs ha) hb (hexponent hwhole))
    case quantity | signedQuantity => exact attach_scales ha hb
  | _ :: _ :: _ :: _, _ :: _ :: _ :: _, _ => cases p <;> exact rfl

/-- Exponents are plain numbers and do not scale. -/
theorem wholeOn_of_scales {as as' : List Amount} (h : List.Forall₂ (Scales s) as as') :
    wholeOn p as' = wholeOn p as := by
  match as, as', h with
  | [], [], _ | [_], [_], _ | _ :: _ :: _ :: _, _ :: _ :: _ :: _, _ => cases p <;> rfl
  | [a, b], [a', b'], .cons _ (.cons hb .nil) =>
    have hexponent : (b'.dim != noDim || b'.magnitude.isInt) =
        (b.dim != noDim || b.magnitude.isInt) := by
      rw [hb.dim]
      by_cases hdim : b.dim = noDim
      · rw [hb.magnitude_of_noDim hdim]
      · rw [bne_iff_ne.mpr hdim, Bool.true_or, Bool.true_or]
    cases p <;> first | rfl | exact hexponent

end Productions

/-! ## Registries at another scale -/

/-- A unit with its factor larger by the factor of its dimension. The exponents of units are
whole numbers, which are their own numerators. -/
def rescaledUnit (s : PerAxis ℚ) (u : Unit ℚ) : Unit ℚ :=
  { u with factor := u.factor * scaleBy s (PerAxis.map Rat.num u.dim) }

/-- Two registries with the same spellings, each for a unit and the same unit rescaled. -/
def Rescaled (s : PerAxis ℚ) (r r' : Registry ℚ) : Prop :=
  ∀ spelling, r'.find? spelling = (r.find? spelling).map (rescaledUnit s)

theorem map_num_wholeDim (e : PerAxis ℤ) : (wholeDim e).map Rat.num = e := by
  refine PerAxis.ext_get ?_
  intro axis
  simp

section Trees

variable [Given] {s : PerAxis ℚ} {r r' : Registry ℚ}

theorem leaf_scales (hr : Coherent r) (hrescaled : Rescaled s r r') (terminal : Terminal)
    (text : String) :
    ScalesTo s (amount r (.leaf terminal text)) (amount r' (.leaf terminal text)) := by
  rw [amount, amount]
  split
  · unfold unitAmount
    rw [hrescaled text]
    cases hu : r.find? text with
    | none => exact rfl
    | some u =>
      obtain ⟨e, he⟩ := hr.whole u (mem_known_of_find? hu)
      refine ⟨e, he, ?_⟩
      simp only [rescaledUnit, he, map_num_wholeDim]
  · unfold numeralAmount
    split
    · exact scales_plain s _
    · exact rfl
    · exact rfl

theorem amounts_scale {ts : List Tree}
    (h : ∀ t ∈ ts, ScalesTo s (amount r t) (amount r' t)) :
    Alike Eq (List.Forall₂ (Scales s)) (amounts r ts) (amounts r' ts) := by
  induction ts with
  | nil =>
    rw [amounts, amounts]
    exact .nil
  | cons t ts ih =>
    rw [amounts, amounts]
    refine (h t List.mem_cons_self).bind ?_
    intro a a' ha
    refine (ih fun u hu => h u (List.mem_cons_of_mem t hu)).bind ?_
    intro as as' has
    exact .cons ha has

/-- The amount of a tree scales by the factor of its dimension, and its powers stay whole. -/
theorem amount_scales (hr : Coherent r) (hrescaled : Rescaled s r r')
    (hs : ∀ axis, 0 < s.get axis) {t : Tree} (h : t.choices = [])
    (hwhole : wholePowers r t = true) :
    wholePowers r' t = true ∧ ScalesTo s (amount r t) (amount r' t) := by
  induction t, h using Tree.induction_of_choices with
  | leaf terminal text => exact ⟨by rw [wholePowers], leaf_scales hr hrescaled terminal text⟩
  | node p children _ _ ih =>
    rw [wholePowers, Bool.and_eq_true, wholePowersOfAll_iff] at hwhole ⊢
    have hchildren (t : Tree) (ht : t ∈ children) := ih t ht (hwhole.1 t ht)
    have hoperands := amounts_scale fun t ht => (hchildren t ht).2
    rw [amount, amount]
    refine ⟨⟨fun t ht => (hchildren t ht).1, ?_⟩, ?_⟩
    · split
      · rename_i as' has'
        obtain ⟨as, has, hscales⟩ := hoperands.exists_left has'
        rw [has] at hwhole
        rw [wholeOn_of_scales hscales]
        exact hwhole.2
      · rfl
    · refine hoperands.bind_of_ok ?_
      intro as as' has _ hscales
      rw [has] at hwhole
      exact amountOf_scales hs hscales hwhole.2

/-! ## Quantities at another scale -/

/-- Two quantities of one dimension, the second with an SI magnitude that is larger by the
factor of the dimension. Plain numbers are equal. -/
structure LargerBy (s : PerAxis ℚ) (q q' : Quantity ℚ) : Prop where
  dim : q'.dim = q.dim
  magnitude : ∃ e f f', q.dim = wholeDim e ∧ q.units.conversionFactor? q.dim = some f ∧
    q'.units.conversionFactor? q'.dim = some f' ∧ q'.value * f' = q.value * f * scaleBy s e
  plain : q.isDimensionless = true → q'.value = q.value

/-- Two faults of dimension, or two of domain. -/
def SameFailure (f f' : Fault ℚ) : Prop :=
  ∃ failure, kind? f = some failure ∧ kind? f' = some failure

omit [Given] in
theorem rulesOutReading_of_kind? {f : Fault ℚ} {failure : Failure} (h : kind? f = some failure) :
    f.rulesOutReading = true := by
  cases f <;> cases h <;> rfl

/-- Quantities that express amounts at two scales. -/
theorem largerBy_of_expresses {q q' : Quantity ℚ} {a a' : Amount} (hr : Coherent r)
    (hr' : Coherent r') (hq : Expresses r q a) (hq' : Expresses r' q' a')
    (h : Scales s a a') : LargerBy s q q' := by
  obtain ⟨hdim, f, hf, hmagnitude⟩ := hq.measures hr
  obtain ⟨hdim', f', hf', hmagnitude'⟩ := hq'.measures hr'
  refine ⟨?_, ?_, ?_⟩
  · rw [hdim', h.dim, hdim]
  · obtain ⟨e, he, rfl⟩ := h
    exact ⟨e, f, f', hdim.trans he, hf, hf', by rw [hmagnitude', hmagnitude]⟩
  · intro hplain
    have hnone := (isDimensionless_iff hq).mp hplain
    rw [value_eq_of_noDim hq hnone, value_eq_of_noDim hq' (h.dim.trans hnone),
      h.magnitude_of_noDim hnone]

/-- Both runs do what the reference evaluator does, whose amounts scale. -/
theorem alike_of_simulates {x x' : Except (Fault ℚ) (Quantity ℚ)} {y y' : Except Failure Amount}
    (hr : Coherent r) (hr' : Coherent r') (h : Simulates (Expresses r) x y)
    (h' : Simulates (Expresses r') x' y') (hy : ScalesTo s y y') :
    Alike SameFailure (LargerBy s) x x' := by
  rcases h.cases with ⟨q, a, rfl, rfl, hq⟩ | ⟨f, failure, rfl, rfl, hf⟩
  · obtain ⟨a', rfl, ha⟩ := hy.exists_right rfl
    rcases h'.cases with ⟨q', _, rfl, ⟨⟩, hq'⟩ | ⟨_, _, _, ⟨⟩, _⟩
    exact largerBy_of_expresses hr hr' hq hq' ha
  · rcases h'.cases with ⟨_, a', _, rfl, _⟩ | ⟨f', failure', rfl, rfl, hf'⟩
    · exact hy.elim
    · cases (hy : failure = failure')
      exact ⟨failure, hf, hf'⟩

/-! ## Parse trees over two registries -/

/-- The tokens of a text depend on the spellings of a registry only. -/
theorem ofLexeme_rescaled (hrescaled : Rescaled s r r') :
    Token.ofLexeme r' = Token.ofLexeme r := by
  have hhas (text : String) : r'.has text = r.has text := by
    rw [Registry.has, Registry.has, hrescaled text, Option.isSome_map]
  funext lexeme
  simp only [Token.ofLexeme, Terminal.ofText?, Terminal.ofOther, hhas]

theorem reading_alike (hr : Coherent r) (hr' : Coherent r') (hrescaled : Rescaled s r r')
    (hs : ∀ axis, 0 < s.get axis) {lexemes : List Lexeme} {tree : Tree}
    (hparse : Expr.parse (lexemes.map (Token.ofLexeme r)) = .ok tree) {t : Tree}
    (ht : t ∈ tree.readings) (hwhole : wholePowers r t = true) :
    Alike SameFailure (LargerBy s) (evaluate r t) (evaluate r' t) := by
  have hparse' : Expr.parse (lexemes.map (Token.ofLexeme r')) = .ok tree := by
    rw [ofLexeme_rescaled hrescaled, hparse]
  have hderives := (mem_readings_of_parse hparse t).mp ht
  obtain ⟨hwhole', hamount⟩ :=
    amount_scales hr hrescaled hs (Tree.choices_of_derives hderives) hwhole
  exact alike_of_simulates hr hr'
    (agrees_of_derives hr hderives (wellFormed_of_mem_readings hparse ht) hwhole)
    (agrees_of_derives hr' hderives (wellFormed_of_mem_readings hparse' ht) hwhole') hamount

omit [Given] in
theorem SameFailure.rulesOutBoth {f f' : Fault ℚ} (h : SameFailure f f') : RulesOutBoth f f' := by
  obtain ⟨failure, hf, hf'⟩ := h
  exact ⟨rulesOutReading_of_kind? hf, rulesOutReading_of_kind? hf'⟩

/-- Two constructed registries have the same spellings, and every unit of one is that of the
other made larger by positive factors for length, mass and time; in each of them units that
compare equal have one factor. Then a parse tree whose exponents are whole is evaluated alike
over both: its readings have values at the two scales or are ruled out by faults of one kind,
and the value of the tree is in both that of the same reading, or there is none. -/
theorem evaluate_rescaled {records records' : List (UnitRecord ℚ)}
    (hrecords : Registry.ofRecords records = .ok r)
    (hrecords' : Registry.ofRecords records' = .ok r') (hrescaled : Rescaled s r r')
    (hs : ∀ axis, 0 < s.get axis)
    (hsame : ∀ u ∈ known r, ∀ v ∈ known r, u.eq v = true → u.factor = v.factor)
    (hsame' : ∀ u ∈ known r', ∀ v ∈ known r', u.eq v = true → u.factor = v.factor)
    {lexemes : List Lexeme} {tree : Tree}
    (hparse : Expr.parse (lexemes.map (Token.ofLexeme r)) = .ok tree)
    (hwhole : ∀ t ∈ tree.readings, wholePowers r t = true) :
    (∀ t ∈ tree.readings, Alike SameFailure (LargerBy s) (evaluate r t) (evaluate r' t)) ∧
    Alike RulesOutBoth
      (fun q q' => LargerBy s q q' ∧ ∃ before t after, tree.readings = before ++ t :: after ∧
        evaluate r t = .ok q ∧ evaluate r' t = .ok q' ∧
        ∀ u ∈ before, RuledOut (evaluate r u) ∧ RuledOut (evaluate r' u))
      (evaluate r tree) (evaluate r' tree) := by
  have hr := coherent_of_ofRecords hrecords hsame
  have hr' := coherent_of_ofRecords hrecords' hsame'
  have halike (t : Tree) (ht : t ∈ tree.readings) :=
    reading_alike hr hr' hrescaled hs hparse ht (hwhole t ht)
  refine ⟨halike, ?_⟩
  have hchoices : ∀ trees ∈ tree.choices, trees ≠ [] := by
    intro trees htrees
    obtain ⟨_, _, rfl, _⟩ := isPair_of_forall₂ (choices_of_parse hparse) trees htrees
    exact List.cons_ne_nil _ _
  have hplain (t : Tree) (ht : t ∈ tree.readings) (r : Registry ℚ) :
      evaluate r t = plainEvaluate r t :=
    evaluate_eq_plainEvaluate
      (Tree.choices_of_derives ((mem_readings_of_parse hparse t).mp ht))
  have hplainly (t : Tree) (ht : t ∈ tree.readings) :
      Alike RulesOutBoth (LargerBy s) (plainEvaluate r t) (plainEvaluate r' t) := by
    rw [← hplain t ht, ← hplain t ht]
    exact (halike t ht).imp (fun _ _ => SameFailure.rulesOutBoth) fun _ _ => id
  have htree := evaluate_alike hchoices hplainly
  refine htree.imp (fun _ _ => id) ?_
  rintro q q' ⟨hlarger, before, t, after, hsplit, ht, ht', hbefore⟩
  refine ⟨hlarger, before, t, after, hsplit, ?_, ?_, ?_⟩
  · rw [hplain t (by simp [hsplit]), ht]
  · rw [hplain t (by simp [hsplit]), ht']
  · intro u hu
    rw [hplain u (by simp [hsplit, hu]), hplain u (by simp [hsplit, hu])]
    exact hbefore u hu

end Trees

/-! ## A longer meter -/

deriving instance DecidableEq for Unit

theorem rescaled_of_bindings {s : PerAxis ℚ} {r r' : Registry ℚ}
    (h : r'.bindings = r.bindings.map fun binding => (binding.1, rescaledUnit s binding.2)) :
    Rescaled s r r' := by
  intro spelling
  rw [Registry.find?, Registry.find?, h]
  induction r.bindings with
  | nil => rfl
  | cons binding bindings ih =>
    rw [List.map_cons, List.lookup_cons, List.lookup_cons]
    split
    · rfl
    · exact ih

/-- The scale at which lengths are twice and times five times as large. -/
def longer : PerAxis ℚ := ⟨2, 1, 5⟩

/-- The units of the road at that scale. -/
def longRoadRecords : List (UnitRecord ℚ) := [
  ⟨.length, "meter", "m", "m", 2, false, []⟩,
  ⟨.length, "mile", "mi", "mi", 2 * (1609344 / 1000), false, []⟩,
  ⟨.time, "hour", "h", "h", 5 * 3600, false, []⟩]

/-- In `(2^3 m + 1 mi) / 4 h` the quantity of the power survives over both registries. -/
theorem evaluate_longRoad :
    letI := noFunctions
    ∃ r r' tree, Registry.ofRecords roadRecords = .ok r ∧
      Registry.ofRecords longRoadRecords = .ok r' ∧
      Expr.parse (Token.scan r "(2^3 m + 1 mi) / 4 h") = .ok tree ∧ tree.readings.length = 2 ∧
      ∃ q q', evaluate r tree = .ok q ∧ evaluate r' tree = .ok q' ∧ LargerBy longer q q' := by
  let _ := noFunctions
  have hcheck : returns (Registry.ofRecords roadRecords) (fun r =>
      returns (Registry.ofRecords longRoadRecords) fun r' =>
        decide (r'.bindings = r.bindings.map fun b => (b.1, rescaledUnit longer b.2)) &&
        decide (∀ u ∈ known r, ∀ v ∈ known r, u.eq v = true → u.factor = v.factor) &&
        decide (∀ u ∈ known r', ∀ v ∈ known r', u.eq v = true → u.factor = v.factor) &&
        returns (Expr.parse (Token.scan r "(2^3 m + 1 mi) / 4 h")) fun tree =>
          decide (tree.readings.length = 2) &&
          decide (∀ t ∈ tree.readings, wholePowers r t = true) &&
          returns (evaluate r tree) fun _ => true) = true := by
    decide +kernel
  have hlonger : ∀ axis, 0 < longer.get axis := by
    intro axis
    cases axis <;> decide
  obtain ⟨r, hrecords, hcheck⟩ := exists_of_returns hcheck
  obtain ⟨r', hrecords', hcheck⟩ := exists_of_returns hcheck
  simp only [Bool.and_eq_true, decide_eq_true_eq] at hcheck
  obtain ⟨⟨⟨hbindings, hsame⟩, hsame'⟩, hcheck⟩ := hcheck
  obtain ⟨tree, htree, hcheck⟩ := exists_of_returns hcheck
  simp only [Bool.and_eq_true, decide_eq_true_eq] at hcheck
  obtain ⟨⟨htwo, hwhole⟩, hcheck⟩ := hcheck
  obtain ⟨q, hq, _⟩ := exists_of_returns hcheck
  obtain ⟨_, hscaled⟩ := evaluate_rescaled hrecords hrecords'
    (rescaled_of_bindings hbindings) hlonger hsame hsame' htree hwhole
  obtain ⟨q', hq', hlarger, _⟩ := hscaled.exists_right hq
  exact ⟨r, r', tree, hrecords, hrecords', htree, htwo, q, q', hq, hq', hlarger⟩

end UnitCalc.Exact
