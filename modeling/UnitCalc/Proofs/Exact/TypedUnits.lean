import UnitCalc.Proofs.Evaluator.Calculus
import UnitCalc.Proofs.Evaluator.ScaledPower
import UnitCalc.Proofs.Exact.Conversion
import UnitCalc.Proofs.Exact.Positive

/-!
# What is typed is what is shown

Typed units are a product of factors, each a unit with a whole exponent. If every base quantity is
measured in one unit throughout, the product comes to exactly one of these units: no conversion on
the way multiplies by anything but one. The invariant ties each axis that a partial product carries
to the unit chosen for it. An axis whose exponents cancel is not carried any longer, and it takes
its unit anew when it returns.
-/

namespace UnitCalc.Exact

open UnitCalc.Number UnitCalc.Expr UnitCalc.Expr.Grammar

/-! ## Factors -/

/-- The number that a numeral stands for. -/
def numeral? (text : String) : Option ℚ :=
  match Numeral.Reading.ofText? text with
  | some (.decimal negative digits exponent) =>
    let x : ℚ := digits * 10 ^ exponent
    some (if negative then -x else x)
  | _ => none

/-- The whole number that a numeral stands for. -/
def wholeNumeral? (text : String) : Option ℤ := do
  let x ← numeral? text
  if x.isInt then some x.num else none

theorem numeral?_of_wholeNumeral? {text : String} {k : ℤ} (h : wholeNumeral? text = some k) :
    numeral? text = some (k : ℚ) := by
  unfold wholeNumeral? at h
  obtain ⟨x, hx, hk⟩ := Option.bind_eq_some_iff.mp h
  rw [Option.ite_none_right_eq_some] at hk
  rw [hx, eq_intCast_of_isInt hk.1, Option.some.inj hk.2]

/-- The exponent of a unit, if it is whole. -/
def exponent? : Tree → Option ℤ
  | .node .number [.leaf .number text] => wholeNumeral? text
  | .node .signedNumber [.leaf .positiveNumber text] => wholeNumeral? text
  | .node .signedNumber [.leaf .negativeNumber text] => wholeNumeral? text
  | _ => none

/-- The factors of typed units: the spelling of a unit and its exponent, which is negative behind
a slash. -/
def unitFactors? : Tree → Option (List (String × ℤ))
  | .node .unit [.leaf .unit text] => some [(text, 1)]
  | .node .unitMul [t, u] => do
    let factors ← unitFactors? t
    let others ← unitFactors? u
    some (factors ++ others)
  | .node .unitDiv [t, u] => do
    let factors ← unitFactors? t
    let others ← unitFactors? u
    some (factors ++ others.map fun f => (f.1, -f.2))
  | .node .unitPow [t, n] => do
    let factors ← unitFactors? t
    let n ← exponent? n
    some (factors.map fun f => (f.1, f.2 * n))
  | _ => none

section Exponents

variable [Given]

/-- The sum of the exponents of all factors on one axis. -/
def exponentOn (r : Registry ℚ) (factors : List (String × ℤ)) (axis : Axis) : ℤ :=
  (factors.map fun f => if (r.find? f.1).bind Unit.axis? = some axis then f.2 else 0).sum

/-- The sums of the exponents of all factors, axis by axis. -/
def exponents (r : Registry ℚ) (factors : List (String × ℤ)) : PerAxis ℤ :=
  ⟨exponentOn r factors .length, exponentOn r factors .mass, exponentOn r factors .time⟩

variable {r : Registry ℚ} {factors others : List (String × ℤ)}

@[simp] theorem get_exponents (r : Registry ℚ) (factors : List (String × ℤ)) (axis : Axis) :
    (exponents r factors).get axis = exponentOn r factors axis := by
  cases axis <;> rfl

theorem exponents_append (factors others : List (String × ℤ)) :
    exponents r (factors ++ others) =
      (exponents r factors).zipWith (· + ·) (exponents r others) := by
  refine PerAxis.ext_get fun axis => ?_
  simp [exponentOn]

theorem exponentOn_map (factors : List (String × ℤ)) (axis : Axis) (n : ℤ) :
    exponentOn r (factors.map fun f => (f.1, f.2 * n)) axis = exponentOn r factors axis * n := by
  induction factors with
  | nil => simp [exponentOn]
  | cons f factors ih =>
    simp only [exponentOn, List.map_cons, List.sum_cons] at ih ⊢
    rw [ih, add_mul, ite_mul, zero_mul]

theorem exponents_map (factors : List (String × ℤ)) (n : ℤ) :
    exponents r (factors.map fun f => (f.1, f.2 * n)) = (exponents r factors).map (· * n) := by
  refine PerAxis.ext_get fun axis => ?_
  rw [get_exponents, exponentOn_map, PerAxis.get_map, get_exponents]

theorem exponents_append_neg (factors others : List (String × ℤ)) :
    exponents r (factors ++ others.map fun f => (f.1, -f.2)) =
      (exponents r factors).zipWith (· - ·) (exponents r others) := by
  have hneg : (others.map fun f => (f.1, -f.2)) = others.map fun f => (f.1, f.2 * (-1)) := by
    simp
  rw [hneg, exponents_append, exponents_map]
  refine PerAxis.ext_get fun axis => ?_
  simp [sub_eq_add_neg]

/-- The order of the factors does not matter. -/
theorem exponents_of_perm (h : factors.Perm others) : exponents r factors = exponents r others := by
  refine PerAxis.ext_get fun axis => ?_
  rw [get_exponents, get_exponents]
  exact (h.map _).sum_eq

end Exponents

/-! ## One of the typed units -/

/-- One of units with known exponents. On each axis that it carries it has the chosen unit. -/
structure Shown (c : Context ℚ) (e : PerAxis ℤ) (q : Quantity ℚ) : Prop where
  value : q.value = 1
  dim : q.dim = wholeDim e
  positive : Positive q.units
  carried : ∀ axis, e.get axis ≠ 0 → q.units.get axis = c.get axis

/-- Only the axes with an exponent count in a conversion factor. -/
theorem siFactor_congr_of_carried {c c' : Context ℚ} {e : PerAxis ℤ}
    (h : ∀ axis, e.get axis ≠ 0 → c.get axis = c'.get axis) : siFactor c e = siFactor c' e := by
  have hpower (axis : Axis) :
      (c.get axis).factor ^ e.get axis = (c'.get axis).factor ^ e.get axis := by
    by_cases hzero : e.get axis = 0
    · rw [hzero, zpow_zero, zpow_zero]
    · rw [h axis hzero]
  have hlength := hpower .length
  have hmass := hpower .mass
  have htime := hpower .time
  simp only [PerAxis.get] at hlength hmass htime
  rw [siFactor, siFactor, hlength, hmass, htime]

namespace Shown

variable [Given] {c c' : Context ℚ} {e e' : PerAxis ℤ} {q s : Quantity ℚ}

/-- A conversion to a context with the same units on the carried axes does nothing to the value. -/
theorem toUnits (hq : Shown c e q) (hc' : Positive c')
    (h : ∀ axis, e.get axis ≠ 0 → c'.get axis = c.get axis) :
    ∃ s, q.toUnits c' = .ok s ∧ s.value = 1 ∧ s.dim = wholeDim e := by
  rw [Quantity.toUnits_eq_ite]
  by_cases heq : c'.eq q.units = true
  · rw [if_pos heq]
    exact ⟨q, rfl, hq.value, hq.dim⟩
  · rw [if_neg heq, converted_eq (hq.dim ▸ hasPowers_wholeDim e) hq.positive hc']
    have hfactor : siFactor q.units e = siFactor c' e :=
      siFactor_congr_of_carried fun axis haxis =>
        (hq.carried axis haxis).trans (h axis haxis).symm
    refine ⟨_, rfl, ?_, hq.dim⟩
    rw [inUnits, siAmount, hq.value, hq.dim, shapeFactor_wholeDim hq.positive,
      shapeFactor_wholeDim hc', hfactor, one_mul, div_self (siFactor_pos hc' e).ne']

/-- A merged context has the chosen units on the axes that either operand carries. -/
theorem merge_carried (hq : Shown c e q) (hs : Shown c e' s) {axis : Axis}
    (h : e.get axis ≠ 0 ∨ e'.get axis ≠ 0) :
    (q.units.merge s.units q.dim s.dim).get axis = c.get axis := by
  rw [Context.get_merge, Context.pick, hq.dim, hs.dim, get_wholeDim, get_wholeDim]
  by_cases hzero : e.get axis = 0
  · have hright := h.resolve_left (not_not_intro hzero)
    have hnonzero : Scalar.isZero (e'.get axis : ℚ) = false := by
      rw [← Bool.not_eq_true, isZero_iff, Int.cast_eq_zero]
      exact hright
    rw [if_pos (by simp [hzero, hnonzero]), hs.carried axis hright]
  · rw [if_neg (by simp [hzero]), hq.carried axis hzero]

/-- One of the merged units, for exponents that are zero where those of both operands are. -/
theorem merge (hq : Shown c e q) (hs : Shown c e' s) {e'' : PerAxis ℤ}
    (h : ∀ axis, e.get axis = 0 → e'.get axis = 0 → e''.get axis = 0) :
    Shown c e'' ⟨1, wholeDim e'', q.units.merge s.units q.dim s.dim⟩ := by
  refine ⟨rfl, rfl, ?_, ?_⟩
  · intro axis
    show 0 < ((q.units.merge s.units q.dim s.dim).get axis).factor
    rw [Context.get_merge, Context.pick]
    split
    · exact hs.positive axis
    · exact hq.positive axis
  · intro axis haxis
    refine hq.merge_carried hs ?_
    by_contra hnone
    simp only [not_or, not_not] at hnone
    exact haxis (h axis hnone.1 hnone.2)

/-- Both operands keep their values in the merged context. -/
theorem toUnits_merge (hq : Shown c e q) (hs : Shown c e' s) :
    ∃ q' s', q.toUnits (q.units.merge s.units q.dim s.dim) = .ok q' ∧
      s.toUnits (q.units.merge s.units q.dim s.dim) = .ok s' ∧
      q'.value = 1 ∧ s'.value = 1 ∧ q'.dim = wholeDim e ∧ s'.dim = wholeDim e' := by
  have hmerged := (hq.merge hs fun _ hzero _ => hzero).positive
  obtain ⟨q', hq', hvalue, hdim⟩ :=
    hq.toUnits hmerged fun axis haxis => hq.merge_carried hs (.inl haxis)
  obtain ⟨s', hs', hvalue', hdim'⟩ :=
    hs.toUnits hmerged fun axis haxis => hq.merge_carried hs (.inr haxis)
  exact ⟨q', s', hq', hs', hvalue, hvalue', hdim, hdim'⟩

theorem compoundMul (hq : Shown c e q) (hs : Shown c e' s) :
    ∃ p, q.compoundMul s = .ok p ∧ Shown c (e.zipWith (· + ·) e') p := by
  obtain ⟨q', s', hq', hs', hvalue, hvalue', hdim, hdim'⟩ := hq.toUnits_merge hs
  refine ⟨_, ?_, hq.merge hs fun axis hzero hzero' => by simp [hzero, hzero']⟩
  rw [Quantity.compoundMul, hq', hs']
  simp only [bind, Except.bind, productDim_eq, hdim, hdim', wholeDim_add, hvalue, hvalue',
    mul_eq, mul_one]
  rfl

theorem compoundDiv (hq : Shown c e q) (hs : Shown c e' s) :
    ∃ p, q.compoundDiv s = .ok p ∧ Shown c (e.zipWith (· - ·) e') p := by
  obtain ⟨q', s', hq', hs', hvalue, hvalue', hdim, hdim'⟩ := hq.toUnits_merge hs
  have hone : Quantity.divideBy (1 : ℚ) 1 = .ok 1 := by
    rw [Quantity.divideBy, if_neg (by simp), div_eq, div_one]
  refine ⟨_, ?_, hq.merge hs fun axis hzero hzero' => by simp [hzero, hzero']⟩
  rw [Quantity.compoundDiv, hq', hs']
  simp only [bind, Except.bind, hvalue, hvalue', hone, quotientDim_eq, hdim, hdim', wholeDim_sub]
  rfl

theorem pow (hq : Shown c e q) (n : ℤ) :
    ∃ p, q.pow (.ofValue (n : ℚ)) = .ok p ∧ Shown c (e.map (· * n)) p := by
  refine ⟨⟨1, wholeDim (e.map (· * n)), q.units⟩, ?_, rfl, rfl, hq.positive, ?_⟩
  · show q.powScalar (n : ℚ) = _
    unfold Quantity.powScalar Quantity.valuePower
    rw [hq.value, pow_intCast_of_pos one_pos, pow?_eq, hq.dim, wholeDim_mul, one_zpow]
    rfl
  · intro axis haxis
    refine hq.carried axis ?_
    intro hzero
    simp [hzero] at haxis

end Shown

/-! ## Units of a registry -/

section Evaluation

variable [Given] {records : List (UnitRecord ℚ)} {r : Registry ℚ} {c : Context ℚ}

/-- Factors with units of length, mass and time only, and in all of them one unit for each. -/
def TypedIn (r : Registry ℚ) (c : Context ℚ) (factors : List (String × ℤ)) : Prop :=
  ∀ f ∈ factors, ∃ axis, r.find? f.1 = some (c.get axis) ∧ (c.get axis).axis? = some axis

/-- One of a unit of length, mass or time. -/
theorem shown_quantity {u : Unit ℚ} {axis : Axis} (hu : c.get axis = u)
    (haxis : u.axis? = some axis) (hpos : 0 < u.factor) :
    Shown c (PerAxis.set ⟨0, 0, 0⟩ 1 axis) u.quantity := by
  unfold Unit.quantity
  rw [haxis]
  refine ⟨one_eq, ?_, ?_, ?_⟩
  · show u.dim = _
    rw [dim_of_axis? haxis]
    cases axis <;> rfl
  · intro axis'
    show 0 < ((PerAxis.set Context.si u axis).get axis').factor
    rw [PerAxis.get_set]
    split
    · exact hpos
    · exact positive_si axis'
  · intro axis' hcarried
    show (PerAxis.set Context.si u axis).get axis' = _
    have hsame : axis' = axis := by
      by_contra hother
      rw [PerAxis.get_set, if_neg hother] at hcarried
      exact hcarried (by cases axis' <;> rfl)
    rw [PerAxis.get_set, if_pos hsame, hsame, hu]

theorem exponents_single {spelling : String} {axis : Axis} {u : Unit ℚ}
    (hu : r.find? spelling = some u) (haxis : u.axis? = some axis) :
    exponents r [(spelling, 1)] = PerAxis.set ⟨0, 0, 0⟩ 1 axis := by
  refine PerAxis.ext_get fun axis' => ?_
  rw [get_exponents, PerAxis.get_set, exponentOn]
  simp only [List.map_cons, List.map_nil, List.sum_cons, List.sum_nil, add_zero, hu,
    Option.bind_some, haxis, Option.some.injEq]
  by_cases hsame : axis = axis'
  · rw [if_pos hsame, if_pos hsame.symm]
  · rw [if_neg hsame, if_neg (fun h => hsame h.symm)]
    cases axis' <;> rfl

theorem numeralValue_eq {text : String} {x : ℚ} (h : numeral? text = some x) :
    (numeralValue text : Except (Fault ℚ) ℚ) = .ok x := by
  unfold numeral? at h
  unfold numeralValue
  split at h
  · rename_i negative digits exponent hreading
    rw [hreading]
    cases h
    cases negative <;> rfl
  · cases h

theorem plainEvaluate_exponent {n : Tree} {k : ℤ} (h : exponent? n = some k) :
    plainEvaluate r n = .ok (.ofValue (k : ℚ)) := by
  have hliteral (l : Literal) (hl : l.terminal ≠ .unit) (htext : wholeNumeral? l.text = some k) :
      plainEvaluate r l.tree = .ok (.ofValue (k : ℚ)) := by
    rw [plainEvaluate_literal hl, numeralValue_eq (numeral?_of_wholeNumeral? htext)]
    rfl
  unfold exponent? at h
  split at h
  · rename_i text
    exact hliteral ⟨false, .number, text⟩ nofun h
  · rename_i text
    exact hliteral ⟨true, .positiveNumber, text⟩ nofun h
  · rename_i text
    exact hliteral ⟨true, .negativeNumber, text⟩ nofun h
  · cases h

theorem TypedIn.of_map {factors : List (String × ℤ)} {f : ℤ → ℤ}
    (h : TypedIn r c (factors.map fun factor => (factor.1, f factor.2))) : TypedIn r c factors :=
  fun factor hfactor => h (factor.1, f factor.2) (List.mem_map.mpr ⟨factor, hfactor, rfl⟩)

/-- Typed units, however they are nested, come to one of them. -/
theorem shown_of_unitFactors? (hr : Registry.ofRecords records = .ok r) {u : Tree}
    {factors : List (String × ℤ)} (hfactors : unitFactors? u = some factors)
    (htyped : TypedIn r c factors) :
    ∃ q, plainEvaluate r u = .ok q ∧ Shown c (exponents r factors) q := by
  induction u using unitFactors?.induct generalizing factors with
  | case1 text =>
    cases hfactors
    obtain ⟨axis, hfind, haxis⟩ := htyped _ (List.mem_singleton_self _)
    refine ⟨(c.get axis).quantity, ?_, ?_⟩
    · rw [plainEvaluate_one (by simp), plainEvaluate, leafValue, if_pos rfl, Registry.quantity?,
        hfind]
      rfl
    · rw [exponents_single hfind haxis]
      exact shown_quantity rfl haxis (factor_pos_of_mem hr (Registry.mem_of_find? hfind))
  | case2 t u iht ihu =>
    obtain ⟨left, hleft, h⟩ := Option.bind_eq_some_iff.mp hfactors
    obtain ⟨right, hright, h⟩ := Option.bind_eq_some_iff.mp h
    cases h
    obtain ⟨htyped, htyped'⟩ := List.forall_mem_append.mp htyped
    obtain ⟨q, hq, hqshown⟩ := iht hleft htyped
    obtain ⟨s, hs, hsshown⟩ := ihu hright htyped'
    obtain ⟨p, hp, hpshown⟩ := hqshown.compoundMul hsshown
    refine ⟨p, ?_, exponents_append left right ▸ hpshown⟩
    rw [plainEvaluate_two (by simp), hq, hs]
    exact hp
  | case3 t u iht ihu =>
    obtain ⟨left, hleft, h⟩ := Option.bind_eq_some_iff.mp hfactors
    obtain ⟨right, hright, h⟩ := Option.bind_eq_some_iff.mp h
    cases h
    obtain ⟨htyped, htyped'⟩ := List.forall_mem_append.mp htyped
    obtain ⟨q, hq, hqshown⟩ := iht hleft htyped
    obtain ⟨s, hs, hsshown⟩ := ihu hright (.of_map (f := (-·)) htyped')
    obtain ⟨p, hp, hpshown⟩ := hqshown.compoundDiv hsshown
    refine ⟨p, ?_, exponents_append_neg left right ▸ hpshown⟩
    rw [plainEvaluate_two (by simp), hq, hs]
    exact hp
  | case4 t n iht =>
    obtain ⟨base, hbase, h⟩ := Option.bind_eq_some_iff.mp hfactors
    obtain ⟨k, hk, h⟩ := Option.bind_eq_some_iff.mp h
    cases h
    obtain ⟨q, hq, hqshown⟩ := iht hbase (.of_map (f := (· * k)) htyped)
    obtain ⟨p, hp, hpshown⟩ := hqshown.pow k
    refine ⟨p, ?_, exponents_map base k ▸ hpshown⟩
    rw [plainEvaluate_two (by simp), hq, plainEvaluate_exponent hk]
    exact hp
  | case5 t _ _ _ _ =>
    rw [unitFactors?] at hfactors
    · cases hfactors
    all_goals assumption

end Evaluation

/-! ## Derived units -/

section Derived

theorem symbols_of_unitPow : ∀ rule ∈ rules, rule.production = some .unitPow →
    rule.symbols = [.category .unitName, .terminal .caret, .category .exponent] := by
  decide

/-- A tree in which every numeral stands for a whole number. -/
def WholeNumerals (t : Tree) : Prop :=
  ∀ terminal text, .leaf terminal text ∈ t.nodes → terminal ≠ .unit →
    (wholeNumeral? text).isSome = true

theorem WholeNumerals.child {p : Production} {children : List Tree}
    (h : WholeNumerals (.node p children)) {t : Tree} (ht : t ∈ children) : WholeNumerals t := by
  intro terminal text hleaf
  refine h terminal text ?_
  rw [Tree.nodes]
  exact List.mem_cons_of_mem _ (Tree.mem_nodesOfAll.mpr ⟨t, ht, hleaf⟩)

theorem exists_exponent? {tokens : List Token} {n : Tree} (h : Derives .exponent tokens n)
    (hwhole : WholeNumerals n) : ∃ k, exponent? n = some k := by
  obtain ⟨token, l, _, hl, rfl⟩ := recognized_of_derives h
  have htext (hterminal : l.terminal ≠ .unit) : ∃ k, wholeNumeral? l.text = some k := by
    refine Option.isSome_iff_exists.mp (hwhole l.terminal l.text ?_ hterminal)
    simp [Literal.tree, Tree.nodes, Tree.nodesOfAll]
  unfold Literal.ofToken? at hl
  split at hl <;> cases hl
  all_goals
    rename_i hterminal
    simp only [hterminal] at htext ⊢
    exact htext (by decide)

theorem exists_unitFactors?_combined {p : Production} (hp : combinesUnits p = true) {t u : Tree}
    (ht : ∃ factors, unitFactors? t = some factors)
    (hu : ∃ factors, unitFactors? u = some factors) :
    ∃ factors, unitFactors? (.node p [t, u]) = some factors := by
  obtain ⟨factors, hfactors⟩ := ht
  obtain ⟨others, hothers⟩ := hu
  cases p <;> simp only [combinesUnits, reduceCtorEq] at hp
  all_goals
    rw [unitFactors?, hfactors, hothers]
    exact ⟨_, rfl⟩

/-- Units of the grammar have factors if all their numerals are whole. -/
theorem exists_unitFactors? {c : Category} {tokens : List Token} {u : Tree}
    (h : Derives c tokens u) :
    isUnits c = true → WholeNumerals u → ∃ factors, unitFactors? u = some factors := by
  refine h.shapeInduction ?promoted ?between ?beside ?ended ?headed ?unsigned ?enclosed ?lone
  case promoted =>
    intro c d _ t rule _ hd hc
    have hrule := keepsUnits_of_mem _ rule
    simp only [keepsUnits, hc, Bool.not_true, Bool.false_or] at hrule
    exact hd hrule
  case between =>
    intro c d d' x p _ _ t u _ rule _ _ ht hu' hu hc hwhole
    have hrule := keepsUnits_of_mem _ rule
    simp only [keepsUnits, hc, Bool.true_or, Bool.not_true, Bool.false_or, Bool.and_eq_true,
      Bool.or_eq_true, beq_iff_eq] at hrule
    obtain ⟨hd, hp⟩ := hrule
    have hleft := ht hd (hwhole.child (by simp))
    have hwhole' : WholeNumerals u := hwhole.child (by simp)
    rcases hp with rfl | ⟨hp, hd'⟩
    · have hsymbols := symbols_of_unitPow _ rule rfl
      simp only [List.cons.injEq, Symbol.category.injEq, and_true] at hsymbols
      obtain ⟨_, _, rfl⟩ := hsymbols
      obtain ⟨factors, hfactors⟩ := hleft
      obtain ⟨k, hk⟩ := exists_exponent? hu' hwhole'
      rw [unitFactors?, hfactors, hk]
      exact ⟨_, rfl⟩
    · exact exists_unitFactors?_combined hp hleft (hu hd' hwhole')
  case beside =>
    intro c d d' p _ _ t u rule _ ht _ hu hc hwhole
    have hrule := keepsUnits_of_mem _ rule
    simp only [keepsUnits, hc, Bool.true_or, Bool.not_true, Bool.false_or,
      Bool.and_eq_true] at hrule
    obtain ⟨⟨hd, hp⟩, hd'⟩ := hrule
    exact exists_unitFactors?_combined hp (ht hd (hwhole.child (by simp)))
      (hu hd' (hwhole.child (by simp)))
  case ended | headed =>
    intro c d _ p _ _ _ rule _ _ _ hc
    have hrule := keepsUnits_of_mem _ rule
    simp [keepsUnits, hc] at hrule
  case unsigned =>
    intro c d _ _ _ _ rule _ _ _ hc
    have hrule := keepsUnits_of_mem _ rule
    simp [keepsUnits, hc] at hrule
  case enclosed =>
    intro c d _ _ _ _ _ _ rule _ _ _ _ hc
    have hrule := keepsUnits_of_mem _ rule
    simp [keepsUnits, hc] at hrule
  case lone =>
    intro c _ p k rule hk hc _
    have hrule := keepsUnits_of_mem _ rule
    simp only [keepsUnits, hc, Bool.true_or, Bool.not_true, Bool.false_or, Bool.and_eq_true,
      beq_iff_eq] at hrule
    obtain ⟨rfl, rfl⟩ := hrule
    have hoperand : operand? k = some (.leaf .unit k.text) := by
      simp [operand?, hk]
    rw [hoperand]
    exact ⟨_, rfl⟩

end Derived

/-! ## What is shown -/

theorem choices_of_exponent? {n : Tree} {k : ℤ} (h : exponent? n = some k) : n.choices = [] := by
  unfold exponent? at h
  split at h
  · simp
  · simp
  · simp
  · cases h

theorem choices_of_unitFactors? {u : Tree} {factors : List (String × ℤ)}
    (h : unitFactors? u = some factors) : u.choices = [] := by
  induction u using unitFactors?.induct generalizing factors with
  | case1 text => simp
  | case2 t u iht ihu | case3 t u iht ihu =>
    obtain ⟨left, hleft, h⟩ := Option.bind_eq_some_iff.mp h
    obtain ⟨right, hright, _⟩ := Option.bind_eq_some_iff.mp h
    exact Tree.choices_node_eq_nil_iff.mpr (by simp [iht hleft, ihu hright])
  | case4 t n iht =>
    obtain ⟨base, hbase, h⟩ := Option.bind_eq_some_iff.mp h
    obtain ⟨k, hk, _⟩ := Option.bind_eq_some_iff.mp h
    exact Tree.choices_node_eq_nil_iff.mpr (by simp [iht hbase, choices_of_exponent? hk])
  | case5 t _ _ _ _ =>
    rw [unitFactors?] at h
    · cases h
    all_goals assumption

section Shown

variable [Given] {records : List (UnitRecord ℚ)} {r : Registry ℚ} {c : Context ℚ}

/-- A number in front of units multiplies the value of these. -/
theorem calculate_literal_units {text : String} {n : Lexeme} {us : List Lexeme} {u : Tree}
    {q : Quantity ℚ} (hscan : Lexeme.scan r text = n :: us)
    (hn : Numeral.isNumeral n.text.toList = true)
    (hu : Derives .units (us.map (Token.ofLexeme r)) u) (hq : plainEvaluate r u = .ok q)
    (hone : q.value = 1) :
    ∃ x, numeral? n.text = some x ∧ calculate r text = .ok ⟨x, q.dim, q.units⟩ := by
  obtain ⟨l, hl, hltext, hwritten⟩ := exists_literal (r := r) hn
  obtain ⟨x, hx⟩ : ∃ x, numeral? n.text = some x := by
    obtain ⟨negative, digits, exponent, hreading⟩ := Numeral.decimal_of_isNumeral hn
    exact ⟨_, by rw [numeral?, hreading]⟩
  refine ⟨x, hx, ?_⟩
  have hparse : UnitCalc.parse r text = .ok (l.quantity u) := by
    rw [parse_text_eq_ok_iff, Token.scan, hscan]
    exact parse_literal_units hl hu
  have hchoices : (l.quantity u).choices = [] := by
    simp [Literal.quantity, Tree.choices_of_derives hu]
  have hplain : (Quantity.ofValue x).isDimensionless = true := dim_isZero_iff.mpr wholeDim_zero
  rw [calculate, hparse]
  show evaluate r (l.quantity u) = _
  rw [evaluate_eq_plainEvaluate hchoices, Literal.quantity, plainEvaluate_attach, hq,
    plainEvaluate_literal hwritten.terminal_ne, hltext, numeralValue_eq hx]
  show attach (.ofValue x) q = _
  rw [attach_eq_scale hplain, Quantity.scale, hone]
  show Except.ok (⟨1 * x, q.dim, q.units⟩ : Quantity ℚ) = _
  rw [one_mul]

/-- For every constructed registry, the units that the grammar derives have factors if all their
numerals are whole. And all factored units, however they are nested, whose spellings are of units
of length, mass and time, with one unit for each, come to exactly one of these: the value is one,
the exponents are the sums of those of the factors, and every axis with an exponent that is not
zero has the typed unit. A numeral in front of them is the value of the whole, and the order of the
factors changes neither value nor dimension nor the units on the carried axes. -/
theorem typed_units_are_shown (hr : Registry.ofRecords records = .ok r) :
    (∀ tokens u, Derives .units tokens u → WholeNumerals u →
      ∃ factors, unitFactors? u = some factors) ∧
    ∀ u factors, unitFactors? u = some factors → TypedIn r c factors →
      ∃ q, evaluate r u = .ok q ∧ q.value = 1 ∧ q.dim = wholeDim (exponents r factors) ∧
        (∀ axis, exponentOn r factors axis ≠ 0 → q.units.get axis = c.get axis) ∧
        (∀ text n us, Lexeme.scan r text = n :: us → Numeral.isNumeral n.text.toList = true →
          Derives .units (us.map (Token.ofLexeme r)) u →
          ∃ x, numeral? n.text = some x ∧ calculate r text = .ok ⟨x, q.dim, q.units⟩) ∧
        ∀ u' factors', unitFactors? u' = some factors' → factors'.Perm factors →
          ∃ q', evaluate r u' = .ok q' ∧ q'.value = q.value ∧ q'.dim = q.dim ∧
            ∀ axis, exponentOn r factors axis ≠ 0 → q'.units.get axis = q.units.get axis := by
  refine ⟨fun tokens u hu => exists_unitFactors? hu rfl, ?_⟩
  intro u factors hfactors htyped
  obtain ⟨q, hq, hshown⟩ := shown_of_unitFactors? hr hfactors htyped
  have hcarried (axis : Axis) (h : exponentOn r factors axis ≠ 0) :
      q.units.get axis = c.get axis := hshown.carried axis (by simpa using h)
  refine ⟨q, ?_, hshown.value, hshown.dim, hcarried, ?_, ?_⟩
  · rw [evaluate_eq_plainEvaluate (choices_of_unitFactors? hfactors), hq]
  · intro text n us hscan hn hu
    exact calculate_literal_units hscan hn hu hq hshown.value
  · intro u' factors' hfactors' hperm
    have htyped' : TypedIn r c factors' := fun f hf => htyped f (hperm.mem_iff.mp hf)
    obtain ⟨q', hq', hshown'⟩ := shown_of_unitFactors? hr hfactors' htyped'
    rw [exponents_of_perm hperm] at hshown'
    refine ⟨q', ?_, hshown'.value.trans hshown.value.symm, hshown'.dim.trans hshown.dim.symm, ?_⟩
    · rw [evaluate_eq_plainEvaluate (choices_of_unitFactors? hfactors'), hq']
    · intro axis h
      rw [hcarried axis h]
      exact hshown'.carried axis (by simpa using h)

end Shown

/-! ## A speed -/

/-- Units of length and time that are not those of SI. -/
def kilometerAndHour : List (UnitRecord ℚ) := [
  ⟨.length, "kilometer", "km", "km", 1000, false, ["kilometre"]⟩,
  ⟨.time, "hour", "h", "h", 3600, false, []⟩]

/-- The units `km/h`. -/
def kilometersPerHour : Tree :=
  .node .unitDiv [.node .unit [.leaf .unit "km"], .node .unit [.leaf .unit "h"]]

/-- What is typed as `3 km/h` is shown as such. -/
theorem calculate_kilometersPerHour :
    letI := noFunctions
    ∃ r q, Registry.ofRecords kilometerAndHour = .ok r ∧ calculate r "3 km/h" = .ok q ∧
      q.value = 3 ∧ q.dim = wholeDim ⟨1, 0, -1⟩ ∧ q.units.length.name = "kilometer" ∧
      q.units.time.name = "hour" := by
  let _ := noFunctions
  have hcheck : returns (Registry.ofRecords kilometerAndHour) (fun r =>
      decide (Lexeme.scan r "3 km/h" = [⟨"3", 0⟩, ⟨"km", 2⟩, ⟨"/", 4⟩, ⟨"h", 5⟩]) &&
      decide ((Token.ofLexeme r ⟨"km", 2⟩).terminal = .unit) &&
      decide ((Token.ofLexeme r ⟨"/", 4⟩).terminal = .slash) &&
      decide ((Token.ofLexeme r ⟨"h", 5⟩).terminal = .unit) &&
      (r.find? "km").any (fun u => u.name == "kilometer" && u.axis? == some .length) &&
      (r.find? "h").any (fun u => u.name == "hour" && u.axis? == some .time)) = true := by
    decide +kernel
  obtain ⟨r, hrecords, hcheck⟩ := exists_of_returns hcheck
  simp only [Bool.and_eq_true, decide_eq_true_eq, Option.any_eq_true, beq_iff_eq] at hcheck
  obtain ⟨⟨⟨⟨⟨hscan, hkm⟩, hslash⟩, hh⟩, km, hfind, hkmname, hkmaxis⟩, h, hfind', hhname,
    hhaxis⟩ := hcheck
  have hname {token : Token} (ht : token.terminal = .unit) :
      Derives .unitFactor [token] (.node .unit [.leaf .unit token.text]) := by
    have hlone := Derives.lone (c := .unitName) (p := .unit) (by decide) ht
    rw [show operand? token = some (.leaf .unit token.text) by simp [operand?, ht]] at hlone
    exact .promoted (by decide) hlone
  have hleft : Derives .units [Token.ofLexeme r ⟨"km", 2⟩] (.node .unit [.leaf .unit "km"]) :=
    .promoted (by decide) (hname hkm)
  have hunits : Derives .units ([⟨"km", 2⟩, ⟨"/", 4⟩, ⟨"h", 5⟩].map (Token.ofLexeme r))
      kilometersPerHour :=
    .between (p := .unitDiv) (by decide) hslash (by simp [operand?, hslash]) hleft (hname hh)
  have htyped : TypedIn r ⟨km, .kilogram, h⟩ [("km", 1), ("h", -1)] := by
    intro f hf
    simp only [List.mem_cons, List.not_mem_nil, or_false] at hf
    rcases hf with rfl | rfl
    · exact ⟨.length, hfind, hkmaxis⟩
    · exact ⟨.time, hfind', hhaxis⟩
  obtain ⟨q, _, _, hdim, hcarried, hcalculate, _⟩ :=
    (typed_units_are_shown hrecords).2 kilometersPerHour [("km", 1), ("h", -1)] rfl htyped
  obtain ⟨x, hx, hresult⟩ := hcalculate _ _ _ hscan (by decide +kernel) hunits
  have hthree : numeral? "3" = some 3 := by decide +kernel
  have hexponents : exponents r [("km", 1), ("h", -1)] = ⟨1, 0, -1⟩ := by
    simp [exponents, exponentOn, hfind, hfind', hkmaxis, hhaxis]
  rw [hthree] at hx
  cases hx
  refine ⟨r, _, hrecords, hresult, rfl, by rw [hdim, hexponents], ?_, ?_⟩
  · have hlength := hcarried .length (by rw [← get_exponents, hexponents]; decide)
    show (q.units.get .length).name = _
    rw [hlength]
    exact hkmname
  · have htime := hcarried .time (by rw [← get_exponents, hexponents]; decide)
    show (q.units.get .time).name = _
    rw [htime]
    exact hhname

end UnitCalc.Exact
