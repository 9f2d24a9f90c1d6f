import UnitCalc.Proofs.Evaluator.Single
import UnitCalc.Proofs.Exact.Operations
import UnitCalc.Proofs.Exact.Positive

/-!
# Contexts never change the physics

The evaluator carries a context through every operation; the reference evaluator knows none.
On exact numbers the two agree on every derivation tree: both have a result, and it is the
same amount, or both fail with the same kind of fault. The proof is an induction over the
derivation, whose step is the lemma about the operation of the node.
-/

namespace UnitCalc.Exact

open UnitCalc.Number UnitCalc.Expr UnitCalc.Expr.Grammar

section Evaluation

variable [Given] {r : Registry ℚ}

/-! ## Leaves -/

/-- One of a unit is its SI amount, whether its context chooses it or not. -/
theorem quantity_expresses (hr : Coherent r) {u : Unit ℚ} (hu : u ∈ known r) :
    Expresses r u.quantity ⟨u.factor, u.dim⟩ := by
  unfold Unit.quantity
  cases haxis : u.axis? with
  | none =>
    obtain ⟨e, he⟩ := hr.whole u hu
    refine ⟨within_si, e, he, ?_⟩
    rw [siFactor_si, mul_one, he]
  | some axis =>
    -- The quantity is one of the unit in a context that has the unit on its axis.
    refine ⟨within_si.set hu axis, ?_⟩
    have hdim := dim_of_axis? haxis
    cases axis with
    | length => exact ⟨⟨1, 0, 0⟩, hdim, by simp [hdim, siFactor, Context.si, PerAxis.set]; rfl⟩
    | mass => exact ⟨⟨0, 1, 0⟩, hdim, by simp [hdim, siFactor, Context.si, PerAxis.set]; rfl⟩
    | time => exact ⟨⟨0, 0, 1⟩, hdim, by simp [hdim, siFactor, Context.si, PerAxis.set]; rfl⟩

/-- A leaf of a parse tree is read alike. -/
theorem leaf_simulates (hr : Coherent r) {terminal : Terminal} {text : String}
    (h : Readable r terminal text) :
    Simulates (Expresses r) (evaluate r (.leaf terminal text))
      (amount r (.leaf terminal text)) := by
  rw [evaluate_leaf, amount]
  unfold Readable at h
  unfold leafValue at h ⊢
  split
  · cases hu : r.find? text with
    | none => simp_all [Registry.quantity?, Fault.rulesOutReading]
    | some u =>
      simp only [Registry.quantity?, unitAmount, hu, Option.map_some]
      exact quantity_expresses hr (mem_known_of_find? hu)
  · rename_i hterminal
    unfold numeralValue at h ⊢
    unfold numeralAmount
    cases hreading : Numeral.Reading.ofText? text with
    | none => simp_all [Except.map, Fault.rulesOutReading]
    | some reading =>
      cases reading with
      | decimal negative digits exponent =>
        cases negative <;> exact expresses_ofValue _
      | infinite _ | notANumber => rfl

/-! ## Nodes -/

theorem constant_simulates {p : Production} (harity : p.arity? = some 0) :
    Simulates (Expresses r) (p.reduce []) (amountOf p []) := by
  cases p <;> simp [Production.arity?] at harity
  case e | pi => exact expresses_ofValue _

section Operands

variable {p : Production} {q s : Quantity ℚ} {a b : Amount}

theorem unary_simulates (hr : Coherent r) (hq : Expresses r q a) (harity : p.arity? = some 1)
    (hwhole : wholeOn p [a] = true) :
    Simulates (Expresses r) (p.reduce [q]) (amountOf p [a]) := by
  cases p <;> simp [Production.arity?] at harity
  case neg => exact neg_expresses hq
  case factorial => exact applyPlain_simulates .factorial hq
  case signedFactorial =>
    exact applySigned_simulates hr hq (applyPlain_simulates .factorial (abs_expresses hr hq))
  case sqrt => cases hwhole
  case log => exact applyPlain_simulates .log hq
  case ln => exact applyPlain_simulates .ln hq
  case number | signedNumber | unit => exact hq

/-- A conversion to any units keeps the amount. -/
theorem convert_simulates (hr : Coherent r) (hq : Expresses r q a) (hs : Expresses r s b) :
    Simulates (Expresses r) (q.toUnits s.units) (.ok a) := by
  obtain ⟨q', hq', hexpresses, _⟩ := toUnits_expresses hr hq hs.within
  rw [hq']
  exact hexpresses

theorem binary_simulates (hr : Coherent r) (hq : Expresses r q a) (hs : Expresses r s b)
    (harity : p.arity? = some 2) (hwhole : wholeOn p [a, b] = true)
    (hdiv : p = .unitDiv → b.magnitude ≠ 0) :
    Simulates (Expresses r) (p.reduce [q, s]) (amountOf p [a, b]) := by
  have hexponent (h : wholeOn .pow [a, b] = true) (hb : b.dim = noDim) :
      b.magnitude.isInt = true := by
    simpa [wholeOn, hb] using h
  cases p <;> simp [Production.arity?] at harity
  case convert => exact convert_simulates hr hq hs
  case add => exact add_simulates hr hq hs
  case sub => exact sub_simulates hr hq hs
  case mul => exact mul_simulates hr hq hs
  case div => exact div_simulates hr hq hs
  case mod => exact mod_simulates hr hq hs
  case pow | scaled | unitPow => exact pow_simulates hr hq hs (hexponent hwhole)
  case signedPow | signedScaled =>
    exact applySigned_simulates (f := (·.pow s)) (g := (·.pow b)) hr hq
      (pow_simulates hr (abs_expresses hr hq) hs (hexponent hwhole))
  case quantity | signedQuantity => exact attach_simulates hq hs
  case unitMul => exact compoundMul_simulates hr hq hs
  case unitDiv => exact compoundDiv_simulates hr hq hs (hdiv rfl)

end Operands

/-- Every production of the grammar does to quantities what it does to their amounts. Powers
need whole exponents, and a unit has to be divided by one that is not zero. -/
theorem reduce_simulates (hr : Coherent r) {p : Production} {qs : List (Quantity ℚ)}
    {as : List Amount} (hqs : List.Forall₂ (Expresses r) qs as)
    (harity : p.arity? = some qs.length) (hwhole : wholeOn p as = true)
    (hdiv : p = .unitDiv → ∀ a ∈ as, a.magnitude ≠ 0) :
    Simulates (Expresses r) (p.reduce qs) (amountOf p as) := by
  cases hqs with
  | nil => exact constant_simulates harity
  | cons hq hqs =>
    cases hqs with
    | nil => exact unary_simulates hr hq harity hwhole
    | cons hs hqs =>
      cases hqs with
      | nil => exact binary_simulates hr hq hs harity hwhole fun hp => hdiv hp _ (by simp)
      -- No production takes three operands.
      | cons _ _ =>
        have hle := Production.arity_le_two harity
        simp at hle

theorem operands_simulate {trees : List Tree}
    (h : ∀ t ∈ trees, Simulates (Expresses r) (evaluate r t) (amount r t)) :
    Simulates (List.Forall₂ (Expresses r)) (trees.mapM (evaluate r)) (amounts r trees) := by
  induction trees with
  | nil => exact .nil
  | cons t trees ih =>
    rw [List.mapM_cons, amounts]
    refine (h t List.mem_cons_self).bind ?_
    intro q a hq
    refine (ih fun u hu => h u (List.mem_cons_of_mem t hu)).bind fun qs as hqs => ?_
    exact .cons hq hqs

theorem of_amounts_eq_ok {trees : List Tree} {as : List Amount}
    (h : amounts r trees = .ok as) :
    as.length = trees.length ∧ ∀ a ∈ as, ∃ t ∈ trees, amount r t = .ok a := by
  induction trees generalizing as with
  | nil =>
    cases h
    exact ⟨rfl, fun _ ha => absurd ha List.not_mem_nil⟩
  | cons t trees ih =>
    rw [amounts] at h
    cases hfirst : amount r t with
    | error failure =>
      rw [hfirst] at h
      cases h
    | ok first =>
      cases hrest : amounts r trees with
      | error failure =>
        rw [hfirst, hrest] at h
        cases h
      | ok rest =>
        rw [hfirst, hrest] at h
        cases h
        obtain ⟨hlength, hmem⟩ := ih hrest
        refine ⟨congrArg (· + 1) hlength, ?_⟩
        intro a ha
        rcases List.mem_cons.mp ha with rfl | ha
        · exact ⟨t, List.mem_cons_self, hfirst⟩
        · obtain ⟨u, hu, hamount⟩ := hmem a ha
          exact ⟨u, List.mem_cons_of_mem t hu, hamount⟩

theorem wholePowersOfAll_iff {trees : List Tree} :
    wholePowersOfAll r trees = true ↔ ∀ t ∈ trees, wholePowers r t = true := by
  induction trees with
  | nil => simp [wholePowersOfAll]
  | cons t trees ih => simp [wholePowersOfAll, ih]

/-- A node evaluates to what its amount is if its operands do. -/
theorem node_simulates (hr : Coherent r) {p : Production} {children : List Tree}
    (hchoices : ∀ t ∈ children, t.choices = [])
    (hwell : WellFormed r (.node p children)) (hwhole : wholePowers r (.node p children) = true)
    (h : ∀ t ∈ children, WellFormed r t → wholePowers r t = true →
      Simulates (Expresses r) (evaluate r t) (amount r t))
    (hdiv : p = .unitDiv → ∀ t ∈ children, ∀ a, amount r t = .ok a → 0 < a.magnitude) :
    Simulates (Expresses r) (evaluate r (.node p children)) (amount r (.node p children)) := by
  rw [wholePowers, Bool.and_eq_true, wholePowersOfAll_iff] at hwhole
  rw [evaluate_node hwell (Tree.choicesOfAll_eq_nil hchoices), amount]
  obtain ⟨harity, hchildren⟩ := hwell
  rw [allWellFormed_iff] at hchildren
  have hoperands := operands_simulate fun t ht => h t ht (hchildren t ht) (hwhole.1 t ht)
  refine hoperands.bind_of_ok ?_
  intro qs as has hqs
  obtain ⟨hlength, hmem⟩ := of_amounts_eq_ok has
  rw [has] at hwhole
  refine reduce_simulates hr hqs ?_ hwhole.2 fun hp a ha => ?_
  · rw [harity, hqs.length_eq, hlength]
  · obtain ⟨t, ht, hamount⟩ := hmem a ha
    exact (hdiv hp t ht a hamount).ne'

/-! ## Trees -/

/-- What the evaluation of a tree has to do with its amount. -/
def Agrees (r : Registry ℚ) (t : Tree) : Prop :=
  WellFormed r t → wholePowers r t = true →
    Simulates (Expresses r) (evaluate r t) (amount r t)

theorem agrees_pair (hr : Coherent r) {d d' : Category} {tokens tokens' : List Token}
    {p : Production} {t u : Tree} (ht : Derives d tokens t) (hu : Derives d' tokens' u)
    (iht : Agrees r t) (ihu : Agrees r u)
    (hunits : p = .unitDiv → isUnits d = true ∧ isUnits d' = true) :
    Agrees r (.node p [t, u]) := by
  intro hwell hwhole
  refine node_simulates hr ?_ hwell hwhole ?_ fun hp => ?_
  · simp [Tree.choices_of_derives ht, Tree.choices_of_derives hu]
  · exact List.forall_mem_cons.mpr ⟨iht, List.forall_mem_singleton.mpr ihu⟩
  · obtain ⟨hd, hd'⟩ := hunits hp
    exact List.forall_mem_cons.mpr
      ⟨amount_pos hr ht hd, List.forall_mem_singleton.mpr (amount_pos hr hu hd')⟩

/-- A derivation tree evaluates to a quantity that expresses its amount, or fails as its
amount does. -/
theorem agrees_of_derives (hr : Coherent r) {c : Category} {tokens : List Token} {t : Tree}
    (h : Derives c tokens t) : Agrees r t := by
  refine h.shapeInduction ?promoted ?between ?beside ?ended ?headed ?unsigned ?enclosed ?lone
  case promoted =>
    intro c d _ t _ _ ih
    exact ih
  case unsigned =>
    intro c d x _ t _ _ _ _ ih
    exact ih
  case enclosed =>
    intro c d x y _ t _ _ _ _ _ _ ih
    exact ih
  case between =>
    intro c d d' x p _ _ t u _ rule _ ht iht hu ihu
    refine agrees_pair hr ht hu iht ihu ?_
    intro hp
    have hrule := keepsUnits_of_mem _ rule
    simpa [keepsUnits, combinesUnits, hp] using hrule
  case beside =>
    intro c d d' p _ _ t u rule ht iht hu ihu
    refine agrees_pair hr ht hu iht ihu ?_
    intro hp
    have hrule := keepsUnits_of_mem _ rule
    simpa [keepsUnits, combinesUnits, hp] using hrule
  -- One operand is never divided by, nor is a leaf.
  case ended | headed =>
    intro c d x p _ t _ rule _ ht iht hwell hwhole
    refine node_simulates hr ?_ hwell hwhole ?_ fun hp => ?_
    · simp [Tree.choices_of_derives ht]
    · exact List.forall_mem_singleton.mpr iht
    · have hrule := keepsUnits_of_mem _ rule
      simp [keepsUnits, hp] at hrule
  case lone =>
    intro c x p k rule _ hwell hwhole
    have hleaf : ∀ t ∈ (operand? k).toList, t = .leaf k.terminal k.text := by
      unfold operand?
      split <;> simp
    refine node_simulates hr (fun t ht => ?_) hwell hwhole (fun t ht hreadable _ => ?_)
      fun hp => ?_
    · rw [hleaf t ht, Tree.choices_leaf]
    · rw [hleaf t ht] at hreadable ⊢
      exact leaf_simulates hr hreadable
    · have hrule := keepsUnits_of_mem _ rule
      simp [keepsUnits, hp] at hrule

/-! ## Parse trees -/

/-- For every constructed registry in which units that compare equal have one factor, and
every reading of every expression whose exponents are whole, the evaluator and the reference
evaluator agree: they have a quantity and the amount that it measures, or they fail with the
same kind of fault. -/
theorem evaluate_simulates_reference {records : List (UnitRecord ℚ)}
    (hrecords : Registry.ofRecords records = .ok r)
    (hsame : ∀ u ∈ known r, ∀ v ∈ known r, u.eq v = true → u.factor = v.factor)
    {lexemes : List Lexeme} {tree : Tree}
    (hparse : Expr.parse (lexemes.map (Token.ofLexeme r)) = .ok tree)
    {t : Tree} (ht : t ∈ tree.readings) (hwhole : wholePowers r t = true) :
    Simulates Measures (evaluate r t) (amount r t) := by
  have hr := coherent_of_ofRecords hrecords hsame
  have hderives := (mem_readings_of_parse hparse t).mp ht
  have hwell : WellFormed r t := by
    refine wellFormed_of_derives hderives ?_
    intro token htoken hoperand
    obtain ⟨lexeme, _, rfl⟩ := List.mem_map.mp htoken
    exact readable_ofLexeme r lexeme hoperand
  exact (agrees_of_derives hr hderives hwell hwhole).imp fun q a hq => hq.measures hr

end Evaluation

/-! ## A speed -/

/-- Units of the road. -/
def roadRecords : List (UnitRecord ℚ) := [
  ⟨.length, "meter", "m", "m", 1, false, []⟩,
  ⟨.length, "mile", "mi", "mi", 1609344 / 1000, false, []⟩,
  ⟨.time, "hour", "h", "h", 3600, false, []⟩]

/-- The speed in `(3 mi + 500 m) / 2 h -> mi` is the same in SI units. -/
theorem evaluate_speed :
    letI := noFunctions
    ∃ r tree, Registry.ofRecords roadRecords = .ok r ∧
      Expr.parse (Token.scan r "(3 mi + 500 m) / 2 h -> mi") = .ok tree ∧
      ∀ t ∈ tree.readings, Simulates Measures (evaluate r t)
        (.ok ⟨166501 / 225000, ⟨1, 0, -1⟩⟩) := by
  let _ := noFunctions
  have hcheck : (match Registry.ofRecords roadRecords with
      | .error _ => false
      | .ok r =>
        decide (∀ u ∈ known r, ∀ v ∈ known r, u.eq v = true → u.factor = v.factor) &&
        match Expr.parse (Token.scan r "(3 mi + 500 m) / 2 h -> mi") with
        | .error _ => false
        | .ok tree => decide (∀ t ∈ tree.readings, wholePowers r t = true ∧
            (amount r t).toOption = some ⟨166501 / 225000, ⟨1, 0, -1⟩⟩)) = true := by
    decide +kernel
  cases hrecords : Registry.ofRecords roadRecords with
  | error fault =>
    rw [hrecords] at hcheck
    cases hcheck
  | ok r =>
    simp only [hrecords, Bool.and_eq_true, decide_eq_true_eq] at hcheck
    obtain ⟨hsame, hcheck⟩ := hcheck
    cases hparse : Expr.parse (Token.scan r "(3 mi + 500 m) / 2 h -> mi") with
    | error token =>
      rw [hparse] at hcheck
      cases hcheck
    | ok tree =>
      simp only [hparse, decide_eq_true_eq] at hcheck
      refine ⟨r, tree, rfl, hparse, ?_⟩
      intro t ht
      obtain ⟨hwhole, hamount⟩ := hcheck t ht
      have h := evaluate_simulates_reference hrecords hsame hparse ht hwhole
      cases ha : amount r t with
      | error failure =>
        rw [ha] at hamount
        cases hamount
      | ok a =>
        rw [ha] at hamount h
        cases hamount
        exact h

end UnitCalc.Exact
