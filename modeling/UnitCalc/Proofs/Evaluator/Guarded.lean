import UnitCalc.Expr.Evaluator

/-!
# Which operations can break down

Of the operations on quantities only those that convert can end a calculation outright: a
power of a unit's factor can be too large, and a factor can become zero. `Guarded` says of a
calculation when this happens, and that otherwise it has a finite result or a reported fault.
-/

namespace UnitCalc

variable {K : Type}

/-- What keeps numbers finite, and lets remainders of finite numbers exist. -/
structure Scalar.FiniteLaws (K : Type) [Scalar K] : Prop where
  one : Scalar.isFinite (Scalar.one : K) = true
  e : Scalar.isFinite (Scalar.e : K) = true
  pi : Scalar.isFinite (Scalar.pi : K) = true
  neg : ∀ x : K, Scalar.isFinite x = true → Scalar.isFinite (Scalar.neg x) = true
  abs : ∀ x : K, Scalar.isFinite x = true → Scalar.isFinite (Scalar.abs x) = true
  log : ∀ x y : K, Scalar.isFinite x = true → Scalar.log? x = some y → Scalar.isFinite y = true
  ln : ∀ x y : K, Scalar.isFinite x = true → Scalar.ln? x = some y → Scalar.isFinite y = true
  gamma : ∀ x y : K, Scalar.isFinite x = true →
    Scalar.gamma? (Scalar.add x Scalar.one) = some y → Scalar.isFinite y = true
  remainder : ∀ x y : K, Scalar.isFinite x = true → Scalar.isFinite y = true →
    Scalar.isZero y = false → ∃ z, Scalar.remainder? x y = some z

/-- The faults of a conversion that cannot be made. -/
def Fault.OfConversion (f : Fault K) : Prop :=
  f = .breakdown .factorTooLarge ∨ f = .breakdown .factorZero

theorem Fault.OfConversion.isReported {f : Fault K} (h : f.OfConversion) :
    f.isReported = false := by
  rcases h with rfl | rfl <;> rfl

theorem Fault.OfConversion.rulesOutReading {f : Fault K} (h : f.OfConversion) :
    f.rulesOutReading = false := by
  rcases h with rfl | rfl <;> rfl

/-! ## Functions of a plain number -/

section PlainFunction

variable [Scalar K]

/-- The value of a function, where it is defined. -/
def PlainFunction.result? (f : PlainFunction) (x : K) : Option K :=
  match f with
  | .log => Scalar.log? x
  | .ln => Scalar.ln? x
  | .factorial => Scalar.gamma? (Scalar.add x Scalar.one)

theorem Scalar.FiniteLaws.result? (laws : Scalar.FiniteLaws K) (f : PlainFunction) {x y : K}
    (hx : Scalar.isFinite x = true) (h : f.result? x = some y) : Scalar.isFinite y = true := by
  cases f with
  | log => exact laws.log x y hx h
  | ln => exact laws.ln x y hx h
  | factorial => exact laws.gamma x y hx h

theorem Expr.applyPlain_eq (f : PlainFunction) (q : Quantity K) :
    Expr.applyPlain f q = q.plainValue (.argument f) >>= fun x =>
      (f.result? x).elim (.error (.domain (.undefined f x))) fun y => .ok (.ofValue y) := by
  unfold Expr.applyPlain
  congr
  funext x
  cases h : f.result? x with
  | none =>
    cases f <;> simp [PlainFunction.result?] at h <;> simp [h]
  | some y =>
    cases f <;> simp [PlainFunction.result?] at h <;> simp [h]

end PlainFunction

/-! ## Guarded calculations -/

/-- A calculation with a good result or a fault that only rules out a reading, unless it
breaks down over a conversion. -/
def Guarded {α : Type} (good : α → Prop) (breaks : Prop) : Except (Fault K) α → Prop
  | .ok x => good x ∧ ¬ breaks
  | .error f => f.rulesOutReading = true ∧ ¬ breaks ∨ f.OfConversion ∧ breaks

namespace Guarded

variable {α β : Type} {good : α → Prop} {good' : β → Prop} {breaks breaks' : Prop}
  {x : Except (Fault K) α} {f : α → Except (Fault K) β}

theorem congr (h : Guarded good breaks x) (hb : breaks ↔ breaks') : Guarded good breaks' x := by
  cases x with
  | ok a => exact ⟨h.1, fun hb' => h.2 (hb.mpr hb')⟩
  | error f =>
    rcases h with ⟨hf, hn⟩ | ⟨hf, hy⟩
    · exact .inl ⟨hf, fun hb' => hn (hb.mpr hb')⟩
    · exact .inr ⟨hf, hb.mp hy⟩

theorem of_ok {a : α} (h : good a) : Guarded good False (.ok a : Except (Fault K) α) :=
  ⟨h, id⟩

theorem of_error {f : Fault K} (h : f.rulesOutReading = true) :
    Guarded good False (.error f : Except (Fault K) α) :=
  .inl ⟨h, id⟩

/-- Two calculations in a row break down if the first does, or the second on its result. -/
theorem bind {p : α → Prop} (hx : Guarded good breaks x)
    (hf : ∀ a, x = .ok a → good a → Guarded good' (p a) (f a)) :
    Guarded good' (breaks ∨ ∃ a, x = .ok a ∧ p a) (x >>= f) := by
  cases x with
  | ok a =>
    obtain ⟨hgood, hn⟩ := hx
    refine (hf a rfl hgood).congr ⟨fun h => .inr ⟨a, rfl, h⟩, ?_⟩
    rintro (h | ⟨_, ⟨⟩, h⟩)
    · exact absurd h hn
    · exact h
  | error e =>
    rcases hx with ⟨he, hn⟩ | ⟨he, hy⟩
    · refine .inl ⟨he, ?_⟩
      rintro (h | ⟨_, ⟨⟩, _⟩)
      exact hn h
    · exact .inr ⟨he, .inl hy⟩

/-- Behind a calculation nothing breaks down any more. -/
theorem bind_safe (hx : Guarded good breaks x)
    (hf : ∀ a, good a → Guarded good' False (f a)) : Guarded good' breaks (x >>= f) := by
  refine (hx.bind (p := fun _ => False) fun a _ ha => hf a ha).congr ⟨?_, .inl⟩
  rintro (h | ⟨_, _, h⟩)
  · exact h
  · exact h.elim

theorem map (g : α → β) (hx : Guarded good breaks x) (hg : ∀ a, good a → good' (g a)) :
    Guarded good' breaks (x.map g) := by
  cases x with
  | ok a => exact ⟨hg a hx.1, hx.2⟩
  | error e => exact hx

/-- The faults that are not reported are those of conversions. -/
theorem ofConversion (h : Guarded good breaks x) {f : Fault K} (hx : x = .error f)
    (hf : f.isReported = false) : f.OfConversion ∧ breaks := by
  rw [hx] at h
  rcases h with ⟨hruled, _⟩ | h
  -- A fault that rules out a reading is a reported one.
  · rcases Fault.rulesOutReading_iff.mp hruled with ⟨cause, rfl⟩ | ⟨cause, rfl⟩ <;> cases hf
  · exact h

theorem unreported_iff (h : Guarded good breaks x) :
    (∃ f, x = .error f ∧ f.isReported = false) ↔ breaks := by
  constructor
  · rintro ⟨f, hx, hf⟩
    exact (h.ofConversion hx hf).2
  · intro hbreaks
    cases x with
    | ok a => exact absurd hbreaks h.2
    | error f =>
      rcases h with ⟨_, hn⟩ | ⟨hf, _⟩
      · exact absurd hbreaks hn
      · exact ⟨f, rfl, hf.isReported⟩

end Guarded

/-- A calculation that no reading drops out of: it has a good result, or breaks down over a
conversion. -/
def Unfailing {α : Type} (good : α → Prop) (breaks : Prop) : Except (Fault K) α → Prop
  | .ok x => good x ∧ ¬ breaks
  | .error f => f.OfConversion ∧ breaks

namespace Unfailing

variable {α β : Type} {good good₁ : α → Prop} {good' : β → Prop} {breaks breaks' : Prop}
  {x : Except (Fault K) α} {f : α → Except (Fault K) β}

theorem guarded (h : Unfailing good breaks x) : Guarded good breaks x := by
  cases x with
  | ok a => exact h
  | error f => exact .inr h

theorem congr (h : Unfailing good breaks x) (hb : breaks ↔ breaks') :
    Unfailing good breaks' x := by
  cases x with
  | ok a => exact ⟨h.1, fun hb' => h.2 (hb.mpr hb')⟩
  | error f => exact ⟨h.1, hb.mp h.2⟩

theorem imp (h : Unfailing good breaks x) (hg : ∀ a, good a → good₁ a) :
    Unfailing good₁ breaks x := by
  cases x with
  | ok a => exact ⟨hg a h.1, h.2⟩
  | error f => exact h

theorem bind (hx : Unfailing good breaks x)
    (hf : ∀ a, good a → Unfailing good' breaks' (f a)) :
    Unfailing good' (breaks ∨ breaks') (x >>= f) := by
  cases x with
  | ok a => exact (hf a hx.1).congr ⟨.inr, fun h => h.resolve_left hx.2⟩
  | error e => exact ⟨hx.1, .inl hx.2⟩

end Unfailing

/-! ## Operations on quantities -/

namespace Quantity

variable [Scalar K] {q r : Quantity K}

/-- Whether the value of a quantity is finite. -/
def IsFinite (q : Quantity K) : Prop := Scalar.isFinite q.value = true

/-- A quantity in other units than those of a context, where the factor of one or the other
is too large, or that of the context is zero. -/
def Unconvertible (q : Quantity K) (units : Context K) : Prop :=
  units.eq q.units = false ∧
    (q.units.conversionFactor? q.dim = none ∨
      ∀ f, units.conversionFactor? q.dim = some f → Scalar.isZero f = true)

theorem finite_guarded (x : K) (dim : Dimension K) (units : Context K) (operation : Operation) :
    Guarded IsFinite False (finite x dim units operation) := by
  unfold finite
  split
  · rename_i h
    exact .of_ok h
  · exact .of_error rfl

theorem divideBy_guarded (x y : K) :
    Guarded (fun _ => True) (Scalar.isZero y = true) (divideBy x y) := by
  unfold divideBy
  split
  · rename_i h
    exact .inr ⟨.inr rfl, h⟩
  · rename_i h
    exact ⟨trivial, h⟩

theorem toUnits_guarded (hq : q.IsFinite) (units : Context K) :
    Guarded IsFinite (q.Unconvertible units) (q.toUnits units) := by
  unfold toUnits
  cases heq : units.eq q.units with
  | true =>
    refine ⟨hq, ?_⟩
    rintro ⟨h, _⟩
    rw [heq] at h
    cases h
  | false =>
    simp only [Bool.false_eq_true, if_false, conversionFactor, factorOf]
    cases hsource : q.units.conversionFactor? q.dim with
    | none => exact .inr ⟨.inl rfl, heq, .inl hsource⟩
    | some source =>
      cases htarget : units.conversionFactor? q.dim with
      | none =>
        refine .inr ⟨.inl rfl, heq, .inr ?_⟩
        intro f hf
        rw [htarget] at hf
        cases hf
      | some target =>
        refine ((divideBy_guarded _ target).bind_safe
          fun _ _ => finite_guarded _ q.dim units .convert).congr ⟨?_, ?_⟩
        · intro hzero
          refine ⟨heq, .inr ?_⟩
          intro f hf
          rw [htarget] at hf
          cases hf
          exact hzero
        · rintro ⟨_, h | h⟩
          · rw [hsource] at h
            cases h
          · exact h target htarget

theorem productDim_guarded (d d' : Dimension K) :
    Guarded (fun _ => True) False (productDim d d') := by
  unfold productDim
  split
  · exact .of_ok trivial
  · exact .of_error rfl

theorem quotientDim_guarded (d d' : Dimension K) :
    Guarded (fun _ => True) False (quotientDim d d') := by
  unfold quotientDim
  split
  · exact .of_ok trivial
  · exact .of_error rfl

/-- What is checked for one dimension breaks down only if the dimensions agree. -/
theorem checkSameDim_guarded {operation : Comparison} {breaks : Prop}
    {f : PUnit → Except (Fault K) (Quantity K)} (hf : Guarded IsFinite breaks (f ⟨⟩)) :
    Guarded IsFinite (q.dim.eq r.dim = true ∧ breaks) (checkSameDim operation q r >>= f) := by
  unfold checkSameDim
  by_cases h : q.dim.eq r.dim = true
  · rw [if_pos h]
    exact hf.congr ⟨fun hb => ⟨h, hb⟩, fun hb => hb.2⟩
  · rw [if_neg h]
    exact .inl ⟨rfl, fun hb => h hb.1⟩

theorem add_guarded (hr : r.IsFinite) :
    Guarded IsFinite (q.dim.eq r.dim = true ∧ r.Unconvertible q.units) (q.add r) :=
  checkSameDim_guarded <|
    (toUnits_guarded hr q.units).bind_safe fun _ _ => finite_guarded _ _ _ _

theorem sub_guarded (hr : r.IsFinite) :
    Guarded IsFinite (q.dim.eq r.dim = true ∧ r.Unconvertible q.units) (q.sub r) :=
  checkSameDim_guarded <|
    (toUnits_guarded hr q.units).bind_safe fun _ _ => finite_guarded _ _ _ _

theorem mod_guarded (laws : Scalar.FiniteLaws K) (hq : q.IsFinite) (hr : r.IsFinite) :
    Guarded IsFinite (q.dim.eq r.dim = true ∧ r.Unconvertible q.units) (q.mod r) := by
  refine checkSameDim_guarded <| (toUnits_guarded hr q.units).bind_safe fun r' hr' => ?_
  cases hzero : Scalar.isZero r'.value with
  | true => exact .of_error rfl
  | false =>
    obtain ⟨z, hz⟩ := laws.remainder q.value r'.value hq hr' hzero
    rw [if_neg (by simp), hz]
    exact finite_guarded _ _ _ _

theorem mul_guarded (hr : r.IsFinite) :
    Guarded IsFinite (r.Unconvertible q.units) (q.mul r) :=
  (toUnits_guarded hr q.units).bind_safe fun _ _ =>
    (productDim_guarded _ _).bind_safe fun _ _ => finite_guarded _ _ _ _

theorem div_guarded (hr : r.IsFinite) :
    Guarded IsFinite (r.Unconvertible q.units) (q.div r) := by
  refine (toUnits_guarded hr q.units).bind_safe ?_
  intro r' _
  cases Scalar.isZero r'.value with
  | true => exact .of_error rfl
  | false => exact (quotientDim_guarded _ _).bind_safe fun _ _ => finite_guarded _ _ _ _

theorem scale_guarded (q : Quantity K) (x : K) : Guarded IsFinite False (q.scale x) :=
  finite_guarded _ _ _ _

theorem valuePower_guarded (x n : K) : Guarded (fun _ => True) False (valuePower x n) := by
  unfold valuePower
  split
  · exact .of_ok trivial
  · exact .of_error rfl
  · exact .of_error rfl
  · exact .of_error rfl

theorem powScalar_guarded (q : Quantity K) (n : K) : Guarded IsFinite False (q.powScalar n) := by
  unfold powScalar
  split
  · exact .of_error rfl
  · refine (valuePower_guarded q.value n).bind_safe ?_
    intro value _
    split
    · exact finite_guarded _ _ _ _
    · exact .of_error rfl

theorem pow_guarded (q n : Quantity K) : Guarded IsFinite False (q.pow n) := by
  unfold pow
  split
  · exact powScalar_guarded _ _
  · exact .of_error rfl

/-! ### Compound units -/

/-- Operands that cannot be brought to the context merged of theirs. -/
def Unmergeable (q r : Quantity K) : Prop :=
  q.Unconvertible (q.units.merge r.units q.dim r.dim) ∨
    (∃ q', q.toUnits (q.units.merge r.units q.dim r.dim) = .ok q') ∧
      r.Unconvertible (q.units.merge r.units q.dim r.dim)

/-- Operands of which the right one becomes zero in the merged context. -/
def ZeroDivisor (q r : Quantity K) : Prop :=
  (∃ q', q.toUnits (q.units.merge r.units q.dim r.dim) = .ok q') ∧
    ∃ r', r.toUnits (q.units.merge r.units q.dim r.dim) = .ok r' ∧
      Scalar.isZero r'.value = true

theorem compoundMul_guarded (hq : q.IsFinite) (hr : r.IsFinite) :
    Guarded IsFinite (q.Unmergeable r) (q.compoundMul r) := by
  have hright (q' : Quantity K) : Guarded IsFinite
      (r.Unconvertible (q.units.merge r.units q.dim r.dim))
      (do
        let r' ← r.toUnits (q.units.merge r.units q.dim r.dim)
        let dim ← productDim q'.dim r'.dim
        finite (Scalar.mul q'.value r'.value) dim (q.units.merge r.units q.dim r.dim)
          .multiply) :=
    (toUnits_guarded hr _).bind_safe fun _ _ =>
      (productDim_guarded _ _).bind_safe fun _ _ => finite_guarded _ _ _ _
  refine ((toUnits_guarded hq _).bind fun q' _ _ => hright q').congr ?_
  simp [Unmergeable]

theorem compoundDiv_guarded (hq : q.IsFinite) (hr : r.IsFinite) :
    Guarded IsFinite (q.Unmergeable r ∨ q.ZeroDivisor r) (q.compoundDiv r) := by
  have hquotient (q' r' : Quantity K) : Guarded IsFinite (Scalar.isZero r'.value = true)
      (do
        let value ← divideBy q'.value r'.value
        let dim ← quotientDim q'.dim r'.dim
        finite value dim (q.units.merge r.units q.dim r.dim) .divide) :=
    (divideBy_guarded _ _).bind_safe fun _ _ =>
      (quotientDim_guarded _ _).bind_safe fun _ _ => finite_guarded _ _ _ _
  have hright (q' : Quantity K) :=
    (toUnits_guarded hr (q.units.merge r.units q.dim r.dim)).bind
      fun r' _ _ => hquotient q' r'
  refine ((toUnits_guarded hq _).bind fun q' _ _ => hright q').congr ?_
  simp only [Unmergeable, ZeroDivisor]
  constructor
  · rintro (h | ⟨q', hq', h | h⟩)
    · exact .inl (.inl h)
    · exact .inl (.inr ⟨⟨q', hq'⟩, h⟩)
    · exact .inr ⟨⟨q', hq'⟩, h⟩
  · rintro ((h | ⟨⟨q', hq'⟩, h⟩) | ⟨⟨q', hq'⟩, h⟩)
    · exact .inl h
    · exact .inr ⟨q', hq', .inl h⟩
    · exact .inr ⟨q', hq', .inr h⟩

end Quantity

end UnitCalc
