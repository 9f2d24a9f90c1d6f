import UnitCalc.Proofs.Evaluator.Breakdown
import UnitCalc.Proofs.Evaluator.Sign
import UnitCalc.Proofs.Number.Sign
import UnitCalc.Proofs.Quantity.Outcome

/-!
# Units behind a power of two numerals

In `2^3 m` the units may belong to the exponent or to the whole power, and the parser holds both
readings. The first one raises a number to a quantity: it has a value only where the units
cancel. Otherwise the second one is left, a number of units with their dimension and context. The
sign of a literal applies to the result in both readings.
-/

namespace UnitCalc

/-- What makes plain numbers dimensionless, and powers of them. -/
structure Scalar.PlainLaws (K : Type) [Scalar K] : Prop where
  isZero_zero : Scalar.isZero (Scalar.zero : K) = true
  isZero_mul : ∀ x : K, Scalar.isFinite x = true →
    Scalar.isZero (Scalar.add (Scalar.mul Scalar.zero x) Scalar.zero) = true

namespace Expr

open Grammar Number.Numeral

/-! ## Two readings -/

section Choice

variable {K α : Type}

/-- The first of two calculations that has a result, or else the fault of the first one. -/
def firstOf (x y : Except (Fault K) α) : Except (Fault K) α :=
  match x, y with
  | .ok a, _ => .ok a
  | .error _, .ok b => .ok b
  | .error f, .error _ => .error f

theorem firstOf_congr {x y y' : Except (Fault K) α} (h : Alike SameKind Eq y y') :
    firstOf x y = firstOf x y' := by
  rcases h.cases with ⟨b, _, rfl, rfl, rfl⟩ | ⟨f, g, rfl, rfl, _⟩
  · rfl
  · cases x <;> rfl

theorem exists_of_bind_eq_ok {β : Type} {x : Except (Fault K) α} {f : α → Except (Fault K) β}
    {b : β} (h : x >>= f = .ok b) : ∃ a, x = .ok a ∧ f a = .ok b := by
  cases x with
  | ok a => exact ⟨a, rfl, h⟩
  | error _ => cases h

theorem Recoverable.of_alike {β : Type} {results : α → β → Prop} {x : Except (Fault K) α}
    {y : Except (Fault K) β} (hx : Recoverable x) (h : Alike SameKind results x y) :
    Recoverable y := by
  rintro g rfl
  rcases h.cases with ⟨_, _, _, ⟨⟩, _⟩ | ⟨f, _, rfl, ⟨⟩, hkind⟩
  rw [← hkind.rulesOutReading]
  exact hx f rfl

theorem Recoverable.of_guarded {good : α → Prop} {x : Except (Fault K) α}
    (h : Guarded good False x) : Recoverable x := by
  rintro f rfl
  rcases h with ⟨hf, _⟩ | ⟨_, hbreaks⟩
  · exact hf
  · exact hbreaks.elim

variable [Scalar K] {r : Registry K} {a b : Tree}

/-- Of two readings without choices the first one with a value counts. -/
theorem evaluate_choice_two (ha : a.choices = []) (hb : b.choices = [])
    (hfirst : Recoverable (plainEvaluate r a)) (hsecond : Recoverable (plainEvaluate r b)) :
    evaluate r (.choice [a, b]) = firstOf (plainEvaluate r a) (plainEvaluate r b) := by
  rw [evaluate, values, outcomes, outcomes, outcomes, values_eq_plainEvaluate ha,
    values_eq_plainEvaluate hb]
  cases hx : plainEvaluate r a with
  | ok p =>
    cases hy : plainEvaluate r b with
    | ok q => rfl
    | error g =>
      simp only [Survivors.ofOutcomes, Except.map, List.foldlM_cons, List.foldlM_nil,
        Survivors.count, hsecond g hy, if_true]
      rfl
  | error f =>
    cases hy : plainEvaluate r b with
    | ok q =>
      simp only [Survivors.ofOutcomes, Except.map, List.foldlM_cons, List.foldlM_nil,
        Survivors.count, hfirst f hx, if_true]
      rfl
    | error g =>
      simp only [Survivors.ofOutcomes, Except.map, List.foldlM_cons, List.foldlM_nil,
        Survivors.count, hfirst f hx, hsecond g hy, if_true]
      rfl

end Choice

/-! ## Literals -/

section Literals

variable {K : Type} [Scalar K] {text : String} {v : K}

/-- A numeral stands for a finite decimal with the sign that it is written with. -/
theorem numeralValue_cases (hnumeral : isNumeral text.toList = true)
    (h : numeralValue text = .ok v) : Scalar.isFinite v = true ∧ ∃ digits exponent,
      v = Scalar.withSign (hasMinus text.toList) (Scalar.ofDecimal digits exponent) := by
  unfold numeralValue at h
  split at h
  · cases h
  · rename_i negative digits exponent hread
    simp only at h
    split at h
    · rename_i hfinite
      cases h
      exact ⟨hfinite, digits, exponent, by rw [← sign_of_ofText? hnumeral hread]⟩
    · cases h
  · cases h

theorem numeralValue_guarded (hnumeral : isNumeral text.toList = true) :
    Guarded (fun v : K => Scalar.isFinite v = true) False (numeralValue text) := by
  cases h : (numeralValue text : Except (Fault K) K) with
  | ok v => exact .of_ok (numeralValue_cases hnumeral h).1
  | error f =>
    refine .of_error ?_
    obtain ⟨reading, hread⟩ := ofText?_of_isNumeral hnumeral
    simp only [numeralValue, hread] at h
    split at h
    · rename_i hnone
      cases hnone
    · split at h <;> cases h
      rfl
    · cases h
      rfl

end Literals

/-! ## Meanings -/

section Meanings

variable {K : Type} [Scalar K] (base exponent : String) (units : Quantity K)

/-- The magnitude of a numeral raised to a number of units, with the sign of the numeral. -/
def powerOfUnits : Except (Fault K) (Quantity K) := do
  let b ← numeralValue base
  let x ← numeralValue exponent
  let n ← units.scale x
  let q ← (Quantity.ofValue (Scalar.abs b)).pow n
  .ok (q.withSign (hasMinus base.toList))

/-- A power of the magnitude of a numeral as a number of units, with the sign of the numeral. -/
def scaledUnits : Except (Fault K) (Quantity K) := do
  let b ← numeralValue base
  let x ← numeralValue exponent
  let m ← (Quantity.ofValue (Scalar.abs b)).pow (.ofValue x)
  let q ← units.scale m.value
  .ok (q.withSign (hasMinus base.toList))

end Meanings

/-! ## Values of the readings -/

section Values

variable {K : Type} [Scalar K] {r : Registry K}

theorem plainEvaluate_one {p : Production} (hp : ∀ name, p ≠ .other name) (t : Tree) :
    plainEvaluate r (.node p [t]) = (do
      let q ← plainEvaluate r t
      p.reduce [q]) := by
  rw [plainEvaluate_node p hp, plainEvaluateAll, plainEvaluateAll]
  cases plainEvaluate r t <;> rfl

theorem plainEvaluate_two {p : Production} (hp : ∀ name, p ≠ .other name) (t u : Tree) :
    plainEvaluate r (.node p [t, u]) = (do
      let q ← plainEvaluate r t
      let n ← plainEvaluate r u
      p.reduce [q, n]) := by
  rw [plainEvaluate_node p hp, plainEvaluateAll, plainEvaluateAll, plainEvaluateAll]
  cases plainEvaluate r t with
  | error f => rfl
  | ok q => cases plainEvaluate r u <;> rfl

theorem plainEvaluate_literal {l : Literal} (hl : l.terminal ≠ .unit) :
    plainEvaluate r l.tree = (numeralValue l.text).map .ofValue := by
  have hleaf : plainEvaluate r (.leaf l.terminal l.text) = (numeralValue l.text).map .ofValue := by
    rw [plainEvaluate, leafValue, if_neg hl]
  unfold Literal.tree
  cases l.signed with
  | false =>
    rw [if_neg (by decide), plainEvaluate_one (by simp), hleaf]
    cases (numeralValue l.text : Except (Fault K) K) <;> rfl
  | true =>
    rw [if_pos rfl, plainEvaluate_one (by simp), hleaf]
    cases (numeralValue l.text : Except (Fault K) K) <;> rfl

/-- Raises the value of a literal to a power; the sign of a literal applies to the result. -/
def Literal.raise (l : Literal) (q n : Quantity K) : Except (Fault K) (Quantity K) :=
  if l.signed then applySigned (·.pow n) q else q.pow n

theorem plainEvaluate_power (l : Literal) (t : Tree) : plainEvaluate r (l.power t) = (do
    let q ← plainEvaluate r l.tree
    let n ← plainEvaluate r t
    l.raise q n) := by
  unfold Literal.power Literal.raise
  cases l.signed <;> exact plainEvaluate_two (by simp) _ _

theorem plainEvaluate_scaled (l n : Literal) : plainEvaluate r
    (.node (if l.signed then .signedScaled else .scaled) [l.tree, n.tree]) = (do
      let q ← plainEvaluate r l.tree
      let x ← plainEvaluate r n.tree
      l.raise q x) := by
  unfold Literal.raise
  cases l.signed <;> exact plainEvaluate_two (by simp) _ _

/-- Units behind a plain number are scaled by it. -/
theorem attach_eq_scale {q : Quantity K} (h : q.isDimensionless = true) (units : Quantity K) :
    attach q units = units.scale q.value := by
  unfold attach Quantity.plainValue
  rw [if_pos h]
  rfl

theorem isDimensionless_ofValue (plain : Scalar.PlainLaws K) (v : K) :
    (Quantity.ofValue v).isDimensionless = true :=
  Dimension.isZero_iff.mpr fun a => by cases a <;> exact plain.isZero_zero

/-- Units behind a magnitude, which has a sign of its own or none. -/
theorem plainEvaluate_attach (signed : Bool) (t u : Tree) : plainEvaluate r
    (.node (if signed then .signedQuantity else .quantity) [t, u]) = (do
      let q ← plainEvaluate r t
      let n ← plainEvaluate r u
      attach q n) := by
  cases signed <;> exact plainEvaluate_two (by simp) _ _

/-- A literal that is written as its terminal says. -/
structure Literal.IsWritten (l : Literal) : Prop where
  terminal_ne : l.terminal ≠ .unit
  isNumeral : isNumeral l.text.toList = true
  plain : l.signed = false → hasMinus l.text.toList = false

/-- In a power only the magnitude of a literal counts, and its sign applies to the result. -/
theorem Literal.IsWritten.raise_eq {l : Literal} (hl : l.IsWritten) (laws : Scalar.SignLaws K)
    {v : K} (hv : numeralValue l.text = .ok v) (n : Quantity K) :
    l.raise (.ofValue v) n = (do
      let q ← (Quantity.ofValue (Scalar.abs v)).pow n
      .ok (q.withSign (hasMinus l.text.toList))) := by
  obtain ⟨_, digits, exponent, hsign⟩ := numeralValue_cases hl.isNumeral hv
  have hdecimal : IsDecimal (hasMinus l.text.toList)
      (.ofValue (Scalar.ofDecimal digits exponent)) (.ofValue v) :=
    ⟨digits, exponent, rfl, by rw [hsign]; rfl⟩
  unfold Literal.raise
  cases hsigned : l.signed with
  | true =>
    have hnegative : Scalar.isNegative v = hasMinus l.text.toList := hdecimal.isNegative laws
    simp only [if_true, applySigned]
    show (Quantity.ofValue (Scalar.abs v)).pow n >>= _ = _
    refine congrArg _ (funext fun q => ?_)
    show Except.ok (if Scalar.isNegative v then q.neg else q) = _
    rw [hnegative]
    cases hasMinus l.text.toList <;> rfl
  | false =>
    rw [hl.plain hsigned] at hsign ⊢
    have habs : Scalar.abs v = v := by
      rw [hsign]
      exact laws.abs_ofDecimal digits exponent
    rw [habs]
    cases (Quantity.ofValue v).pow n <;> rfl

variable {b x : Literal} {ut : Tree} {units : Quantity K}

/-- The reading with the units in the exponent. -/
theorem plainEvaluate_powerOfUnits (plain : Scalar.PlainLaws K) (laws : Scalar.SignLaws K)
    (hb : b.IsWritten) (hx : x.IsWritten) (hu : plainEvaluate r ut = .ok units) :
    plainEvaluate r (b.power (x.quantity ut)) = powerOfUnits b.text x.text units := by
  rw [plainEvaluate_power, Literal.quantity, plainEvaluate_attach, hu,
    plainEvaluate_literal hb.terminal_ne, plainEvaluate_literal hx.terminal_ne]
  unfold powerOfUnits
  cases hv : (numeralValue b.text : Except (Fault K) K) with
  | error f => rfl
  | ok v =>
    cases (numeralValue x.text : Except (Fault K) K) with
    | error f => rfl
    | ok w =>
      show attach (.ofValue w) units >>= b.raise (.ofValue v) = units.scale w >>= _
      rw [attach_eq_scale (isDimensionless_ofValue plain w)]
      exact congrArg _ (funext fun n => hb.raise_eq laws hv n)

/-- A power of two plain numbers is one. -/
theorem isDimensionless_of_pow (plain : Scalar.PlainLaws K) {v w : K} {m : Quantity K}
    (hw : Scalar.isFinite w = true) (h : (Quantity.ofValue v).pow (.ofValue w) = .ok m) :
    m.isDimensionless = true := by
  have houtcome := (Quantity.ofValue v).pow_outcome (.ofValue w)
  rw [h] at houtcome
  obtain ⟨_, hdim⟩ := Dimension.ofExponents?_eq_some_iff.mp houtcome.dim
  refine Dimension.isZero_iff.mpr fun a => ?_
  rw [← hdim, PerAxis.get_map, PerAxis.get_map]
  cases a <;> exact plain.isZero_mul w hw

/-- The reading with units behind the power: the sign is put on the magnitude before the units are
attached, which comes to the same. -/
theorem plainEvaluate_scaledUnits (plain : Scalar.PlainLaws K) (laws : Scalar.SignLaws K)
    (hb : b.IsWritten) (hx : x.IsWritten) (hu : plainEvaluate r ut = .ok units) :
    Alike SameKind Eq (scaledUnits b.text x.text units)
      (plainEvaluate r (b.scaledQuantity x ut)) := by
  rw [Literal.scaledQuantity, plainEvaluate_attach, plainEvaluate_scaled, hu,
    plainEvaluate_literal hb.terminal_ne, plainEvaluate_literal hx.terminal_ne]
  unfold scaledUnits
  cases hv : (numeralValue b.text : Except (Fault K) K) with
  | error f => exact rfl
  | ok v =>
    cases hw : (numeralValue x.text : Except (Fault K) K) with
    | error f => exact rfl
    | ok w =>
      show Alike SameKind Eq ((Quantity.ofValue (Scalar.abs v)).pow (.ofValue w) >>= fun m =>
          units.scale m.value >>= fun q => .ok (q.withSign (hasMinus b.text.toList)))
        (b.raise (.ofValue v) (.ofValue w) >>= fun m => attach m units)
      rw [hb.raise_eq laws hv]
      cases hm : (Quantity.ofValue (Scalar.abs v)).pow (.ofValue w) with
      | error f => exact rfl
      | ok m =>
        have hplain : m.isDimensionless = true :=
          isDimensionless_of_pow plain (numeralValue_cases hx.isNumeral hw).1 hm
        have hsigned : (m.withSign (hasMinus b.text.toList)).isDimensionless = true := hplain
        have hattach : attach (m.withSign (hasMinus b.text.toList)) units =
            units.scale (Scalar.withSign (hasMinus b.text.toList) m.value) :=
          attach_eq_scale hsigned units
        show Alike SameKind Eq
          (units.scale m.value >>= fun q => .ok (q.withSign (hasMinus b.text.toList)))
          (attach (m.withSign (hasMinus b.text.toList)) units)
        rw [hattach]
        rcases (Quantity.scale_isSigned laws (hasMinus b.text.toList) units m.value).cases with
          ⟨q, _, hq, hq', rfl⟩ | ⟨f, g, hf, hg, hkind⟩
        · rw [hq, hq']
          exact rfl
        · rw [hf, hg]
          exact hkind

theorem powerOfUnits_guarded {base exponent : String} (hbase : isNumeral base.toList = true)
    (hexponent : isNumeral exponent.toList = true) (units : Quantity K) :
    Guarded (fun _ => True) False (powerOfUnits base exponent units) :=
  (numeralValue_guarded hbase).bind_safe fun _ _ =>
    (numeralValue_guarded hexponent).bind_safe fun _ _ =>
      (Quantity.scale_guarded _ _).bind_safe fun _ _ =>
        (Quantity.pow_guarded _ _).bind_safe fun _ _ => .of_ok trivial

theorem scaledUnits_guarded {base exponent : String} (hbase : isNumeral base.toList = true)
    (hexponent : isNumeral exponent.toList = true) (units : Quantity K) :
    Guarded (fun _ => True) False (scaledUnits base exponent units) :=
  (numeralValue_guarded hbase).bind_safe fun _ _ =>
    (numeralValue_guarded hexponent).bind_safe fun _ _ =>
      (Quantity.pow_guarded _ _).bind_safe fun _ _ =>
        (Quantity.scale_guarded _ _).bind_safe fun _ _ => .of_ok trivial

/-- Of both readings the first one with a value counts. -/
theorem evaluate_literals_units (plain : Scalar.PlainLaws K) (laws : Scalar.SignLaws K)
    (hb : b.IsWritten) (hx : x.IsWritten) (hchoices : ut.choices = [])
    (hu : evaluate r ut = .ok units) :
    evaluate r (.choice [b.power (x.quantity ut), b.scaledQuantity x ut]) =
      firstOf (powerOfUnits b.text x.text units) (scaledUnits b.text x.text units) := by
  have hut : plainEvaluate r ut = .ok units := (evaluate_eq_plainEvaluate hchoices).symm.trans hu
  have hfirst := plainEvaluate_powerOfUnits plain laws hb hx hut
  have hsecond := plainEvaluate_scaledUnits plain laws hb hx hut
  have hpower := powerOfUnits_guarded hb.isNumeral hx.isNumeral units
  have hscaled := scaledUnits_guarded hb.isNumeral hx.isNumeral units
  rw [evaluate_choice_two (by simp [Literal.power, Literal.quantity, hchoices])
    (by simp [Literal.scaledQuantity, hchoices]) (hfirst ▸ .of_guarded hpower)
    ((Recoverable.of_guarded hscaled).of_alike hsecond), hfirst, firstOf_congr hsecond]

/-- A number cannot be raised to units that do not cancel. -/
theorem powerOfUnits_of_dimension (base exponent : String) (h : units.isDimensionless = false) :
    ∃ f, powerOfUnits base exponent units = .error f := by
  cases hpower : powerOfUnits base exponent units with
  | error f => exact ⟨f, rfl⟩
  | ok q =>
    obtain ⟨v, _, hpower⟩ := exists_of_bind_eq_ok hpower
    obtain ⟨w, _, hpower⟩ := exists_of_bind_eq_ok hpower
    obtain ⟨n, hn, hpower⟩ := exists_of_bind_eq_ok hpower
    obtain ⟨m, hm, _⟩ := exists_of_bind_eq_ok hpower
    obtain ⟨_, rfl⟩ := Quantity.finite_eq_ok_iff.mp hn
    let scaled : Quantity K := ⟨Scalar.mul units.value w, units.dim, units.units⟩
    have hdim : scaled.isDimensionless = false := h
    rw [Quantity.pow, hdim] at hm
    cases hm

/-- A number of units has their dimension and context. -/
theorem scaledUnits_shape {base exponent : String} {q : Quantity K}
    (h : scaledUnits base exponent units = .ok q) : q.dim = units.dim ∧ q.units = units.units := by
  obtain ⟨v, _, h⟩ := exists_of_bind_eq_ok h
  obtain ⟨w, _, h⟩ := exists_of_bind_eq_ok h
  obtain ⟨m, _, h⟩ := exists_of_bind_eq_ok h
  obtain ⟨n, hn, h⟩ := exists_of_bind_eq_ok h
  obtain ⟨_, rfl⟩ := Quantity.finite_eq_ok_iff.mp hn
  cases h
  exact ⟨rfl, rfl⟩

end Values

/-! ## The whole expression -/

section Expressions

variable {K : Type} [Scalar K] {r : Registry K}

/-- Units behind a numeral are parsed in one way. -/
theorem parse_literal_units {x : Token} {us : List Token} {n : Literal} {u : Tree}
    (hx : Literal.ofToken? x = some n) (hu : Derives .units us u) :
    parse (x :: us) = .ok (n.quantity u) := by
  obtain ⟨run, hrun, htree⟩ := run_literal_units (recognized_of_derives hu) [] Level.empty n
  refine parse_eq_ok_iff.mpr ⟨.expression [] Level.empty (.quantity n run), ?_, ?_⟩
  · rw [State.start, State.run_cons (step_literal hx _ _)]
    exact hrun
  · simp only [State.finish?, htree]
    rfl

/-- Units behind a power of two numerals are parsed as a choice of both readings. -/
theorem parse_literals_units {b k x : Token} {us : List Token} {l n : Literal} {u : Tree}
    (hb : Literal.ofToken? b = some l) (hk : k.terminal = .caret) (hx : Literal.ofToken? x = some n)
    (hu : Derives .units us u) : parse (b :: k :: x :: us) =
      .ok (.choice [l.power (n.quantity u), l.scaledQuantity n u]) := by
  obtain ⟨run, hrun, htree⟩ := run_literal_units (recognized_of_derives hu) []
    (Level.empty.openPrefix (.literalPower l)) n
  have hstart : State.start.run (b :: k :: x :: us) = .ok (.expression []
      (Level.empty.openPrefix (.literalPower l)) (.quantity n run)) := by
    rw [State.start, State.run_cons (step_literal hb _ _),
      State.run_cons (step_literal_caret hk _ _ _), State.run_cons (step_literal hx _ _)]
    exact hrun
  refine parse_eq_ok_iff.mpr ⟨_, hstart, ?_⟩
  simp only [State.finish?, htree]
  rfl

theorem exists_literal {lexeme : Lexeme} (h : isNumeral lexeme.text.toList = true) :
    ∃ l : Literal, Literal.ofToken? (Token.ofLexeme r lexeme) = some l ∧ l.text = lexeme.text ∧
      l.IsWritten := by
  have hterminal := terminal_of_isNumeral r h
  unfold Terminal.ofNumeral at hterminal
  split at hterminal
  · exact ⟨_, ofToken?_of_signed (.inl hterminal), rfl, by simp [hterminal], h, nofun⟩
  · exact ⟨_, ofToken?_of_signed (.inr hterminal), rfl, by simp [hterminal], h, nofun⟩
  · rename_i hminus
    refine ⟨_, ofToken?_of_number hterminal, rfl, by simp, h, fun _ => ?_⟩
    show hasMinus lexeme.text.toList = false
    cases hcs : lexeme.text.toList with
    | nil => rfl
    | cons c cs =>
      have hc : c ≠ '-' := fun hc => hminus cs (hc ▸ hcs)
      simp [hasMinus, hc]

end Expressions

end Expr

/-! ## Doubles -/

namespace Number

open Float.Model

/-- Zero times a finite number is a zero. -/
theorem unpack_zero_mul {x : Float} (h : x.isFinite = true) :
    ∃ s, (Float.ofInt 0 * x).toModel.unpack = .zero s := by
  have hfits := fits_of_isFinite h
  show ∃ s, UnpackedFloat.unpack double (UnpackedFloat.pack double
    (UnpackedFloat.mul double (Float.ofInt 0).toModel.unpack x.toModel.unpack)) = .zero s
  rw [unpack_zero]
  cases hx : x.toModel.unpack with
  | infinity | notANumber =>
    rw [hx] at hfits
    exact hfits.elim
  | zero s => cases s <;> exact ⟨_, rfl⟩
  | finite s m e hm =>
    have hmul : UnpackedFloat.mul double (.zero .positive) (.finite s m e hm) =
        .zero (.positive * s) := rfl
    rw [hmul]
    cases s <;> exact ⟨_, rfl⟩

theorem Platform.plainLaws (p : Platform) :
    letI := p.doubles
    Scalar.PlainLaws Float :=
  let _ := p.doubles
  { isZero_zero := by
      show (Float.ofInt 0 == Float.ofInt 0) = true
      rfl
    isZero_mul := by
      intro x hx
      obtain ⟨s, hs⟩ := unpack_zero_mul hx
      show UnpackedFloat.beq (UnpackedFloat.unpack double (UnpackedFloat.pack double
        (UnpackedFloat.add double (Float.ofInt 0 * x).toModel.unpack
          (Float.ofInt 0).toModel.unpack))) (Float.ofInt 0).toModel.unpack = true
      rw [hs, unpack_zero]
      cases s <;> rfl }

end Number

namespace Expr

open Grammar Number Number.Numeral

/-- For every registry and every text of two numerals with a caret between them and units behind:
the value is that of the power with the units in its exponent, or else that of the power as a number
of the units, or else there is the first fault of the former. Where the units do not cancel, the
former always has one, and the latter has their dimension and context. -/
theorem calculate_scaledPower (p : Platform) :
    letI := p.doubles
    ∀ (r : Registry Float) (text : String) (b caret x : Lexeme) (us : List Lexeme) (ut : Tree)
      (units : Quantity Float), Lexeme.scan r text = b :: caret :: x :: us →
      isNumeral b.text.toList = true → caret.text = "^" → isNumeral x.text.toList = true →
      Derives .units (us.map (Token.ofLexeme r)) ut → evaluate r ut = .ok units →
      calculate r text =
          firstOf (powerOfUnits b.text x.text units) (scaledUnits b.text x.text units) ∧
        (units.isDimensionless = false →
          (∃ f, powerOfUnits b.text x.text units = .error f) ∧
          ∀ q, (calculate r text = .ok q ↔ scaledUnits b.text x.text units = .ok q) ∧
            (calculate r text = .ok q → q.dim = units.dim ∧ q.units = units.units)) := by
  let _ := p.doubles
  intro r text b caret x us ut units hscan hb hcaret hx hderives hunits
  obtain ⟨l, hl, hltext, hlwritten⟩ := exists_literal (r := r) hb
  obtain ⟨n, hn, hntext, hnwritten⟩ := exists_literal (r := r) hx
  have hk : (Token.ofLexeme r caret).terminal = .caret := by
    show (Terminal.ofText? r caret.text).getD .unknown = _
    rw [hcaret]
    rfl
  have hparse : UnitCalc.parse r text =
      .ok (.choice [l.power (n.quantity ut), l.scaledQuantity n ut]) := by
    rw [parse_text_eq_ok_iff, Token.scan, hscan]
    exact parse_literals_units hl hk hn hderives
  have hvalue : calculate r text =
      firstOf (powerOfUnits b.text x.text units) (scaledUnits b.text x.text units) := by
    rw [calculate, hparse, ← hltext, ← hntext]
    exact evaluate_literals_units p.plainLaws p.signLaws hlwritten hnwritten
      (Tree.choices_of_derives hderives) hunits
  refine ⟨hvalue, fun hdim => ?_⟩
  obtain ⟨f, hf⟩ := powerOfUnits_of_dimension b.text x.text hdim
  refine ⟨⟨f, hf⟩, fun q => ?_⟩
  have hiff : calculate r text = .ok q ↔ scaledUnits b.text x.text units = .ok q := by
    rw [hvalue, hf]
    cases scaledUnits b.text x.text units <;> simp [firstOf]
  exact ⟨hiff, fun hq => scaledUnits_shape (hiff.mp hq)⟩

/-- The value of `-2^1 m` is `-2 m`. -/
theorem calculate_minusTwoMeters :
    letI := Platform.native.doubles
    ∃ q, calculate meterRegistry "-2^1 m" = .ok q ∧ (q.value == -2) = true ∧
      q.dim = (Unit.quantity (K := Float) .meter).dim ∧
      q.units = (Unit.quantity (K := Float) .meter).units := by
  let _ := Platform.native.doubles
  have hscan : Lexeme.scan meterRegistry "-2^1 m" =
      [⟨"-2", 0⟩, ⟨"^", 2⟩, ⟨"1", 3⟩, ⟨"m", 5⟩] := by
    decide +kernel
  have hderives : Derives .units ([⟨"m", 5⟩].map (Token.ofLexeme meterRegistry))
      (.node .unit [.leaf .unit "m"]) := by
    have hunit : (Token.ofLexeme meterRegistry ⟨"m", 5⟩).terminal = .unit := by
      decide +kernel
    have hname := Derives.lone (c := .unitName) (p := .unit) (by decide) hunit
    have hfactor := Derives.promoted (c := .unitFactor) (by decide) hname
    exact .promoted (by decide) hfactor
  let units : Quantity Float := Unit.quantity .meter
  have hunits : evaluate meterRegistry (.node .unit [.leaf .unit "m"]) = .ok units := by
    rw [evaluate_eq_plainEvaluate (by rfl), plainEvaluate_one (by simp), plainEvaluate]
    rfl
  obtain ⟨_, hshape⟩ := calculate_scaledPower Platform.native meterRegistry "-2^1 m" ⟨"-2", 0⟩
    ⟨"^", 2⟩ ⟨"1", 3⟩ [⟨"m", 5⟩] (.node .unit [.leaf .unit "m"]) units hscan (by decide +kernel)
    rfl (by decide +kernel) hderives hunits
  have hscaled : returns (scaledUnits "-2" "1" units) (·.value == -2) = true := by
    decide +kernel
  obtain ⟨q, hq, hvalue⟩ := exists_of_returns hscaled
  obtain ⟨_, hresult⟩ := hshape (by decide +kernel)
  have hcalculate := (hresult q).1.mpr hq
  exact ⟨q, hcalculate, hvalue, (hresult q).2 hcalculate⟩

end Expr

end UnitCalc
