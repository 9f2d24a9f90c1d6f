import UnitCalc.Proofs.Evaluator.Guarded
import UnitCalc.Proofs.Evaluator.Single
import UnitCalc.Proofs.Registry.Origin
import UnitCalc.Standard

/-!
# When a calculation breaks down

The evaluator reduces every combination of values of every node. It breaks down exactly where
one of these reductions needs a conversion that cannot be made, and nothing that would stop
the evaluation earlier stands in front of it. `BreaksDown` says so by recursion on the tree.
-/

namespace UnitCalc

namespace Expr

variable {K : Type} [Scalar K]

/-! ## Reductions -/

/-- The reductions that need a conversion that cannot be made. -/
def Production.Breaks : Production → List (Quantity K) → Prop
  | .convert, [q, units] => q.Unconvertible units.units
  | .add, [q, r] => q.dim.eq r.dim = true ∧ r.Unconvertible q.units
  | .sub, [q, r] => q.dim.eq r.dim = true ∧ r.Unconvertible q.units
  | .mod, [q, r] => q.dim.eq r.dim = true ∧ r.Unconvertible q.units
  | .mul, [q, r] => r.Unconvertible q.units
  | .div, [q, r] => r.Unconvertible q.units
  | .unitMul, [q, r] => q.Unmergeable r
  | .unitDiv, [q, r] => q.Unmergeable r ∨ q.ZeroDivisor r
  | _, _ => False

section Reductions

variable {q : Quantity K}

theorem plainValue_guarded (place : PlainPlace) (hq : q.IsFinite) :
    Guarded (fun x => Scalar.isFinite x = true) False (q.plainValue place) := by
  unfold Quantity.plainValue
  split
  · exact .of_ok hq
  · exact .of_error rfl

theorem applyPlain_guarded (laws : Scalar.FiniteLaws K) (f : PlainFunction) (hq : q.IsFinite) :
    Guarded Quantity.IsFinite False (applyPlain f q) := by
  rw [applyPlain_eq]
  refine (plainValue_guarded (.argument f) hq).bind_safe ?_
  intro x hx
  cases h : f.result? x with
  | none => exact .of_error rfl
  | some y => exact .of_ok (laws.result? f hx h)

theorem applySigned_guarded (laws : Scalar.FiniteLaws K)
    (operation : Quantity K → Except (Fault K) (Quantity K))
    (h : Guarded Quantity.IsFinite False (operation q.abs)) :
    Guarded Quantity.IsFinite False (applySigned operation q) := by
  refine h.bind_safe ?_
  intro r hr
  split
  · exact .of_ok (laws.neg r.value hr)
  · exact .of_ok hr

theorem attach_guarded {magnitude : Quantity K} (hq : magnitude.IsFinite)
    (units : Quantity K) : Guarded Quantity.IsFinite False (attach magnitude units) :=
  (plainValue_guarded .unitMagnitude hq).bind_safe fun _ _ => Quantity.scale_guarded _ _

/-- A production with its number of operands breaks down over a conversion or not at all. -/
theorem reduce_guarded (laws : Scalar.FiniteLaws K) {p : Production} {qs : List (Quantity K)}
    (harity : p.arity? = some qs.length) (hqs : ∀ q ∈ qs, q.IsFinite) :
    Guarded Quantity.IsFinite (p.Breaks qs) (p.reduce qs) := by
  -- The number of operands leaves in each case the productions that take so many.
  match qs with
  | [] =>
    cases p <;> simp only [Production.arity?, List.length_nil, reduceCtorEq, Option.some.injEq,
      OfNat.ofNat_ne_zero, one_ne_zero] at harity
    · exact .of_ok laws.e
    · exact .of_ok laws.pi
  | [q] =>
    have hq : q.IsFinite := hqs q List.mem_cons_self
    cases p <;> simp [Production.arity?] at harity
    case neg => exact .of_ok (laws.neg q.value hq)
    case factorial => exact applyPlain_guarded laws .factorial hq
    case signedFactorial =>
      exact applySigned_guarded laws _ (applyPlain_guarded laws .factorial (laws.abs q.value hq))
    case sqrt => exact Quantity.powScalar_guarded q _
    case log => exact applyPlain_guarded laws .log hq
    case ln => exact applyPlain_guarded laws .ln hq
    case number | signedNumber | unit => exact .of_ok hq
  | [q, r] =>
    have hq : q.IsFinite := hqs q List.mem_cons_self
    have hr : r.IsFinite := hqs r (List.mem_cons_of_mem _ List.mem_cons_self)
    cases p <;> simp [Production.arity?] at harity
    case convert => exact Quantity.toUnits_guarded hq _
    case add => exact Quantity.add_guarded hr
    case sub => exact Quantity.sub_guarded hr
    case mul => exact Quantity.mul_guarded hr
    case div => exact Quantity.div_guarded hr
    case mod => exact Quantity.mod_guarded laws hq hr
    case pow | scaled | unitPow => exact Quantity.pow_guarded q r
    case signedPow | signedScaled =>
      exact applySigned_guarded laws (·.pow r) (Quantity.pow_guarded q.abs r)
    case quantity | signedQuantity => exact attach_guarded hq r
    case unitMul => exact Quantity.compoundMul_guarded hq hr
    case unitDiv => exact Quantity.compoundDiv_guarded hq hr
  | _ :: _ :: _ :: _ => cases p <;> simp [Production.arity?] at harity

end Reductions

/-! ## Surviving readings -/

/-- The values of readings of which at least one is left. -/
def Survive (qs : List (Quantity K)) : Prop := qs ≠ [] ∧ ∀ q ∈ qs, q.IsFinite

namespace Survivors

/-- What is kept of readings: finite values, and a fault that rules out a reading. -/
def Sound (s : Survivors K) : Prop :=
  (∀ q ∈ s.values, q.IsFinite) ∧ ∀ f, s.ruledOut = some f → f.rulesOutReading = true

/-- Whether a reading has been counted in. -/
def Decided (s : Survivors K) : Prop := s.values ≠ [] ∨ ∃ f, s.ruledOut = some f

theorem sound_none : (none : Survivors K).Sound := by
  constructor
  · intro q hq
    exact absurd hq List.not_mem_nil
  · intro f hf
    cases hf

/-- A fault that rules out a reading is kept, and any other is passed on. -/
theorem count_unfailing {s : Survivors K} {breaks : Prop}
    {x : Except (Fault K) (List (Quantity K))} (hs : s.Sound)
    (hx : Guarded Survive breaks x) :
    Unfailing (fun s' : Survivors K => s'.Sound ∧ s'.Decided) breaks (s.count x) := by
  cases x with
  | ok qs =>
    obtain ⟨⟨hne, hfinite⟩, hn⟩ := hx
    refine ⟨⟨⟨?_, hs.2⟩, .inl ?_⟩, hn⟩
    · intro q hq
      rcases List.mem_append.mp hq with hq | hq
      · exact hs.1 q hq
      · exact hfinite q hq
    · intro h
      exact hne (List.append_eq_nil_iff.mp h).2
  | error f =>
    rcases hx with ⟨hf, hn⟩ | ⟨hf, hy⟩
    -- Of several faults that rule out a reading the first is kept.
    · simp only [count, hf, if_true]
      cases hout : s.ruledOut with
      | none =>
        refine ⟨⟨⟨hs.1, ?_⟩, .inr ⟨f, rfl⟩⟩, hn⟩
        intro f' hf'
        cases hf'
        exact hf
      | some g =>
        refine ⟨⟨⟨hs.1, ?_⟩, .inr ⟨g, rfl⟩⟩, hn⟩
        intro f' hf'
        cases hf'
        exact hs.2 g hout
    · simp only [count, hf.rulesOutReading, Bool.false_eq_true, if_false]
      exact ⟨hf, hy⟩

/-- Counting in readings breaks down if one of them does. -/
theorem foldlM_count_unfailing {α : Type} {f : α → Except (Fault K) (List (Quantity K))}
    {breaks : α → Prop} {items : List α}
    (h : ∀ a ∈ items, Guarded Survive (breaks a) (f a)) {s : Survivors K} (hs : s.Sound) :
    Unfailing (fun s' : Survivors K => s'.Sound ∧ (s.Decided ∨ items ≠ [] → s'.Decided))
      (∃ a ∈ items, breaks a) ((items.map f).foldlM count s) := by
  induction items generalizing s with
  | nil => exact ⟨⟨hs, fun h => h.resolve_right fun h => h rfl⟩, by simp⟩
  | cons a items ih =>
    have hfirst := count_unfailing hs (h a List.mem_cons_self)
    rw [List.map_cons, List.foldlM_cons]
    refine (hfirst.bind fun s₁ hs₁ => ?_).congr (List.exists_mem_cons_iff ..).symm
    refine (ih (fun b hb => h b (List.mem_cons_of_mem a hb)) hs₁.1).imp fun s' hs' => ?_
    exact ⟨hs'.1, fun _ => hs'.2 (.inl hs₁.2)⟩

theorem result_guarded {s : Survivors K} (hs : s.Sound) (hd : s.Decided) :
    Guarded Survive False s.result := by
  obtain ⟨values, ruledOut⟩ := s
  cases values with
  | cons q values => exact .of_ok ⟨List.cons_ne_nil _ _, hs.1⟩
  | nil =>
    cases ruledOut with
    | some f => exact .of_error (hs.2 f rfl)
    | none =>
      rcases hd with h | ⟨f, h⟩
      · exact absurd rfl h
      · cases h

theorem ofOutcomes_guarded {α : Type} {f : α → Except (Fault K) (List (Quantity K))}
    {breaks : α → Prop} {items : List α} (hne : items ≠ [])
    (h : ∀ a ∈ items, Guarded Survive (breaks a) (f a)) :
    Guarded Survive (∃ a ∈ items, breaks a) (ofOutcomes (items.map f)) :=
  (foldlM_count_unfailing h sound_none).guarded.bind_safe fun _ hs =>
    result_guarded hs.1 (hs.2 (.inr hne))

end Survivors

/-! ## Trees -/

mutual

/-- An evaluation of a tree that breaks down: an operand does, or the reduction of some values
of the operands, or one of the readings of a choice. -/
def BreaksDown (r : Registry K) : Tree → Prop
  | .leaf _ _ => False
  | .node p children => OperandBreaks r children ∨
      ∃ lists qs, operandValues r children = .ok lists ∧ qs ∈ combinations lists ∧ p.Breaks qs
  | .choice trees => ReadingBreaks r trees

/-- An operand breaks down, and all operands before it have values. -/
def OperandBreaks (r : Registry K) : List Tree → Prop
  | [] => False
  | tree :: trees =>
    BreaksDown r tree ∨ (∃ qs, values r tree = .ok qs) ∧ OperandBreaks r trees

/-- One of some readings breaks down. -/
def ReadingBreaks (r : Registry K) : List Tree → Prop
  | [] => False
  | tree :: trees => BreaksDown r tree ∨ ReadingBreaks r trees

end

theorem readingBreaks_iff {r : Registry K} {trees : List Tree} :
    ReadingBreaks r trees ↔ ∃ t ∈ trees, BreaksDown r t := by
  induction trees with
  | nil => simp [ReadingBreaks]
  | cons t trees ih => simp [ReadingBreaks, ih]

section Trees

variable {r : Registry K}

theorem operandValues_guarded {trees : List Tree}
    (h : ∀ t ∈ trees, Guarded Survive (BreaksDown r t) (values r t)) :
    Guarded (fun lists : List (List (Quantity K)) =>
        lists.length = trees.length ∧ ∀ qs ∈ lists, Survive qs)
      (OperandBreaks r trees) (operandValues r trees) := by
  induction trees with
  | nil => exact .of_ok ⟨rfl, fun _ h => absurd h List.not_mem_nil⟩
  | cons t trees ih =>
    have hrest := ih fun u hu => h u (List.mem_cons_of_mem t hu)
    have hcons (qs : List (Quantity K)) (hqs : Survive qs) :
        Guarded (fun lists : List (List (Quantity K)) =>
            lists.length = (t :: trees).length ∧ ∀ qs ∈ lists, Survive qs)
          (OperandBreaks r trees) (operandValues r trees >>= fun rest => .ok (qs :: rest)) := by
      refine hrest.bind_safe fun lists hlists => .of_ok ⟨by simp [hlists.1], ?_⟩
      exact List.forall_mem_cons.mpr ⟨hqs, hlists.2⟩
    refine ((h t List.mem_cons_self).bind fun qs _ hqs => hcons qs hqs).congr ?_
    simp [OperandBreaks]

theorem mem_of_mem_combinations {α : Type} {lists : List (List α)} {xs : List α}
    (h : xs ∈ combinations lists) : ∀ x ∈ xs, ∃ ys ∈ lists, x ∈ ys := by
  induction lists generalizing xs with
  | nil => simp_all [combinations]
  | cons ys lists ih =>
    simp only [combinations, List.mem_flatMap, List.mem_map] at h
    obtain ⟨y, hy, rest, hrest, rfl⟩ := h
    intro x hx
    rcases List.mem_cons.mp hx with rfl | hx
    · exact ⟨ys, List.mem_cons_self, hy⟩
    · obtain ⟨zs, hzs, hx⟩ := ih hrest x hx
      exact ⟨zs, List.mem_cons_of_mem ys hzs, hx⟩

theorem reduceAll_guarded (laws : Scalar.FiniteLaws K) {p : Production}
    {lists : List (List (Quantity K))} (harity : p.arity? = some lists.length)
    (hlists : ∀ qs ∈ lists, Survive qs) :
    Guarded Survive (∃ qs ∈ combinations lists, p.Breaks qs) (p.reduceAll lists) := by
  refine Survivors.ofOutcomes_guarded ?_ ?_
  -- Every operand has a value, so there are combinations to reduce.
  · intro h
    exact (hlists [] (combinations_eq_nil_iff.mp h)).1 rfl
  · intro qs hqs
    have hfinite : ∀ q ∈ qs, q.IsFinite := by
      intro q hq
      obtain ⟨list, hlist, hq⟩ := mem_of_mem_combinations hqs q hq
      exact (hlists list hlist).2 q hq
    rw [← length_of_mem_combinations hqs] at harity
    refine (reduce_guarded laws harity hfinite).map _ ?_
    intro q hq
    exact ⟨List.cons_ne_nil _ _, fun q' hq' => List.mem_singleton.mp hq' ▸ hq⟩

theorem isFinite_of_numeralValue {text : String} {x : K} (h : numeralValue text = .ok x) :
    Scalar.isFinite x = true := by
  unfold numeralValue at h
  split at h
  · cases h
  · simp only at h
    split at h
    · rename_i hfinite
      cases h
      exact hfinite
    · cases h
  · cases h

theorem leafValue_guarded (laws : Scalar.FiniteLaws K)
    (hr : ∀ spelling u, r.find? spelling = some u → Scalar.isFinite u.factor = true)
    {terminal : Terminal} {text : String} (h : Readable r terminal text) :
    Guarded Quantity.IsFinite False (leafValue r terminal text) := by
  cases hvalue : leafValue r terminal text with
  | error f => exact .of_error (h f hvalue)
  | ok q =>
    refine .of_ok ?_
    unfold leafValue at hvalue
    split at hvalue
    · cases hu : r.find? text with
      | none => simp [Registry.quantity?, hu] at hvalue
      | some u =>
        simp only [Registry.quantity?, hu, Option.map_some, Except.ok.injEq] at hvalue
        subst hvalue
        unfold Unit.quantity
        split
        · exact laws.one
        · exact hr text u hu
    · cases hx : (numeralValue text : Except (Fault K) K) with
      | error f =>
        rw [hx] at hvalue
        cases hvalue
      | ok x =>
        rw [hx] at hvalue
        cases hvalue
        exact isFinite_of_numeralValue hx

mutual

/-- The evaluation of a well-formed tree breaks down over a conversion or not at all. -/
theorem values_guarded (laws : Scalar.FiniteLaws K)
    (hr : ∀ spelling u, r.find? spelling = some u → Scalar.isFinite u.factor = true) :
    ∀ t : Tree, WellFormed r t → Guarded Survive (BreaksDown r t) (values r t)
  | .leaf terminal text, h => by
    rw [values, BreaksDown]
    refine (leafValue_guarded laws hr h).map _ ?_
    intro q hq
    exact ⟨List.cons_ne_nil _ _, fun q' hq' => List.mem_singleton.mp hq' ▸ hq⟩
  | .choice trees, ⟨hne, h⟩ => by
    rw [values, BreaksDown, outcomes_eq_map]
    exact (Survivors.ofOutcomes_guarded hne (allValues_guarded laws hr trees h)).congr
      readingBreaks_iff.symm
  | .node p children, ⟨harity, h⟩ => by
    have hoperands := operandValues_guarded (allValues_guarded laws hr children h)
    have hall := hoperands.bind fun lists _ hlists =>
      reduceAll_guarded laws (p := p) (hlists.1 ▸ harity) hlists.2
    rw [values_node harity, BreaksDown]
    refine hall.congr (or_congr_right ?_)
    constructor
    · rintro ⟨lists, hlists, qs, hqs, hbreaks⟩
      exact ⟨lists, qs, hlists, hqs, hbreaks⟩
    · rintro ⟨lists, qs, hlists, hqs, hbreaks⟩
      exact ⟨lists, hlists, qs, hqs, hbreaks⟩

theorem allValues_guarded (laws : Scalar.FiniteLaws K)
    (hr : ∀ spelling u, r.find? spelling = some u → Scalar.isFinite u.factor = true) :
    ∀ ts : List Tree, AllWellFormed r ts →
      ∀ t ∈ ts, Guarded Survive (BreaksDown r t) (values r t)
  | [], _ => fun _ h => absurd h List.not_mem_nil
  | t :: ts, ⟨ht, hts⟩ => by
    intro u hu
    rcases List.mem_cons.mp hu with hu | hu
    · rw [hu]
      exact values_guarded laws hr t ht
    · exact allValues_guarded laws hr ts hts u hu

end

end Trees

end Expr

end UnitCalc
