import UnitCalc.Expr.Evaluator
import UnitCalc.Number.Double
import UnitCalc.Proofs.Evaluator.Selection
import UnitCalc.Proofs.Parser.Choice

/-!
# Evaluating all readings at once

The evaluator never lists the readings of a tree: every node keeps the values that are left,
and a fault that rules out a reading is dropped where it occurs. Still its result is that of
evaluating the readings one by one, in their order, and keeping those that have a value.
`Agrees` is the relation between the two, and every step of the evaluation keeps it.
-/

namespace UnitCalc.Expr

variable {K : Type}

/-! ## Agreement -/

/-- Whether a calculation ends with a value or with a fault that rules out a reading. -/
def Recoverable {α : Type} (x : Except (Fault K) α) : Prop :=
  ∀ f, x = .error f → f.rulesOutReading = true

instance {α : Type} (x : Except (Fault K) α) : Decidable (Recoverable x) :=
  match x with
  | .ok _ => .isTrue (by rintro f ⟨⟩)
  | .error f => decidable_of_iff (f.rulesOutReading = true)
    ⟨fun h _ hf => Except.error.inj hf ▸ h, fun h => h f rfl⟩

/-- Whether a calculation ends with a fault that rules out a reading. -/
def RuledOut {α : Type} (x : Except (Fault K) α) : Prop :=
  ∃ f, x = .error f ∧ f.rulesOutReading = true

/-- What comes of the calculations `each` if they are made at once: the values that there are;
or, if all are ruled out, the fault of one of them; or the fault of one of them that rules
out more than a reading. -/
inductive Agrees {α : Type} : Except (Fault K) (List α) → List (Except (Fault K) α) → Prop
  | survive {xs : List α} {each : List (Except (Fault K) α)}
      (hxs : each.filterMap Except.toOption = xs) (hne : xs ≠ [])
      (heach : ∀ x ∈ each, Recoverable x) : Agrees (.ok xs) each
  | ruledOut {f : Fault K} {each : List (Except (Fault K) α)} (hf : f.rulesOutReading = true)
      (hmem : .error f ∈ each) (heach : ∀ x ∈ each, RuledOut x) : Agrees (.error f) each
  | ended {f : Fault K} {each : List (Except (Fault K) α)} (hf : f.rulesOutReading = false)
      (hmem : .error f ∈ each) : Agrees (.error f) each

section Agreement

variable {α β : Type} {x : Except (Fault K) α} {each : List (Except (Fault K) α)}

theorem RuledOut.recoverable (h : RuledOut x) : Recoverable x := by
  obtain ⟨f, rfl, hf⟩ := h
  rintro g ⟨⟩
  exact hf

theorem RuledOut.toOption (h : RuledOut x) : x.toOption = none := by
  obtain ⟨f, rfl, _⟩ := h
  rfl

theorem RuledOut.bind (h : RuledOut x) (g : α → Except (Fault K) β) : RuledOut (x >>= g) := by
  obtain ⟨f, rfl, hf⟩ := h
  exact ⟨f, rfl, hf⟩

theorem Recoverable.cases (h : Recoverable x) : (∃ a, x = .ok a) ∨ RuledOut x := by
  cases x with
  | ok a => exact .inl ⟨a, rfl⟩
  | error f => exact .inr ⟨f, rfl, h f rfl⟩

theorem filterMap_toOption_of_ruledOut (h : ∀ x ∈ each, RuledOut x) :
    each.filterMap Except.toOption = [] := by
  rw [List.filterMap_eq_nil_iff]
  exact fun x hx => (h x hx).toOption

theorem exists_ok_of_filterMap_ne_nil (h : each.filterMap Except.toOption ≠ []) :
    ∃ a, .ok a ∈ each := by
  obtain ⟨a, ha⟩ := List.exists_mem_of_ne_nil _ h
  obtain ⟨x, hx, hxa⟩ := List.mem_filterMap.mp ha
  cases x with
  | ok b => exact ⟨b, hx⟩
  | error f => cases hxa

namespace Agrees

variable {all : Except (Fault K) (List α)}

theorem ne_nil (h : Agrees all each) : each ≠ [] := by
  cases h with
  | survive hxs hne _ =>
    rintro rfl
    exact hne hxs.symm
  | ruledOut _ hmem _ => exact List.ne_nil_of_mem hmem
  | ended _ hmem => exact List.ne_nil_of_mem hmem

theorem single (x : Except (Fault K) α) : Agrees (x.map ([·])) [x] := by
  cases x with
  | ok a =>
    refine .survive rfl (List.cons_ne_nil _ _) ?_
    rintro _ (_ | ⟨_, ⟨⟩⟩) f ⟨⟩
  | error f =>
    cases hf : f.rulesOutReading with
    | true =>
      refine .ruledOut hf (List.mem_singleton_self _) ?_
      rintro _ (_ | ⟨_, ⟨⟩⟩)
      exact ⟨f, rfl, hf⟩
    | false => exact .ended hf (List.mem_singleton_self _)

/-- Calculations that are ruled out can be added anywhere. -/
theorem of_ruledOut {more : List (Except (Fault K) α)} (h : Agrees all each)
    (hvalues : more.filterMap Except.toOption = each.filterMap Except.toOption)
    (hmem : ∀ x ∈ each, x ∈ more) (hmore : ∀ x ∈ more, x ∈ each ∨ RuledOut x) :
    Agrees all more := by
  cases h with
  | survive hxs hne heach =>
    refine .survive (hvalues.trans hxs) hne ?_
    intro x hx
    rcases hmore x hx with hx | hx
    · exact heach x hx
    · exact hx.recoverable
  | ruledOut hf hfault heach =>
    refine .ruledOut hf (hmem _ hfault) ?_
    intro y hy
    exact (hmore y hy).elim (heach y) id
  | ended hf hfault => exact .ended hf (hmem _ hfault)

/-- Where nothing ends everything, the values are those that there are. -/
theorem eq_ok_iff (h : Agrees all each) (heach : ∀ x ∈ each, Recoverable x) (xs : List α) :
    all = .ok xs ↔ xs ≠ [] ∧ each.filterMap Except.toOption = xs := by
  cases h with
  | survive hxs hne _ =>
    constructor
    · rintro ⟨⟩
      exact ⟨hne, hxs⟩
    · rintro ⟨_, rfl⟩
      rw [hxs]
  | ruledOut _ _ hruled =>
    refine iff_of_false (by simp) ?_
    rintro ⟨hne, rfl⟩
    exact hne (filterMap_toOption_of_ruledOut hruled)
  | @ended f _ hf hmem =>
    rw [heach _ hmem f rfl] at hf
    cases hf

theorem ruledOut_iff (h : Agrees all each) (heach : ∀ x ∈ each, Recoverable x) :
    RuledOut all ↔ ∀ x ∈ each, ∃ f, x = .error f := by
  cases h with
  | survive hxs hne _ =>
    constructor
    · rintro ⟨f, ⟨⟩, _⟩
    · intro hfail
      obtain ⟨a, ha⟩ := exists_ok_of_filterMap_ne_nil (hxs ▸ hne)
      obtain ⟨f, hf⟩ := hfail _ ha
      cases hf
  | ruledOut hf _ hruled =>
    refine iff_of_true ⟨_, rfl, hf⟩ ?_
    intro x hx
    obtain ⟨f, hf, _⟩ := hruled x hx
    exact ⟨f, hf⟩
  | @ended f _ hf hmem =>
    rw [heach _ hmem f rfl] at hf
    cases hf

/-- Where nothing ends everything, there are values or all is ruled out. -/
theorem cases (h : Agrees all each) (heach : ∀ x ∈ each, Recoverable x) :
    (∃ x xs, all = .ok (x :: xs)) ∨ RuledOut all := by
  cases h with
  | @survive xs _ _ hne _ =>
    cases xs with
    | nil => exact absurd rfl hne
    | cons x xs => exact .inl ⟨x, xs, rfl⟩
  | ruledOut hf _ _ => exact .inr ⟨_, rfl, hf⟩
  | @ended f _ hf hmem =>
    rw [heach _ hmem f rfl] at hf
    cases hf

theorem mem_of_error {f : Fault K} (h : Agrees (.error f) each) : .error f ∈ each := by
  cases h with
  | ruledOut _ hmem _ => exact hmem
  | ended _ hmem => exact hmem

end Agrees

end Agreement

/-! ## Counting readings -/

namespace Survivors

variable {each each' : List (Except (Fault K) (Quantity K))}

/-- What is kept of readings that have been counted in. -/
structure Keeps (s : Survivors K) (each : List (Except (Fault K) (Quantity K))) : Prop where
  values : each.filterMap Except.toOption = s.values
  recoverable : ∀ x ∈ each, Recoverable x
  ruledOut : ∀ f, s.ruledOut = some f → .error f ∈ each
  decided : each ≠ [] → s.values = [] → ∃ f, s.ruledOut = some f

/-- What counting in readings leads to. -/
inductive Counted : Except (Fault K) (Survivors K) → List (Except (Fault K) (Quantity K)) → Prop
  | kept {s : Survivors K} {each : List (Except (Fault K) (Quantity K))} (h : s.Keeps each) :
      Counted (.ok s) each
  | ended {f : Fault K} {each : List (Except (Fault K) (Quantity K))}
      (hf : f.rulesOutReading = false) (hmem : .error f ∈ each) : Counted (.error f) each

theorem keeps_none : (none : Survivors K).Keeps [] where
  values := rfl
  recoverable := by simp
  ruledOut := by
    rintro f ⟨⟩
  decided h := absurd rfl h

/-- One step: a reading is counted in. -/
theorem Keeps.count {s : Survivors K} (hs : s.Keeps each)
    {x : Except (Fault K) (List (Quantity K))} (hx : Agrees x each') :
    Counted (s.count x) (each ++ each') := by
  have hboth (h : ∀ x ∈ each', Recoverable x) : ∀ x ∈ each ++ each', Recoverable x :=
    List.forall_mem_append.mpr ⟨hs.recoverable, h⟩
  have hkept (f : Fault K) (hf : s.ruledOut = some f) : .error f ∈ each ++ each' :=
    List.mem_append_left _ (hs.ruledOut f hf)
  cases hx with
  | survive hxs hne heach =>
    refine .kept ⟨?_, hboth heach, hkept, ?_⟩
    · rw [List.filterMap_append, hs.values, hxs]
    · intro _ hnil
      exact absurd (List.append_eq_nil_iff.mp hnil).2 hne
  | @ruledOut f _ hf hmem heach =>
    simp only [Survivors.count, hf, if_true]
    refine .kept ⟨?_, hboth fun x hx => (heach x hx).recoverable, ?_, ?_⟩
    · rw [List.filterMap_append, hs.values, filterMap_toOption_of_ruledOut heach,
        List.append_nil]
    · intro g hg
      rcases Option.or_eq_some_iff.mp hg with hg | ⟨_, hg⟩
      · exact hkept g hg
      · cases hg
        exact List.mem_append_right _ hmem
    · intro _ _
      cases s.ruledOut with
      | none => exact ⟨f, rfl⟩
      | some g => exact ⟨g, rfl⟩
  | ended hf hmem =>
    simp only [Survivors.count, hf, Bool.false_eq_true, if_false]
    exact .ended hf (List.mem_append_right _ hmem)

/-- The whole run: readings are counted in one after the other. -/
theorem Keeps.foldlM_count {α : Type} {f : α → Except (Fault K) (List (Quantity K))}
    {g : α → List (Except (Fault K) (Quantity K))} {items : List α}
    (h : ∀ a ∈ items, Agrees (f a) (g a)) {s : Survivors K} (hs : s.Keeps each) :
    Counted ((items.map f).foldlM Survivors.count s) (each ++ items.flatMap g) := by
  induction items generalizing s each with
  | nil =>
    rw [List.flatMap_nil, List.append_nil]
    exact .kept hs
  | cons a items ih =>
    have hfirst := hs.count (h a List.mem_cons_self)
    rw [List.map_cons, List.foldlM_cons, List.flatMap_cons, ← List.append_assoc]
    generalize s.count (f a) = y at hfirst ⊢
    cases hfirst with
    | kept hkeeps => exact ih (fun b hb => h b (List.mem_cons_of_mem a hb)) hkeeps
    | ended hf hmem => exact .ended hf (List.mem_append_left _ hmem)

theorem Keeps.result {s : Survivors K} (hs : s.Keeps each) (hne : each ≠ []) :
    Agrees s.result each := by
  obtain ⟨values, ruledOut⟩ := s
  cases values with
  | cons q values => exact .survive hs.values (List.cons_ne_nil _ _) hs.recoverable
  | nil =>
    obtain ⟨f, hf⟩ := hs.decided hne rfl
    cases hf
    have hmem := hs.ruledOut f rfl
    refine .ruledOut (hs.recoverable _ hmem f rfl) hmem ?_
    intro x hx
    rcases (hs.recoverable x hx).cases with ⟨a, rfl⟩ | hruled
    · have hmem : a ∈ each.filterMap Except.toOption := List.mem_filterMap.mpr ⟨_, hx, rfl⟩
      rw [hs.values] at hmem
      exact absurd hmem List.not_mem_nil
    · exact hruled

/-- What is left of readings that are each evaluated at once is what is left of all. -/
theorem ofOutcomes_agrees {α : Type} {f : α → Except (Fault K) (List (Quantity K))}
    {g : α → List (Except (Fault K) (Quantity K))} {items : List α} (hne : items ≠ [])
    (h : ∀ a ∈ items, Agrees (f a) (g a)) :
    Agrees (ofOutcomes (items.map f)) (items.flatMap g) := by
  have hcounted := keeps_none.foldlM_count h
  rw [List.nil_append] at hcounted
  have hflat : items.flatMap g ≠ [] := by
    obtain ⟨a, ha⟩ := List.exists_mem_of_ne_nil _ hne
    obtain ⟨x, hx⟩ := List.exists_mem_of_ne_nil _ (h a ha).ne_nil
    exact List.ne_nil_of_mem (List.mem_flatMap.mpr ⟨a, ha, hx⟩)
  unfold ofOutcomes
  generalize (items.map f).foldlM Survivors.count none = y at hcounted ⊢
  cases hcounted with
  | kept hkeeps => exact hkeeps.result hflat
  | ended hf hmem => exact .ended hf hmem

end Survivors

/-! ## Operands -/

section Operands

variable {each : List (Except (Fault K) (Quantity K))}
  {others : List (Except (Fault K) (List (Quantity K)))}

/-- A value in front of values, where there are both. -/
def consValue (x : Except (Fault K) (Quantity K)) (xs : Except (Fault K) (List (Quantity K))) :
    Except (Fault K) (List (Quantity K)) := do
  let q ← x
  let qs ← xs
  .ok (q :: qs)

theorem filterMap_consValue_ok (q : Quantity K) :
    (others.map (consValue (.ok q))).filterMap Except.toOption =
      (others.filterMap Except.toOption).map (q :: ·) := by
  rw [List.filterMap_map, List.map_filterMap]
  congr 1
  funext x
  cases x <;> rfl

theorem filterMap_consValue_error (f : Fault K) :
    (others.map (consValue (.error f))).filterMap Except.toOption = [] := by
  rw [List.filterMap_map, List.filterMap_eq_nil_iff]
  exact fun _ _ => rfl

/-- The values of all combinations are the combinations of the values. -/
theorem filterMap_flatMap_consValue :
    (each.flatMap fun o => others.map (consValue o)).filterMap Except.toOption =
      (each.filterMap Except.toOption).flatMap fun q =>
        (others.filterMap Except.toOption).map (q :: ·) := by
  induction each with
  | nil => rfl
  | cons o each ih =>
    rw [List.flatMap_cons, List.filterMap_append, ih]
    cases o with
    | ok q =>
      rw [filterMap_consValue_ok]
      rfl
    | error f =>
      rw [filterMap_consValue_error]
      rfl

/-- The first operand is evaluated first, and its values are combined with those of the
others. -/
theorem Agrees.cons {x : Except (Fault K) (List (Quantity K))}
    {y : Except (Fault K) (List (List (Quantity K)))} (hx : Agrees x each)
    (hy : Agrees y others) :
    Agrees (do
        let qs ← x
        let lists ← y
        .ok (qs.flatMap fun q => lists.map (q :: ·)))
      (each.flatMap fun o => others.map (consValue o)) := by
  have hmem {o : Except (Fault K) (Quantity K)} {o' : Except (Fault K) (List (Quantity K))}
      (ho : o ∈ each) (ho' : o' ∈ others) :
      consValue o o' ∈ each.flatMap fun o => others.map (consValue o) :=
    List.mem_flatMap.mpr ⟨o, ho, List.mem_map_of_mem ho'⟩
  cases hx with
  | ruledOut hf hfault heach =>
    obtain ⟨other, hother⟩ := List.exists_mem_of_ne_nil _ hy.ne_nil
    refine .ruledOut hf (hmem hfault hother) ?_
    simp only [List.mem_flatMap, List.mem_map]
    rintro _ ⟨o, ho, o', _, rfl⟩
    exact (heach o ho).bind _
  | ended hf hfault =>
    obtain ⟨other, hother⟩ := List.exists_mem_of_ne_nil _ hy.ne_nil
    exact .ended hf (hmem hfault hother)
  | survive hqs hne heach =>
    -- The others are evaluated behind a value of the first operand.
    obtain ⟨q, hq⟩ := exists_ok_of_filterMap_ne_nil (hqs ▸ hne)
    cases hy with
    | ruledOut hf hfault hothers =>
      refine .ruledOut hf (hmem hq hfault) ?_
      simp only [List.mem_flatMap, List.mem_map]
      rintro _ ⟨o, ho, o', ho', rfl⟩
      rcases (heach o ho).cases with ⟨q, rfl⟩ | ho
      · exact (hothers o' ho').bind _
      · exact ho.bind _
    | ended hf hfault => exact .ended hf (hmem hq hfault)
    | survive hlists hne' hothers =>
      refine .survive ?_ ?_ ?_
      · rw [filterMap_flatMap_consValue, hqs, hlists]
      · obtain ⟨q, hq⟩ := List.exists_mem_of_ne_nil _ hne
        obtain ⟨list, hlist⟩ := List.exists_mem_of_ne_nil _ hne'
        exact List.ne_nil_of_mem (List.mem_flatMap.mpr ⟨q, hq, List.mem_map_of_mem hlist⟩)
      · simp only [List.mem_flatMap, List.mem_map]
        rintro _ ⟨o, ho, o', ho', rfl⟩
        rcases (heach o ho).cases with ⟨q, rfl⟩ | ho
        · rcases (hothers o' ho').cases with ⟨qs, rfl⟩ | ho'
          · rintro f ⟨⟩
          · exact (ho'.bind _).recoverable
        · exact (ho.bind _).recoverable

end Operands

variable [Scalar K]

/-- A production reduces every combination of values of its operands. -/
theorem Production.reduce_agrees (p : Production)
    {combined : Except (Fault K) (List (List (Quantity K)))}
    {each : List (Except (Fault K) (List (Quantity K)))} (h : Agrees combined each) :
    Agrees (combined >>= fun lists =>
        Survivors.ofOutcomes (lists.map fun qs => (p.reduce qs).map ([·])))
      (each.map (· >>= p.reduce)) := by
  cases h with
  | ruledOut hf hmem heach =>
    refine .ruledOut hf (List.mem_map_of_mem hmem) ?_
    simp only [List.mem_map]
    rintro _ ⟨x, hx, rfl⟩
    exact (heach x hx).bind _
  | ended hf hmem => exact .ended hf (List.mem_map_of_mem hmem)
  | @survive lists _ hlists hne heach =>
    have hreduced := Survivors.ofOutcomes_agrees hne
      fun qs _ => Agrees.single (p.reduce qs)
    rw [← List.map_eq_flatMap] at hreduced
    -- What is ruled out before it is reduced changes nothing.
    refine hreduced.of_ruledOut ?_ ?_ ?_
    · rw [← hlists, List.filterMap_map, List.filterMap_map, List.filterMap_filterMap]
      congr 1
      funext x
      cases x <;> rfl
    · simp only [List.mem_map, ← hlists, List.mem_filterMap]
      rintro _ ⟨qs, ⟨x, hx, hqs⟩, rfl⟩
      refine ⟨x, hx, ?_⟩
      cases x with
      | ok qs' =>
        cases hqs
        rfl
      | error f => cases hqs
    · simp only [List.mem_map]
      rintro _ ⟨x, hx, rfl⟩
      rcases (heach x hx).cases with ⟨qs, rfl⟩ | hruled
      · refine .inl ⟨qs, ?_, rfl⟩
        rw [← hlists]
        exact List.mem_filterMap.mpr ⟨_, hx, rfl⟩
      · exact .inr (hruled.bind _)

/-! ## Trees -/

mutual

/-- The plain evaluation of a tree without choices, from the leaves up: every node has one
value. -/
def plainEvaluate (r : Registry K) : Tree → Except (Fault K) (Quantity K)
  | .leaf terminal text => leafValue r terminal text
  | .node (.other name) _ => .error (.breakdown (.unknownProduction name))
  | .node p children => do
    let operands ← plainEvaluateAll r children
    p.reduce operands
  | .choice _ => .error (.breakdown .noReadings)

/-- The plain values of some trees, or the fault of the first that has none. -/
def plainEvaluateAll (r : Registry K) : List Tree → Except (Fault K) (List (Quantity K))
  | [] => .ok []
  | tree :: trees => consValue (plainEvaluate r tree) (plainEvaluateAll r trees)

end

section Trees

variable {r : Registry K}

theorem map_combinations_operandValues_cons (t : Tree) (ts : List Tree) :
    (operandValues r (t :: ts)).map combinations = (do
      let qs ← values r t
      let lists ← (operandValues r ts).map combinations
      .ok (qs.flatMap fun q => lists.map (q :: ·))) := by
  rw [operandValues]
  cases values r t with
  | error f => rfl
  | ok qs => cases operandValues r ts <;> rfl

theorem operandValues_agrees {ts : List Tree}
    (h : ∀ t ∈ ts, Agrees (values r t) (t.readings.map (plainEvaluate r))) :
    Agrees ((operandValues r ts).map combinations)
      ((Tree.readingsOfAll ts).map (plainEvaluateAll r)) := by
  induction ts with
  | nil => exact .single (.ok [])
  | cons t ts ih =>
    have hcons := (h t List.mem_cons_self).cons
      (ih fun u hu => h u (List.mem_cons_of_mem t hu))
    rw [map_combinations_operandValues_cons, Tree.readingsOfAll, List.map_flatMap]
    rw [List.flatMap_map] at hcons
    simpa only [List.map_map, Function.comp_def, plainEvaluateAll] using hcons

theorem values_node_eq (p : Production) (hp : ∀ name, p ≠ .other name) (children : List Tree) :
    values r (.node p children) = (operandValues r children).map combinations >>= fun lists =>
      Survivors.ofOutcomes (lists.map fun qs => (p.reduce qs).map ([·])) := by
  have hnode : values r (.node p children) = operandValues r children >>= p.reduceAll := by
    cases p with
    | other name => exact absurd rfl (hp name)
    | _ => simp only [values]
  rw [hnode]
  cases operandValues r children <;> rfl

theorem plainEvaluate_node (p : Production) (hp : ∀ name, p ≠ .other name)
    (children : List Tree) :
    plainEvaluate r (.node p children) = plainEvaluateAll r children >>= p.reduce := by
  cases p with
  | other name => exact absurd rfl (hp name)
  | _ => simp only [plainEvaluate]

mutual

/-- The evaluation of a tree agrees with those of its readings. -/
theorem values_agrees : ∀ t : Tree, (∀ trees ∈ t.choices, trees ≠ []) →
    Agrees (values r t) (t.readings.map (plainEvaluate r))
  | .leaf terminal text, _ => by
    rw [values, Tree.readings, List.map_singleton, plainEvaluate]
    exact .single _
  | .choice trees, h => by
    rw [Tree.choices] at h
    rw [values, outcomes_eq_map, Tree.readings, Tree.readingsOfAny_eq_flatMap,
      List.map_flatMap]
    exact Survivors.ofOutcomes_agrees (h trees List.mem_cons_self)
      (allValues_agree trees fun ts hts => h ts (List.mem_cons_of_mem _ hts))
  | .node p children, h => by
    rw [Tree.choices] at h
    have hoperands := operandValues_agrees (allValues_agree children h)
    rw [Tree.readings, List.map_map]
    by_cases hp : ∃ name, p = .other name
    · obtain ⟨name, rfl⟩ := hp
      obtain ⟨x, hx⟩ := List.exists_mem_of_ne_nil _ hoperands.ne_nil
      obtain ⟨as, has, _⟩ := List.mem_map.mp hx
      refine .ended rfl (List.mem_map.mpr ⟨as, has, ?_⟩)
      rw [Function.comp_apply, plainEvaluate]
    · have hp' : ∀ name, p ≠ .other name := fun name h => hp ⟨name, h⟩
      have hreduced := p.reduce_agrees hoperands
      rw [← values_node_eq p hp', List.map_map] at hreduced
      simpa only [Function.comp_def, plainEvaluate_node p hp'] using hreduced

theorem allValues_agree : ∀ ts : List Tree, (∀ trees ∈ Tree.choicesOfAll ts, trees ≠ []) →
    ∀ t ∈ ts, Agrees (values r t) (t.readings.map (plainEvaluate r))
  | [], _ => fun _ h => absurd h List.not_mem_nil
  | t :: ts, h => by
    rw [Tree.choicesOfAll] at h
    intro u hu
    rcases List.mem_cons.mp hu with hu | hu
    · rw [hu]
      exact values_agrees t fun trees htrees => h trees (List.mem_append_left _ htrees)
    · exact allValues_agree ts (fun trees htrees => h trees (List.mem_append_right _ htrees)) u hu

end

theorem evaluate_eq_ok_iff {t : Tree} {q : Quantity K} :
    evaluate r t = .ok q ↔ ∃ qs, values r t = .ok (q :: qs) := by
  rw [evaluate]
  cases values r t with
  | error f => simp [bind, Except.bind]
  | ok qs => cases qs <;> simp [bind, Except.bind]

/-- A node without values has no value, and the fault is the same. -/
theorem ruledOut_evaluate_iff {t : Tree} : RuledOut (evaluate r t) ↔ RuledOut (values r t) := by
  rw [evaluate]
  cases values r t with
  | error f => simp [RuledOut, bind, Except.bind]
  | ok qs =>
    refine iff_of_false ?_ ?_
    · cases qs <;> rintro ⟨f, ⟨⟩, hf⟩
      cases hf
    · rintro ⟨f, ⟨⟩, _⟩

/-- A fault of a tree is that of a reading. -/
theorem exists_reading_of_evaluate_error {t : Tree} (hchoices : ∀ trees ∈ t.choices, trees ≠ [])
    {f : Fault K} (h : evaluate r t = .error f) :
    ∃ a ∈ t.readings, plainEvaluate r a = .error f := by
  have hagrees := values_agrees (r := r) t hchoices
  rw [evaluate] at h
  cases hvalues : values r t with
  | error g =>
    rw [hvalues] at h hagrees
    cases h
    exact List.mem_map.mp hagrees.mem_of_error
  | ok qs =>
    rw [hvalues] at h hagrees
    cases hagrees with
    | survive _ hne _ =>
      cases qs with
      | nil => exact absurd rfl hne
      | cons q qs => cases h

/-- A tree without choices is its only reading. -/
theorem values_eq_plainEvaluate {t : Tree} (h : t.choices = []) :
    values r t = (plainEvaluate r t).map ([·]) := by
  have hagrees := values_agrees (r := r) t (by simp [h])
  rw [Tree.readings_of_choices_eq_nil t h, List.map_singleton] at hagrees
  generalize values r t = x at hagrees ⊢
  generalize plainEvaluate r t = y at hagrees ⊢
  cases hagrees with
  | survive hxs hne _ =>
    subst hxs
    cases y with
    | ok q => rfl
    | error f => exact absurd rfl hne
  | ruledOut _ hmem _ | ended _ hmem =>
    rw [List.mem_singleton] at hmem
    rw [← hmem]
    rfl

theorem evaluate_eq_plainEvaluate {t : Tree} (h : t.choices = []) :
    evaluate r t = plainEvaluate r t := by
  rw [evaluate, values_eq_plainEvaluate h]
  cases plainEvaluate r t <;> rfl

section Readings

variable {t : Tree} (hchoices : ∀ trees ∈ t.choices, trees ≠ [])
  (hreadings : ∀ a ∈ t.readings, Recoverable (plainEvaluate r a))

include hchoices hreadings

/-- The value of a tree is that of its first reading that has one. -/
theorem evaluate_eq_ok_iff_first {q : Quantity K} :
    evaluate r t = .ok q ↔ ∃ before a after, t.readings = before ++ a :: after ∧
      (∀ u ∈ before, RuledOut (plainEvaluate r u)) ∧ plainEvaluate r a = .ok q := by
  have hvalues := (values_agrees (r := r) t hchoices).eq_ok_iff
    (List.forall_mem_map.mpr hreadings)
  have hruled {u : Tree} (hu : u ∈ t.readings) (hnone : (plainEvaluate r u).toOption = none) :
      RuledOut (plainEvaluate r u) := by
    refine (hreadings u hu).cases.resolve_left ?_
    rintro ⟨a, ha⟩
    rw [ha] at hnone
    cases hnone
  simp only [evaluate_eq_ok_iff, hvalues, List.filterMap_map]
  constructor
  · rintro ⟨qs, _, hqs⟩
    obtain ⟨before, a, after, hsplit, hbefore, ha, _⟩ := List.filterMap_eq_cons_iff.mp hqs
    refine ⟨before, a, after, hsplit, ?_, ?_⟩
    · intro u hu
      exact hruled (by simp [hsplit, hu]) (hbefore u hu)
    · cases hvalue : plainEvaluate r a with
      | ok q' => simpa [hvalue, Except.toOption] using ha
      | error f => simp [hvalue, Except.toOption] at ha
  · rintro ⟨before, a, after, hsplit, hbefore, ha⟩
    refine ⟨_, List.cons_ne_nil _ _, List.filterMap_eq_cons_iff.mpr
      ⟨before, a, after, hsplit, fun u hu => (hbefore u hu).toOption, ?_, rfl⟩⟩
    simp [ha, Except.toOption]

/-- A tree has a value, or it is ruled out. -/
theorem evaluate_cases : (∃ q, evaluate r t = .ok q) ∨ RuledOut (evaluate r t) := by
  rcases (values_agrees (r := r) t hchoices).cases (List.forall_mem_map.mpr hreadings) with
    ⟨q, qs, hqs⟩ | hruled
  · exact .inl ⟨q, evaluate_eq_ok_iff.mpr ⟨qs, hqs⟩⟩
  · exact .inr (ruledOut_evaluate_iff.mpr hruled)

end Readings

/-- Evaluating a tree is trying its readings one by one, in lexicographic order: the value is
that of the first reading that has one, and there is none exactly if every reading fails. The
values kept at a node are those of all its readings that have one, in order, and never none. -/
theorem evaluate_tries_readings {t : Tree} (hchoices : ∀ trees ∈ t.choices, trees ≠ [])
    (hreadings : ∀ a ∈ t.readings, Recoverable (plainEvaluate r a)) :
    ∃ selections, t.Enumerates selections ∧
      (∀ q, evaluate r t = .ok q ↔
        selections.findSome? (fun s => (plainEvaluate r s.2).toOption) = some q) ∧
      (RuledOut (evaluate r t) ↔ ∀ s ∈ selections, ∃ f, plainEvaluate r s.2 = .error f) ∧
      ∀ qs, values r t = .ok qs ↔
        qs ≠ [] ∧ selections.filterMap (fun s => (plainEvaluate r s.2).toOption) = qs := by
  have hagrees := values_agrees (r := r) t hchoices
  have hrecoverable : ∀ x ∈ t.readings.map (plainEvaluate r), Recoverable x :=
    List.forall_mem_map.mpr hreadings
  have hvalues := hagrees.eq_ok_iff hrecoverable
  have hfailures := hagrees.ruledOut_iff hrecoverable
  rw [← Tree.map_selections, List.map_map] at hvalues hfailures
  simp only [List.filterMap_map] at hvalues
  refine ⟨t.selections, t.enumerates_selections, ?_, ?_, hvalues⟩
  · intro q
    rw [evaluate_eq_ok_iff, ← List.head?_filterMap, List.head?_eq_some_iff]
    refine exists_congr fun qs => (hvalues (q :: qs)).trans ?_
    exact and_iff_right (List.cons_ne_nil q qs)
  · rw [ruledOut_evaluate_iff, hfailures, List.forall_mem_map]
    exact Iff.rfl

end Trees

/-! ## Choices within choices -/

/-- A registry that knows the meter only. -/
def meterRegistry : Registry Float := ⟨[("m", .meter)], [("meter", .meter)]⟩

/-- The power `2^(1 m)` or, by either of two equal readings, the quantity `(2^1) m`; and to it
is added `1/0` or `1 m`. The fourth and the sixth of the six readings have a value. -/
def nestedChoices : Tree :=
  let number (text : String) := Tree.node .number [.leaf .number text]
  let meters (magnitude : Tree) := Tree.node .quantity [magnitude, .node .unit [.leaf .unit "m"]]
  let scaled := meters (.node .scaled [number "2", number "1"])
  .node .add [
    .choice [.node .pow [number "2", meters (number "1")], .choice [scaled, scaled]],
    .choice [.node .div [number "1", number "0"], meters (number "1")]]

/-- The two quantities that are left of its readings are equal. -/
theorem evaluate_nestedChoices :
    (∀ trees ∈ nestedChoices.choices, trees ≠ []) ∧
    (∀ a ∈ nestedChoices.readings, Recoverable (plainEvaluate meterRegistry a)) ∧
    ∃ selections, nestedChoices.Enumerates selections ∧
      (∀ q, evaluate meterRegistry nestedChoices = .ok q ↔
        selections.findSome? (fun s => (plainEvaluate meterRegistry s.2).toOption) = some q) ∧
      (RuledOut (evaluate meterRegistry nestedChoices) ↔
        ∀ s ∈ selections, ∃ f, plainEvaluate meterRegistry s.2 = .error f) ∧
      ∀ qs, values meterRegistry nestedChoices = .ok qs ↔ qs ≠ [] ∧
        selections.filterMap (fun s => (plainEvaluate meterRegistry s.2).toOption) = qs := by
  have hchoices : ∀ trees ∈ nestedChoices.choices, trees ≠ [] := by
    decide +kernel
  have hreadings : ∀ a ∈ nestedChoices.readings,
      Recoverable (plainEvaluate meterRegistry a) := by
    decide +kernel
  exact ⟨hchoices, hreadings, evaluate_tries_readings hchoices hreadings⟩

end UnitCalc.Expr
