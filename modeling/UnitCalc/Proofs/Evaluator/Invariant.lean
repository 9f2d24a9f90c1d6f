import UnitCalc.Proofs.Evaluator.Breakdown
import UnitCalc.Proofs.Quantity.Outcome

/-!
# Invariants of the evaluation

What the leaves of a tree have and every operation keeps, all values of all nodes have. So a
fact about the results of an evaluation is proved one operation at a time.
-/

namespace UnitCalc.Expr

variable {K : Type}

/-! ## Surviving readings -/

namespace Survivors

variable {outcomes : List (Except (Fault K) (List (Quantity K)))}

/-- A value that is counted in is one of an outcome. -/
theorem mem_values_of_foldlM_count {s s' : Survivors K} (h : outcomes.foldlM count s = .ok s')
    {q : Quantity K} (hq : q ∈ s'.values) :
    q ∈ s.values ∨ ∃ qs, .ok qs ∈ outcomes ∧ q ∈ qs := by
  induction outcomes generalizing s with
  | nil =>
    cases h
    exact .inl hq
  | cons x outcomes ih =>
    rw [List.foldlM_cons] at h
    cases x with
    | ok qs =>
      rcases ih h with hq | ⟨ps, hps, hq⟩
      · rcases List.mem_append.mp hq with hq | hq
        · exact .inl hq
        · exact .inr ⟨qs, List.mem_cons_self, hq⟩
      · exact .inr ⟨ps, List.mem_cons_of_mem _ hps, hq⟩
    | error f =>
      simp only [count] at h
      split at h
      · rcases ih h with hq | ⟨ps, hps, hq⟩
        · exact .inl hq
        · exact .inr ⟨ps, List.mem_cons_of_mem _ hps, hq⟩
      · cases h

theorem mem_of_ofOutcomes {qs : List (Quantity K)} (h : ofOutcomes outcomes = .ok qs)
    {q : Quantity K} (hq : q ∈ qs) : ∃ ps, .ok ps ∈ outcomes ∧ q ∈ ps := by
  unfold ofOutcomes at h
  cases hfold : outcomes.foldlM count none with
  | error f =>
    rw [hfold] at h
    cases h
  | ok s =>
    rw [hfold] at h
    have hvalues : s.values = qs := by
      obtain ⟨values, ruledOut⟩ := s
      cases values <;> cases ruledOut <;> cases h <;> rfl
    rw [← hvalues] at hq
    exact (mem_values_of_foldlM_count hfold hq).resolve_left List.not_mem_nil

end Survivors

variable [Scalar K]

/-! ## Reductions -/

/-- The number of operands decides whether a production is reduced at all. -/
theorem Production.reduce_of_arity_ne {p : Production} {qs : List (Quantity K)}
    (h : p.arity? ≠ some qs.length) :
    ∃ text, p.reduce qs = .error (.breakdown (.arity text)) := by
  match qs with
  | [] => cases p <;> first | exact absurd rfl h | exact ⟨_, rfl⟩
  | [_] => cases p <;> first | exact absurd rfl h | exact ⟨_, rfl⟩
  | [_, _] => cases p <;> first | exact absurd rfl h | exact ⟨_, rfl⟩
  | _ :: _ :: _ :: _ => cases p <;> exact ⟨_, rfl⟩

/-- What every operation of the evaluator keeps. -/
structure Invariant (good : Quantity K → Prop) : Prop where
  e : good (.ofValue Scalar.e)
  pi : good (.ofValue Scalar.pi)
  neg : ∀ q, good q → good q.neg
  abs : ∀ q, good q → good q.abs
  apply : ∀ (f : PlainFunction) q y, good q → f.result? q.value = some y → good (.ofValue y)
  same : ∀ {q s : Quantity K} {units : Context K}, good q →
    s.Computed (some q.dim) units → good s
  product : ∀ {q r s : Quantity K} {units : Context K}, good q → good r →
    s.Computed (q.dim.mul? r.dim) units → good s
  quotient : ∀ {q r s : Quantity K} {units : Context K}, good q → good r →
    s.Computed (q.dim.div? r.dim) units → good s
  power : ∀ {q s : Quantity K} {n : K} {units : Context K}, good q →
    s.Computed (q.dim.pow? n) units → good s

namespace Invariant

variable {good : Quantity K → Prop} {q r : Quantity K}

theorem applyPlain (inv : Invariant good) (f : PlainFunction) (hq : good q) :
    Outcome good (applyPlain f q) := by
  rw [applyPlain_eq]
  refine (Quantity.plainValue_outcome q _).bind ?_
  rintro _ rfl
  cases h : f.result? q.value with
  | none => exact id
  | some y => exact inv.apply f q y hq h

theorem applySigned (inv : Invariant good)
    (operation : Quantity K → Except (Fault K) (Quantity K))
    (h : Outcome good (operation q.abs)) : Outcome good (applySigned operation q) := by
  refine h.bind fun s hs => ?_
  split
  · exact inv.neg s hs
  · exact hs

theorem pow (inv : Invariant good) (hq : good q) (n : Quantity K) : Outcome good (q.pow n) :=
  (Quantity.pow_outcome q n).imp fun _ hs => inv.power hq hs

theorem attach (inv : Invariant good) (magnitude : Quantity K) (hq : good q) :
    Outcome good (attach magnitude q) :=
  (Quantity.plainValue_outcome magnitude _).bind fun x _ =>
    (Quantity.scale_outcome q x).imp fun _ hs => inv.same hq hs

/-- A production with its number of operands keeps what every operation keeps. -/
theorem reduce (inv : Invariant good) {p : Production} {qs : List (Quantity K)}
    (harity : p.arity? = some qs.length) (hqs : ∀ q ∈ qs, good q) :
    Outcome good (p.reduce qs) := by
  -- The number of operands leaves in each case the productions that take so many.
  match qs with
  | [] =>
    cases p <;> simp only [Production.arity?, List.length_nil, reduceCtorEq, Option.some.injEq,
      OfNat.ofNat_ne_zero, one_ne_zero] at harity
    · exact inv.e
    · exact inv.pi
  | [q] =>
    have hq : good q := hqs q List.mem_cons_self
    cases p <;> simp [Production.arity?] at harity
    case neg => exact inv.neg q hq
    case factorial => exact inv.applyPlain .factorial hq
    case signedFactorial => exact inv.applySigned _ (inv.applyPlain .factorial (inv.abs q hq))
    case sqrt => exact (Quantity.powScalar_outcome q _).imp fun _ hs => inv.power hq hs
    case log => exact inv.applyPlain .log hq
    case ln => exact inv.applyPlain .ln hq
    case number | signedNumber | unit => exact hq
  | [q, r] =>
    have hq : good q := hqs q List.mem_cons_self
    have hr : good r := hqs r (List.mem_cons_of_mem _ List.mem_cons_self)
    have hsame {x : Except (Fault K) (Quantity K)} {units : Context K}
        (h : Outcome (Quantity.Computed (some q.dim) units) x) : Outcome good x :=
      h.imp fun _ hs => inv.same hq hs
    cases p <;> simp [Production.arity?] at harity
    case convert =>
      refine (Quantity.toUnits_outcome q r.units).imp ?_
      rintro s ⟨_, rfl | hs⟩
      · exact hq
      · exact inv.same hq hs
    case add => exact hsame (Quantity.add_outcome q r)
    case sub => exact hsame (Quantity.sub_outcome q r)
    case mod => exact hsame (Quantity.mod_outcome q r)
    case mul => exact (Quantity.mul_outcome q r).imp fun _ hs => inv.product hq hr hs
    case div => exact (Quantity.div_outcome q r).imp fun _ hs => inv.quotient hq hr hs
    case pow | scaled | unitPow => exact inv.pow hq r
    case signedPow | signedScaled => exact inv.applySigned (·.pow r) (inv.pow (inv.abs q hq) r)
    case quantity | signedQuantity => exact inv.attach q hr
    case unitMul =>
      exact (Quantity.compoundMul_outcome q r).imp fun _ hs => inv.product hq hr hs
    case unitDiv =>
      exact (Quantity.compoundDiv_outcome q r).imp fun _ hs => inv.quotient hq hr hs
  | _ :: _ :: _ :: _ => cases p <;> simp [Production.arity?] at harity

theorem of_reduce (inv : Invariant good) {p : Production} {qs : List (Quantity K)}
    (hqs : ∀ q ∈ qs, good q) (h : p.reduce qs = .ok q) : good q := by
  by_cases harity : p.arity? = some qs.length
  · have hreduce := inv.reduce harity hqs
    rw [h] at hreduce
    exact hreduce
  · obtain ⟨text, herror⟩ := Production.reduce_of_arity_ne harity
    rw [h] at herror
    cases herror

end Invariant

/-! ## Trees -/

section Trees

variable {r : Registry K} {good : Quantity K → Prop}

/-- Whether all values that a tree has are good. -/
def AllGood (good : Quantity K → Prop) (r : Registry K) (t : Tree) : Prop :=
  ∀ qs, values r t = .ok qs → ∀ q ∈ qs, good q

theorem good_of_mem_operandValues {ts : List Tree} (h : ∀ t ∈ ts, AllGood good r t)
    {lists : List (List (Quantity K))} (hlists : operandValues r ts = .ok lists) :
    ∀ qs ∈ lists, ∀ q ∈ qs, good q := by
  induction ts generalizing lists with
  | nil =>
    cases hlists
    exact fun _ h => absurd h List.not_mem_nil
  | cons t ts ih =>
    rw [operandValues] at hlists
    cases hfirst : values r t with
    | error f =>
      rw [hfirst] at hlists
      cases hlists
    | ok first =>
      cases hrest : operandValues r ts with
      | error f =>
        rw [hfirst, hrest] at hlists
        cases hlists
      | ok rest =>
        rw [hfirst, hrest] at hlists
        cases hlists
        exact List.forall_mem_cons.mpr ⟨h t List.mem_cons_self first hfirst,
          ih (fun u hu => h u (List.mem_cons_of_mem t hu)) hrest⟩

/-- The step at a node: its operands have good values, and so does it. -/
theorem Invariant.allGood_node (inv : Invariant good) (p : Production) {children : List Tree}
    (h : ∀ t ∈ children, AllGood good r t) : AllGood good r (.node p children) := by
  intro qs hqs q hq
  have hnode : ∃ lists, operandValues r children = .ok lists ∧ p.reduceAll lists = .ok qs := by
    cases hlists : operandValues r children with
    | error f => cases p <;> simp only [values, hlists] at hqs <;> cases hqs
    | ok lists =>
      refine ⟨lists, rfl, ?_⟩
      cases p <;> simp only [values, hlists] at hqs
      case other => cases hqs
      all_goals exact hqs
  obtain ⟨lists, hlists, hreduce⟩ := hnode
  obtain ⟨ps, hps, hq⟩ := Survivors.mem_of_ofOutcomes hreduce hq
  obtain ⟨operands, hoperands, hvalue⟩ := List.mem_map.mp hps
  have hgood : ∀ s ∈ operands, good s := by
    intro s hs
    obtain ⟨list, hlist, hs⟩ := mem_of_mem_combinations hoperands s hs
    exact good_of_mem_operandValues h hlists list hlist s hs
  cases hs : p.reduce operands with
  | error f =>
    rw [hs] at hvalue
    cases hvalue
  | ok s =>
    rw [hs] at hvalue
    cases hvalue
    rw [List.mem_singleton.mp hq]
    exact inv.of_reduce hgood hs

mutual

/-- What the leaves have and every operation keeps, all values of every tree have. -/
theorem Invariant.allGood (inv : Invariant good)
    (hleaf : ∀ terminal text q, leafValue r terminal text = .ok q → good q) :
    ∀ t : Tree, AllGood good r t
  | .leaf terminal text => by
    intro qs hqs q hq
    rw [values] at hqs
    cases hvalue : leafValue r terminal text with
    | error f =>
      rw [hvalue] at hqs
      cases hqs
    | ok s =>
      rw [hvalue] at hqs
      cases hqs
      rw [List.mem_singleton.mp hq]
      exact hleaf terminal text s hvalue
  | .node p children => inv.allGood_node p (inv.allGood_of_mem hleaf children)
  | .choice trees => by
    intro qs hqs q hq
    rw [values, outcomes_eq_map] at hqs
    obtain ⟨ps, hps, hq⟩ := Survivors.mem_of_ofOutcomes hqs hq
    obtain ⟨t, ht, hvalues⟩ := List.mem_map.mp hps
    exact inv.allGood_of_mem hleaf trees t ht ps hvalues q hq

theorem Invariant.allGood_of_mem (inv : Invariant good)
    (hleaf : ∀ terminal text q, leafValue r terminal text = .ok q → good q) :
    ∀ ts : List Tree, ∀ t ∈ ts, AllGood good r t
  | [] => fun _ h => absurd h List.not_mem_nil
  | t :: ts => by
    intro u hu
    rcases List.mem_cons.mp hu with hu | hu
    · rw [hu]
      exact inv.allGood hleaf t
    · exact inv.allGood_of_mem hleaf ts u hu

end

end Trees

end UnitCalc.Expr
