import UnitCalc.Proofs.Evaluator.Forest
import UnitCalc.Proofs.Evaluator.Invariant
import UnitCalc.Proofs.Number.Finite

/-!
# Nothing but finite numbers is stored

Some operations check their results, and others build a quantity without a check: a sign is
changed, a function is applied, a unit is looked up. All of them keep quantities finite, the
exponents of their dimensions included. So an overflow or an undefined result ends in a fault
and never in a value, at every node of every derivation tree.
-/

namespace UnitCalc

open UnitCalc.Expr UnitCalc.Number

section Laws

variable {K : Type} [Scalar K]

/-- Whether the exponents of a dimension are finite. -/
def Dimension.IsFinite (d : Dimension K) : Prop := ∀ a, Scalar.isFinite (d.get a) = true

/-- A quantity with a finite value and finite exponents. -/
structure Quantity.AllFinite (q : Quantity K) : Prop where
  value : Scalar.isFinite q.value = true
  dim : q.dim.IsFinite

/-- What keeps exponents finite: adding zero does, and the whole exponents of units are. -/
structure Scalar.ExponentLaws (K : Type) [Scalar K] : Prop where
  addZero : ∀ x : K, Scalar.isFinite x = true → Scalar.isFinite (Scalar.add x Scalar.zero) = true
  ofInt : ∀ n : Int, n.natAbs ≤ 3 → Scalar.isFinite (Scalar.ofInt n : K) = true

namespace Dimension

/-- Exponents that make a dimension have been checked. -/
theorem isFinite_of_ofExponents? (laws : Scalar.ExponentLaws K) {d e : Dimension K}
    (h : ofExponents? e = some d) : d.IsFinite := by
  obtain ⟨hfinite, rfl⟩ := ofExponents?_eq_some_iff.mp h
  intro a
  rw [PerAxis.get_map]
  exact laws.addZero _ (hfinite a)

theorem isFinite_ofInts (laws : Scalar.ExponentLaws K) {l m t : Int} (hl : l.natAbs ≤ 3)
    (hm : m.natAbs ≤ 3) (ht : t.natAbs ≤ 3) : (ofInts l m t : Dimension K).IsFinite := by
  intro a
  cases a with
  | length => exact laws.ofInt l hl
  | mass => exact laws.ofInt m hm
  | time => exact laws.ofInt t ht

theorem isFinite_zero (laws : Scalar.ExponentLaws K) : (zero : Dimension K).IsFinite :=
  isFinite_ofInts laws (by decide) (by decide) (by decide)

end Dimension

theorem Family.isFinite_dim (laws : Scalar.ExponentLaws K) (f : Family) :
    (f.dim : Dimension K).IsFinite := by
  cases f <;> exact Dimension.isFinite_ofInts laws (by decide) (by decide) (by decide)

/-- Every operation keeps quantities finite. -/
theorem allFinite_invariant (laws : Scalar.FiniteLaws K) (exponents : Scalar.ExponentLaws K) :
    Invariant (Quantity.AllFinite : Quantity K → Prop) where
  e := ⟨laws.e, Dimension.isFinite_zero exponents⟩
  pi := ⟨laws.pi, Dimension.isFinite_zero exponents⟩
  neg q hq := ⟨laws.neg q.value hq.value, hq.dim⟩
  abs q hq := ⟨laws.abs q.value hq.value, hq.dim⟩
  apply f _ _ hq h := ⟨laws.result? f hq.value h, Dimension.isFinite_zero exponents⟩
  same hq hs := ⟨hs.value, Option.some.inj hs.dim ▸ hq.dim⟩
  product _ _ hs := ⟨hs.value, Dimension.isFinite_of_ofExponents? exponents hs.dim⟩
  quotient _ _ hs := ⟨hs.value, Dimension.isFinite_of_ofExponents? exponents hs.dim⟩
  power _ hs := ⟨hs.value, Dimension.isFinite_of_ofExponents? exponents hs.dim⟩

/-- A leaf is a finite numeral or a unit of the registry. -/
theorem allFinite_of_leafValue (laws : Scalar.FiniteLaws K) (exponents : Scalar.ExponentLaws K)
    {records : List (UnitRecord K)} {r : Registry K} (hr : Registry.ofRecords records = .ok r)
    (terminal : Terminal) (text : String) (q : Quantity K)
    (h : leafValue r terminal text = .ok q) : q.AllFinite := by
  unfold leafValue at h
  split at h
  · cases hu : r.find? text with
    | none => simp [Registry.quantity?, hu] at h
    | some u =>
      simp only [Registry.quantity?, hu, Option.map_some, Except.ok.injEq] at h
      subst h
      obtain ⟨record, _, rfl, hvalid⟩ := Registry.exists_record_of_find? hr hu
      have hdim : record.unit.dim.IsFinite := record.family.isFinite_dim exponents
      simp only [Unit.validFactor, Bool.and_eq_true] at hvalid
      unfold Unit.quantity
      split
      · exact ⟨laws.one, hdim⟩
      · exact ⟨hvalid.2, hdim⟩
  · cases hx : (numeralValue text : Except (Fault K) K) with
    | error f =>
      rw [hx] at h
      cases h
    | ok x =>
      rw [hx] at h
      cases h
      exact ⟨isFinite_of_numeralValue hx, Dimension.isFinite_zero exponents⟩

end Laws

/-! ## Doubles -/

/-- Doubles keep exponents finite, on every platform. -/
theorem exponentLaws (p : Platform) :
    letI := p.doubles
    Scalar.ExponentLaws Float :=
  let _ := p.doubles
  { addZero := fun _ hx => isFinite_add_zero hx
    ofInt := fun _ hn => isFinite_ofInt hn }

/-- On a platform whose functions have finite results: for every constructed registry and
every derivation tree, all values at its root, and so the result of its evaluation, are finite
and have finite exponents. Since every node is the root of a tree, this is so at every node. -/
theorem values_allFinite (p : Platform) (laws : p.Finite) :
    letI := p.doubles
    ∀ (records : List (UnitRecord Float)) (r : Registry Float),
      Registry.ofRecords records = .ok r → ∀ t : Expr.Tree,
        (∀ qs, values r t = .ok qs → ∀ q ∈ qs, q.AllFinite) ∧
        ∀ q, evaluate r t = .ok q → q.AllFinite := by
  let _ := p.doubles
  intro records r hr t
  have hall := (allFinite_invariant laws.finiteLaws (exponentLaws p)).allGood
    (allFinite_of_leafValue laws.finiteLaws (exponentLaws p) hr) t
  refine ⟨hall, ?_⟩
  intro q hq
  obtain ⟨qs, hqs⟩ := evaluate_eq_ok_iff.mp hq
  exact hall _ hqs q List.mem_cons_self

/-- A platform that has no logarithms but those of one, and no factorials. -/
def logarithmsOfOne : Platform := ⟨fun _ => 0, fun _ => 0, fun _ => none⟩

theorem finite_logarithmsOfOne : logarithmsOfOne.Finite := by
  have hzero : (0 : Float).isFinite = true := by
    decide +kernel
  refine ⟨fun _ _ _ => hzero, fun _ _ _ => hzero, ?_⟩
  rintro x y _ ⟨⟩

/-- The meter alone. -/
def meterRecords : List (UnitRecord Float) := [⟨.length, "meter", "m", "m", 1, false, []⟩]

/-- The sum of `1e308 * 1e308 m` or `ln(1) m` and of `inf m`, `1e999 m` or `2 m`. Only one of
these six sums can be computed. -/
def overflowing : Expr.Tree :=
  let number (text : String) := Expr.Tree.node .number [.leaf .number text]
  let meters (magnitude : Expr.Tree) :=
    Expr.Tree.node .quantity [magnitude, .node .unit [.leaf .unit "m"]]
  .node .add [
    .choice [meters (.node .mul [number "1e308", number "1e308"]), meters (.node .ln [number "1"])],
    .choice [meters (number "inf"), meters (number "1e999"), meters (number "2")]]

/-- Whether some records make a registry with which a tree has one value and no more. -/
def hasOneValue {K : Type} [Scalar K] (records : List (UnitRecord K)) (t : Expr.Tree) : Bool :=
  match Registry.ofRecords records with
  | .error _ => false
  | .ok r =>
    match values r t with
    | .ok qs => qs.length == 1
    | .error _ => false

theorem exists_of_hasOneValue {K : Type} [Scalar K] {records : List (UnitRecord K)}
    {t : Expr.Tree} (h : hasOneValue records t = true) :
    ∃ r q, Registry.ofRecords records = .ok r ∧ values r t = .ok [q] := by
  unfold hasOneValue at h
  split at h
  · cases h
  · rename_i r hr
    split at h
    · rename_i qs hqs
      obtain ⟨q, rfl⟩ := List.length_eq_one_iff.mp (beq_iff_eq.mp h)
      exact ⟨r, q, hr, hqs⟩
    · cases h

/-- Its value is finite, and what overflows has no value. -/
theorem values_overflowing :
    letI := logarithmsOfOne.doubles
    logarithmsOfOne.Finite ∧ ∃ r q, Registry.ofRecords meterRecords = .ok r ∧
      values r overflowing = .ok [q] ∧ q.AllFinite := by
  let _ := logarithmsOfOne.doubles
  have hcheck : hasOneValue meterRecords overflowing = true := by
    decide +kernel
  obtain ⟨r, q, hr, hq⟩ := exists_of_hasOneValue hcheck
  have hall := (values_allFinite logarithmsOfOne finite_logarithmsOfOne _ r hr overflowing).1
  exact ⟨finite_logarithmsOfOne, r, q, hr, hq, hall [q] hq q (List.mem_singleton_self q)⟩

end UnitCalc
