import UnitCalc.Proofs.Evaluator.Breakdown
import UnitCalc.Proofs.Evaluator.Finite

/-!
# Faults that are not reported

A calculation is meant to end with a quantity or with a fault that is reported. It does so
unless a conversion breaks down: a power of a unit's factor can be too large for a number,
and a factor that has become zero can be divided by. Nothing else goes unreported. The laws
of numbers that this rests on hold of doubles wherever their platform keeps numbers finite.
-/

namespace UnitCalc

open UnitCalc.Expr UnitCalc.Number

section Calculation

variable {K : Type} [Scalar K] {r : Registry K}

theorem evaluate_guarded (laws : Scalar.FiniteLaws K)
    (hr : ∀ spelling u, r.find? spelling = some u → Scalar.isFinite u.factor = true)
    {tree : Tree} (h : WellFormed r tree) :
    Guarded Quantity.IsFinite (BreaksDown r tree) (evaluate r tree) := by
  refine (values_guarded laws hr tree h).bind_safe ?_
  intro qs hqs
  cases qs with
  | nil => exact absurd rfl hqs.1
  | cons q qs => exact .of_ok (hqs.2 q List.mem_cons_self)

theorem parse_isReported {text : String} {f : Fault K} (h : parse r text = .error f) :
    f.isReported = true := by
  unfold parse at h
  split at h <;> cases h <;> rfl

/-- The tree of a text is well-formed. -/
theorem wellFormed_of_parse_text {text : String} {tree : Tree} (h : parse r text = .ok tree) :
    WellFormed r tree :=
  wellFormed_of_parse (parse_text_eq_ok_iff.mp h)

theorem isFinite_of_find? {records : List (UnitRecord K)}
    (hr : Registry.ofRecords records = .ok r) {spelling : String} {u : Unit K}
    (hu : r.find? spelling = some u) : Scalar.isFinite u.factor = true := by
  obtain ⟨record, _, rfl, hvalid⟩ := Registry.exists_record_of_find? hr hu
  simp only [Unit.validFactor, Bool.and_eq_true] at hvalid
  exact hvalid.2

/-- For every constructed registry and every text: the calculation ends with an unreported
fault exactly if the tree of the text breaks down, and then the fault is that of a conversion
whose factor is too large or zero. -/
theorem unreported_iff_breaksDown (laws : Scalar.FiniteLaws K) {records : List (UnitRecord K)}
    (hr : Registry.ofRecords records = .ok r) (text : String) :
    ((∃ f, calculate r text = .error f ∧ f.isReported = false) ↔
      ∃ tree, parse r text = .ok tree ∧ BreaksDown r tree) ∧
    ∀ f, calculate r text = .error f → f.isReported = false → f.OfConversion := by
  unfold calculate
  cases hparse : parse r text with
  | error f =>
    have hreported := parse_isReported hparse
    refine ⟨iff_of_false ?_ ?_, ?_⟩
    · rintro ⟨g, hg, hunreported⟩
      cases hg
      rw [hreported] at hunreported
      cases hunreported
    · rintro ⟨tree, htree, _⟩
      cases htree
    · intro g hg hunreported
      cases hg
      rw [hreported] at hunreported
      cases hunreported
  | ok tree =>
    have hguarded := evaluate_guarded laws (fun _ _ => isFinite_of_find? hr)
      (wellFormed_of_parse_text hparse)
    refine ⟨hguarded.unreported_iff.trans ⟨fun h => ⟨tree, rfl, h⟩, ?_⟩, ?_⟩
    · rintro ⟨_, ⟨⟩, h⟩
      exact h
    · intro f hf hunreported
      exact (hguarded.ofConversion hf hunreported).1

/-- Whether some records make a registry with which a text ends with an unreported fault. -/
def endsUnreported (records : List (UnitRecord K)) (text : String) : Bool :=
  match Registry.ofRecords records with
  | .error _ => false
  | .ok r =>
    match calculate r text with
    | .error f => !f.isReported
    | .ok _ => false

theorem exists_of_endsUnreported {records : List (UnitRecord K)} {text : String}
    (h : endsUnreported records text = true) :
    ∃ r f, Registry.ofRecords records = .ok r ∧ calculate r text = .error f ∧
      f.isReported = false := by
  unfold endsUnreported at h
  split at h
  · cases h
  · rename_i r hr
    split at h
    · rename_i f hf
      exact ⟨r, f, hr, hf, by simpa using h⟩
    · cases h

end Calculation

/-! ## Tiny units -/

/-- Units of length and mass, two of them so small that their product is zero as a double. -/
def tinyRecords : List (UnitRecord Float) := [
  ⟨.length, "u", "u", "u", 1, false, []⟩,
  ⟨.mass, "v", "v", "v", 1, false, []⟩,
  ⟨.length, "a", "a", "a", Scalar.ofDecimal 1 (-300), false, []⟩,
  ⟨.mass, "b", "b", "b", Scalar.ofDecimal 1 (-300), false, []⟩]

/-- What is converted to the product of the two is divided by zero. -/
theorem breaksDown_tinyUnits :
    letI := logarithmsOfOne.doubles
    logarithmsOfOne.Finite ∧ ∃ r tree, Registry.ofRecords tinyRecords = .ok r ∧
      parse r "1 u v -> a b" = .ok tree ∧ BreaksDown r tree := by
  let _ := logarithmsOfOne.doubles
  have hcheck : endsUnreported tinyRecords "1 u v -> a b" = true := by
    decide +kernel
  obtain ⟨r, f, hrecords, hf, hunreported⟩ := exists_of_endsUnreported hcheck
  obtain ⟨tree, htree, hbreaks⟩ :=
    (unreported_iff_breaksDown finite_logarithmsOfOne.finiteLaws hrecords _).1.mp
      ⟨f, hf, hunreported⟩
  exact ⟨finite_logarithmsOfOne, r, tree, hrecords, htree, hbreaks⟩

/-- On doubles, not every calculation ends with a quantity or a reported fault. -/
theorem exists_unreported : ¬ ∀ (records : List (UnitRecord Float)) (r : Registry Float),
    Registry.ofRecords records = .ok r →
      ∀ text f, calculate r text = .error f → f.isReported = true := by
  intro h
  have hcheck : endsUnreported tinyRecords "1 u v -> a b" = true := by
    decide +kernel
  obtain ⟨r, f, hrecords, hf, hunreported⟩ := exists_of_endsUnreported hcheck
  rw [h tinyRecords r hrecords _ f hf] at hunreported
  cases hunreported

end UnitCalc
