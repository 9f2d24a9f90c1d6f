import UnitCalc.Fault

/-!
# Calculations that end alike

Two runs are compared by what they end with: both have a result, and the results are related,
or both have a fault, and the faults are. What is related step by step is related as a whole.
What one run ends with can be tested, too, so that it can be computed for a fixed input.
-/

namespace UnitCalc

/-- Two calculations with related results, or with related faults. -/
def Alike {ε ε' α β : Type} (faults : ε → ε' → Prop) (results : α → β → Prop) :
    Except ε α → Except ε' β → Prop
  | .ok a, .ok b => results a b
  | .error f, .error g => faults f g
  | _, _ => False

namespace Alike

variable {ε ε' α β α' β' : Type} {faults faults' : ε → ε' → Prop} {results : α → β → Prop}
  {results' : α' → β' → Prop} {x : Except ε α} {y : Except ε' β}

theorem refl {faults : ε → ε → Prop} {results : α → α → Prop} (hfaults : ∀ f, faults f f)
    (hresults : ∀ a, results a a) (x : Except ε α) : Alike faults results x x := by
  cases x with
  | ok a => exact hresults a
  | error f => exact hfaults f

theorem imp {results' : α → β → Prop} (h : Alike faults results x y)
    (hfaults : ∀ f g, faults f g → faults' f g) (hresults : ∀ a b, results a b → results' a b) :
    Alike faults' results' x y := by
  match x, y, h with
  | .ok a, .ok b, h => exact hresults a b h
  | .error f, .error g, h => exact hfaults f g h

theorem bind_of_ok {f : α → Except ε α'} {g : β → Except ε' β'} (h : Alike faults results x y)
    (hf : ∀ a b, x = .ok a → y = .ok b → results a b → Alike faults results' (f a) (g b)) :
    Alike faults results' (x >>= f) (y >>= g) := by
  match x, y, h with
  | .ok a, .ok b, h => exact hf a b rfl rfl h
  | .error _, .error _, h => exact h

theorem bind {f : α → Except ε α'} {g : β → Except ε' β'} (h : Alike faults results x y)
    (hf : ∀ a b, results a b → Alike faults results' (f a) (g b)) :
    Alike faults results' (x >>= f) (y >>= g) :=
  h.bind_of_ok fun a b _ _ => hf a b

/-- Two calculations that start with the same one. -/
theorem bind_same {ε : Type} {faults : ε → ε → Prop} (hfaults : ∀ f, faults f f)
    (x : Except ε α) {f : α → Except ε α'} {g : α → Except ε β'}
    (h : ∀ a, Alike faults results' (f a) (g a)) :
    Alike faults results' (x >>= f) (x >>= g) :=
  (refl hfaults (fun _ => rfl) x).bind fun a _ hab => hab ▸ h a

theorem map {f : α → α'} {g : β → β'} (h : Alike faults results x y)
    (hf : ∀ a b, results a b → results' (f a) (g b)) :
    Alike faults results' (x.map f) (y.map g) := by
  match x, y, h with
  | .ok a, .ok b, h => exact hf a b h
  | .error _, .error _, h => exact h

theorem cases (h : Alike faults results x y) :
    (∃ a b, x = .ok a ∧ y = .ok b ∧ results a b) ∨
      ∃ f g, x = .error f ∧ y = .error g ∧ faults f g := by
  match x, y, h with
  | .ok a, .ok b, h => exact .inl ⟨a, b, rfl, rfl, h⟩
  | .error f, .error g, h => exact .inr ⟨f, g, rfl, rfl, h⟩

theorem exists_right {a : α} (h : Alike faults results x y) (hx : x = .ok a) :
    ∃ b, y = .ok b ∧ results a b := by
  rcases h.cases with ⟨a', b, hx', hy, hab⟩ | ⟨f, g, hx', _, _⟩
  · rw [hx] at hx'
    cases hx'
    exact ⟨b, hy, hab⟩
  · rw [hx] at hx'
    cases hx'

theorem exists_left {b : β} (h : Alike faults results x y) (hy : y = .ok b) :
    ∃ a, x = .ok a ∧ results a b := by
  rcases h.cases with ⟨a, b', hx, hy', hab⟩ | ⟨f, g, _, hy', _⟩
  · rw [hy] at hy'
    cases hy'
    exact ⟨a, hx, hab⟩
  · rw [hy] at hy'
    cases hy'

end Alike

/-! ## Kinds of faults -/

section Kinds

variable {K : Type}

/-- What sets faults apart, whatever their operands and texts are. -/
inductive Fault.Kind where
  | malformed
  | dimension
  | domain
  | unknownUnit
  | badNumeral
  | breakdown (cause : Breakdown)
deriving Repr, DecidableEq

/-- The kind of a fault. -/
def Fault.kind : Fault K → Fault.Kind
  | .unexpected _ _ _ | .unexpectedEnd _ => .malformed
  | .dimension _ => .dimension
  | .domain _ => .domain
  | .unknownUnit _ => .unknownUnit
  | .badNumeral _ => .badNumeral
  | .breakdown cause => .breakdown cause

theorem Fault.kind_eq_dimension_iff {f : Fault K} :
    f.kind = .dimension ↔ ∃ cause, f = .dimension cause := by
  cases f <;> simp [kind]

/-- Two faults of one kind. -/
def SameKind (f g : Fault K) : Prop := f.kind = g.kind

theorem SameKind.refl (f : Fault K) : SameKind f f := rfl

theorem SameKind.rulesOutReading {f g : Fault K} (h : SameKind f g) :
    f.rulesOutReading = g.rulesOutReading := by
  unfold SameKind at h
  cases f <;> cases g <;> cases h <;> rfl

end Kinds

/-! ## Tests -/

section Tests

variable {ε α : Type} {x : Except ε α}

/-- Whether a calculation has a result that passes a test. -/
def returns (x : Except ε α) (test : α → Bool) : Bool :=
  match x with
  | .ok a => test a
  | .error _ => false

/-- Whether a calculation has a fault that passes a test. -/
def throws (x : Except ε α) (test : ε → Bool) : Bool :=
  match x with
  | .ok _ => false
  | .error f => test f

theorem exists_of_returns {test : α → Bool} (h : returns x test = true) :
    ∃ a, x = .ok a ∧ test a = true := by
  cases x with
  | ok a => exact ⟨a, rfl, h⟩
  | error f => cases h

theorem exists_of_throws {test : ε → Bool} (h : throws x test = true) :
    ∃ f, x = .error f ∧ test f = true := by
  cases x with
  | ok a => cases h
  | error f => exact ⟨f, rfl, h⟩

end Tests

end UnitCalc
