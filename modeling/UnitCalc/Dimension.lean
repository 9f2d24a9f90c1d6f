import UnitCalc.Number.Written
import UnitCalc.Scalar

/-!
# Dimensions

A dimension says how a quantity scales with the base quantities: it is the vector of the
exponents of length, mass and time. Multiplying quantities adds their dimensions, dividing
them subtracts, and a power multiplies every exponent. Exponents are finite, and a sum or
multiple that is not has no dimension.
-/

namespace UnitCalc

/-! ## Axes -/

/-- The base quantities. -/
inductive Axis where
  | length
  | mass
  | time
deriving Repr, DecidableEq

namespace Axis

/-- The base quantities in the order in which they are listed and shown. -/
def all : List Axis := [.length, .mass, .time]

/-- The name of a base quantity. -/
def name : Axis → String
  | .length => "length"
  | .mass => "mass"
  | .time => "time"

/-- The letter of a base quantity. -/
def letter : Axis → String
  | .length => "L"
  | .mass => "M"
  | .time => "T"

theorem mem_all (a : Axis) : a ∈ all := by cases a <;> decide

end Axis

/-- One thing for each base quantity. -/
structure PerAxis (α : Type) where
  length : α
  mass : α
  time : α
deriving Repr, DecidableEq

namespace PerAxis

variable {α β γ : Type}

/-- The thing that belongs to a base quantity. -/
def get (p : PerAxis α) : Axis → α
  | .length => p.length
  | .mass => p.mass
  | .time => p.time

/-- Replaces the thing that belongs to a base quantity. -/
def set (p : PerAxis α) (x : α) : Axis → PerAxis α
  | .length => { p with length := x }
  | .mass => { p with mass := x }
  | .time => { p with time := x }

def map (f : α → β) (p : PerAxis α) : PerAxis β :=
  ⟨f p.length, f p.mass, f p.time⟩

def zipWith (f : α → β → γ) (p : PerAxis α) (q : PerAxis β) : PerAxis γ :=
  ⟨f p.length q.length, f p.mass q.mass, f p.time q.time⟩

def toList (p : PerAxis α) : List α :=
  [p.length, p.mass, p.time]

def all (f : α → Bool) (p : PerAxis α) : Bool :=
  f p.length && f p.mass && f p.time

/-! `get` is the view of `PerAxis`: it says what each operation does. -/

@[simp] theorem get_map (f : α → β) (p : PerAxis α) (a : Axis) :
    (p.map f).get a = f (p.get a) := by
  cases a <;> rfl

@[simp] theorem get_zipWith (f : α → β → γ) (p : PerAxis α) (q : PerAxis β) (a : Axis) :
    (p.zipWith f q).get a = f (p.get a) (q.get a) := by
  cases a <;> rfl

theorem get_set (p : PerAxis α) (x : α) (a b : Axis) :
    (p.set x a).get b = if b = a then x else p.get b := by
  cases a <;> cases b <;> rfl

theorem ext_get {p q : PerAxis α} (h : ∀ a, p.get a = q.get a) : p = q := by
  obtain ⟨l, m, t⟩ := p
  obtain ⟨l', m', t'⟩ := q
  simp only [mk.injEq]
  exact ⟨h .length, h .mass, h .time⟩

theorem all_iff {f : α → Bool} {p : PerAxis α} : p.all f = true ↔ ∀ a, f (p.get a) = true := by
  simp only [all, Bool.and_eq_true]
  constructor
  · intro h a
    cases a
    · exact h.1.1
    · exact h.1.2
    · exact h.2
  · intro h
    exact ⟨⟨h .length, h .mass⟩, h .time⟩

end PerAxis

/-! ## Dimensions -/

/-- The exponents of length, mass and time. -/
abbrev Dimension (K : Type) := PerAxis K

/-- Why numbers are not the exponents of a dimension. -/
inductive ExponentFault where
  | count
  | notFinite
deriving Repr, DecidableEq

/-- What is said of numbers that are not the exponents of a dimension. -/
def ExponentFault.message : ExponentFault → String
  | .count => "Dimension must have length 3 (L, M, T)."
  | .notFinite => "Dimension exponents must be finite."

namespace Dimension

variable {K : Type} [Scalar K]

/-- The dimension with given exponents, if they are finite. A negative zero becomes zero, so
that equal dimensions are shown alike. -/
def ofExponents? (exponents : PerAxis K) : Option (Dimension K) :=
  if exponents.all Scalar.isFinite then some (exponents.map (Scalar.add · Scalar.zero)) else none

/-- Finite exponents have a dimension, and no others do. -/
theorem ofExponents?_eq_some_iff {e : PerAxis K} {d : Dimension K} :
    ofExponents? e = some d ↔
      (∀ a, Scalar.isFinite (e.get a) = true) ∧ e.map (Scalar.add · Scalar.zero) = d := by
  simp only [ofExponents?, ← PerAxis.all_iff]
  split <;> simp_all

/-- The dimension with the exponents in a list, which are three in number and finite. -/
def ofList : List K → Except ExponentFault (Dimension K)
  | [length, mass, time] =>
    match ofExponents? ⟨length, mass, time⟩ with
    | some d => .ok d
    | none => .error .notFinite
  | _ => .error .count

/-- The dimension with whole exponents. -/
def ofInts (length mass time : Int) : Dimension K :=
  ⟨Scalar.ofInt length, Scalar.ofInt mass, Scalar.ofInt time⟩

/-- The dimension of plain numbers. -/
def zero : Dimension K := ofInts 0 0 0

/-- The dimension of a base quantity. -/
def ofAxis : Axis → Dimension K
  | .length => ofInts 1 0 0
  | .mass => ofInts 0 1 0
  | .time => ofInts 0 0 1

/-- Whether two dimensions have equal exponents. -/
def eq (d d' : Dimension K) : Bool :=
  (d.zipWith Scalar.eq d').all id

/-- Whether every exponent is zero. -/
def isZero (d : Dimension K) : Bool :=
  d.all Scalar.isZero

theorem eq_iff {d d' : Dimension K} :
    d.eq d' = true ↔ ∀ a, Scalar.eq (d.get a) (d'.get a) = true := by
  simp [eq, PerAxis.all_iff]

theorem isZero_iff {d : Dimension K} :
    d.isZero = true ↔ ∀ a, Scalar.isZero (d.get a) = true :=
  PerAxis.all_iff

/-- The base quantity whose dimension this is. -/
def axis? (d : Dimension K) : Option Axis :=
  Axis.all.find? fun a => d.eq (ofAxis a)

/-- The dimension of a product. -/
def mul? (d d' : Dimension K) : Option (Dimension K) :=
  ofExponents? (d.zipWith Scalar.add d')

/-- The dimension of a quotient. -/
def div? (d d' : Dimension K) : Option (Dimension K) :=
  ofExponents? (d.zipWith Scalar.sub d')

/-- The dimension of a power. -/
def pow? (d : Dimension K) (n : K) : Option (Dimension K) :=
  ofExponents? (d.map (Scalar.mul · n))

/-- One exponent in the text of a dimension: whole ones are written as integers. -/
def exponentText (x : K) : String :=
  match Scalar.toInt? x with
  | some n => Number.intText n
  | none => Scalar.fullText x

/-- The text of a dimension: every exponent that is not zero, with its letter. -/
def text (d : Dimension K) : String :=
  let parts := Axis.all.map fun a =>
    if Scalar.isZero (d.get a) then "" else s!"[{a.letter}^{exponentText (d.get a)}]"
  let shown := String.join parts
  if shown.isEmpty then "[1]" else shown

end Dimension

end UnitCalc
