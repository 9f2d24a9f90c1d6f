import UnitCalc.Proofs.Number.Value
import UnitCalc.Quantity.Basic

/-!
# The layout of units

The text of units lists the axes with whole exponents as the exponents say: the positive ones by
decreasing exponent, then behind a slash the negative ones without their minus, the most negative
first. Equal exponents keep the order of length, mass and time. The sort is an insertion sort on
the axes, and it compares exponents only, so that it is stable.
-/

namespace UnitCalc

/-- Whether one base quantity is listed before another. -/
def Axis.IsBefore (a b : Axis) : Prop := all.idxOf a < all.idxOf b

instance (a b : Axis) : Decidable (a.IsBefore b) := inferInstanceAs (Decidable (_ < _))

theorem Axis.pairwise_all : Axis.all.Pairwise IsBefore := by
  decide

namespace Quantity

variable {n : Axis → ℤ} {axes above below : List Axis}

/-! ## Order -/

/-- Larger exponents first, and equal ones in the order of the axes. -/
def Precedes (n : Axis → ℤ) (a b : Axis) : Prop := n b < n a ∨ n b = n a ∧ a.IsBefore b

/-- Axes by decreasing exponent; equal exponents keep their order. -/
def byExponent (n : Axis → ℤ) (axes : List Axis) : List Axis :=
  axes.insertionSort fun a b => n b ≤ n a

theorem mem_byExponent {a : Axis} : a ∈ byExponent n axes ↔ a ∈ axes :=
  List.mem_insertionSort _

theorem byExponent_eq_nil_iff : byExponent n axes = [] ↔ axes = [] := by
  rw [← List.length_eq_zero_iff, byExponent, List.length_insertionSort, List.length_eq_zero_iff]

/-- One step: an axis that comes before all others is inserted in order. -/
theorem pairwise_orderedInsert {a : Axis} (h : axes.Pairwise (Precedes n))
    (ha : ∀ b ∈ axes, a.IsBefore b) :
    (axes.orderedInsert (fun a b => n b ≤ n a) a).Pairwise (Precedes n) := by
  induction axes with
  | nil => exact List.pairwise_singleton _ _
  | cons b rest ih =>
    obtain ⟨hb, hrest⟩ := List.pairwise_cons.mp h
    rw [List.orderedInsert_cons]
    split
    · rename_i hle
      refine List.pairwise_cons.mpr ⟨fun c hc => ?_, h⟩
      have hbefore := ha c hc
      have hnot : n c ≤ n a := by
        rcases List.mem_cons.mp hc with rfl | hc
        · exact hle
        · rcases hb c hc with hlt | ⟨heq, _⟩ <;> omega
      rcases hnot.lt_or_eq with hlt | heq
      · exact .inl hlt
      · exact .inr ⟨heq, hbefore⟩
    · rename_i hgt
      have htail := ih hrest fun c hc => ha c (List.mem_cons_of_mem _ hc)
      refine List.pairwise_cons.mpr ⟨fun c hc => ?_, htail⟩
      rcases (List.mem_orderedInsert _).mp hc with rfl | hc
      · exact .inl (by omega)
      · exact hb c hc

theorem pairwise_byExponent (h : axes.Pairwise Axis.IsBefore) :
    (byExponent n axes).Pairwise (Precedes n) := by
  induction axes with
  | nil => exact .nil
  | cons a rest ih =>
    obtain ⟨ha, hrest⟩ := List.pairwise_cons.mp h
    exact pairwise_orderedInsert (ih hrest) fun b hb => ha b (mem_byExponent.mp hb)

theorem nodup_of_pairwise (h : axes.Pairwise (Precedes n)) : axes.Nodup := by
  refine h.imp ?_
  rintro a _ (hlt | ⟨_, hbefore⟩) rfl
  · exact Int.lt_irrefl _ hlt
  · exact Nat.lt_irrefl _ hbefore

/-- Sorting parts of axes with whole exponents sorts the axes. -/
theorem sortParts_map {part : Axis → String × Float}
    (h : ∀ a, Scalar.toInt? (part a).2 = some (n a)) (axes : List Axis) :
    sortParts (axes.map part) = (byExponent n axes).map part := by
  have hinsert (a : Axis) (axes : List Axis) : insertPart (part a) (axes.map part) =
      (axes.orderedInsert (fun a b => n b ≤ n a) a).map part := by
    induction axes with
    | nil => rfl
    | cons b rest ih =>
      rw [List.map_cons, insertPart, List.orderedInsert_cons, ih]
      by_cases hlt : n a < n b
      · rw [if_pos ((Number.lt_iff_of_toInt? (h a) (h b)).mpr hlt), if_neg (by omega),
          List.map_cons]
      · rw [if_neg fun hpart => hlt ((Number.lt_iff_of_toInt? (h a) (h b)).mp hpart),
          if_pos (by omega), List.map_cons, List.map_cons]
  induction axes with
  | nil => rfl
  | cons a rest ih =>
    show insertPart (part a) (sortParts (rest.map part)) = _
    rw [ih, hinsert]
    rfl

/-! ## Text -/

/-- A symbol with a whole exponent, which is not written if it is one. -/
def factorText (symbol : String) (n : ℤ) : String :=
  if n = 1 then symbol else symbol ++ raisedText n

/-- The symbols of some axes with their exponents, joined by dots. -/
def factorsText (symbol : Axis → String) (n : Axis → ℤ) (axes : List Axis) : String :=
  "·".intercalate (axes.map fun a => factorText (symbol a) (n a))

/-- The text of units with some axes in front of a slash and others behind it. -/
def fractionText (symbol : Axis → String) (n : Axis → ℤ) (above below : List Axis) : String :=
  if below = [] then factorsText symbol n above
  else if above = [] then "1/" ++ factorsText symbol (fun a => -n a) below
  else factorsText symbol n above ++ "/" ++ factorsText symbol (fun a => -n a) below

theorem poweredText_of_toInt? {x : Float} {k : ℤ} (h : Scalar.toInt? x = some k) (symbol : String) :
    poweredText symbol x = factorText symbol k := by
  rw [poweredText, h]
  rfl

/-- Sorted parts of axes with whole exponents are the text of the sorted axes. -/
theorem productText_sortParts {symbol : Axis → String} {exponent : Axis → Float}
    (h : ∀ a, Scalar.toInt? (exponent a) = some (n a)) (axes : List Axis) :
    productText (sortParts (axes.map fun a => (symbol a, exponent a))) =
      factorsText symbol n (byExponent n axes) := by
  rw [sortParts_map h, productText, factorsText, List.map_map]
  exact congrArg _ (List.map_congr_left fun a _ => poweredText_of_toInt? (h a) _)

/-- Which axes stand where. -/
structure IsLayout (n : Axis → ℤ) (above below : List Axis) : Prop where
  mem_above : ∀ a, a ∈ above ↔ 0 < n a
  mem_below : ∀ a, a ∈ below ↔ n a < 0
  nodup_above : above.Nodup
  nodup_below : below.Nodup
  sorted_above : above.Pairwise (Precedes n)
  sorted_below : below.Pairwise (Precedes fun a => -n a)

/-- The exponents of a dimension are some integers. -/
def HasExponents (dim : Dimension Float) (n : Axis → ℤ) : Prop :=
  ∀ a, Scalar.toInt? (dim.get a) = some (n a)

/-- The axes with exponents of one kind, by decreasing exponent. -/
theorem layout_of_filter (n : Axis → ℤ) : IsLayout n
    (byExponent n (Axis.all.filter fun a => 0 < n a))
    (byExponent (fun a => -n a) (Axis.all.filter fun a => n a < 0)) where
  mem_above a := by simp [mem_byExponent, Axis.mem_all]
  mem_below a := by simp [mem_byExponent, Axis.mem_all]
  nodup_above := nodup_of_pairwise (pairwise_byExponent (Axis.pairwise_all.filter _))
  nodup_below := nodup_of_pairwise (pairwise_byExponent (Axis.pairwise_all.filter _))
  sorted_above := pairwise_byExponent (Axis.pairwise_all.filter _)
  sorted_below := pairwise_byExponent (Axis.pairwise_all.filter _)

/-- The text of units with whole exponents lists the axes so. -/
theorem unitsText_eq_fractionText {dim : Dimension Float} (h : HasExponents dim n)
    (units : Context Float) : ∃ above below, IsLayout n above below ∧
      unitsText dim units = fractionText (fun a => (units.get a).symbol) n above below := by
  refine ⟨_, _, layout_of_filter n, ?_⟩
  have hzero : Scalar.toInt? (Scalar.zero : Float) = some 0 := by
    decide +kernel
  have habove : (Axis.all.map fun a => ((units.get a).symbol, dim.get a)).filter
      (fun part => Scalar.lt Scalar.zero part.2) =
      (Axis.all.filter fun a => 0 < n a).map fun a => ((units.get a).symbol, dim.get a) := by
    rw [List.filter_map]
    refine congrArg _ (List.filter_congr fun a _ => ?_)
    rw [Function.comp_apply, Bool.eq_iff_iff, Number.lt_iff_of_toInt? hzero (h a),
      decide_eq_true_eq]
  have hbelow : ((Axis.all.map fun a => ((units.get a).symbol, dim.get a)).filter
      (fun part => Scalar.lt part.2 Scalar.zero)).map (fun part => (part.1, Scalar.neg part.2)) =
      (Axis.all.filter fun a => n a < 0).map
        fun a => ((units.get a).symbol, Scalar.neg (dim.get a)) := by
    rw [List.filter_map, List.map_map]
    refine congrArg (List.map _) (List.filter_congr fun a _ => ?_)
    rw [Function.comp_apply, Bool.eq_iff_iff, Number.lt_iff_of_toInt? (h a) hzero,
      decide_eq_true_eq]
  have hneg (a : Axis) : Scalar.toInt? (Scalar.neg (dim.get a)) = some (-n a) :=
    Number.toInt?_neg (h a)
  unfold unitsText fractionText
  simp only [habove, hbelow, List.isEmpty_map, List.isEmpty_iff, byExponent_eq_nil_iff]
  rw [productText_sortParts h, productText_sortParts hneg]

end Quantity

end UnitCalc
