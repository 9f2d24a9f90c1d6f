import UnitCalc.Proofs.Evaluator.Related
import UnitCalc.Proofs.Number.Reading
import UnitCalc.Proofs.Parser.SideBySide

/-!
# Values of signed literals

A literal with a sign is computed on its magnitude, and the sign is put in front of what comes
of it: of a power, of a factorial, of a number of units. So its value is that of the numeral
without the sign, with the sign in front. Products keep this, and a sum takes it back. Hence the
constructions of the parser keep the relation between the values of two trees.
-/

namespace UnitCalc.Expr

open UnitCalc.Quantity

variable {K : Type} [Scalar K]

/-! ## Operands -/

/-- A number that a decimal stands for, and the same number with a minus if `negative` holds. -/
def IsDecimal (negative : Bool) (q q' : Quantity K) : Prop :=
  ∃ digits exponent, q = .ofValue (Scalar.ofDecimal digits exponent) ∧ q' = q.withSign negative

section Operands

variable (laws : Scalar.SignLaws K) {negative : Bool} {q q' : Quantity K}

include laws

theorem IsDecimal.abs (h : IsDecimal negative q q') : q'.abs = q := by
  obtain ⟨digits, exponent, rfl, rfl⟩ := h
  cases negative with
  | false => exact congrArg Quantity.ofValue (laws.abs_ofDecimal digits exponent)
  | true => exact congrArg Quantity.ofValue (laws.abs_neg digits exponent)

theorem IsDecimal.isNegative (h : IsDecimal negative q q') :
    Scalar.isNegative q'.value = negative := by
  obtain ⟨digits, exponent, rfl, rfl⟩ := h
  cases negative with
  | false => exact laws.isNegative_ofDecimal digits exponent
  | true => exact laws.isNegative_neg digits exponent

/-- An operation on a literal with a sign is the operation on the numeral, with the sign. -/
theorem applySigned_isSigned (h : IsDecimal negative q q')
    (operation : Quantity K → Except (Fault K) (Quantity K)) :
    Alike SameKind (IsSigned negative) (operation q) (applySigned operation q') := by
  unfold applySigned
  rw [h.abs laws, h.isNegative laws]
  cases operation q with
  | error f => exact rfl
  | ok r => cases negative <;> exact rfl

theorem attach_isSigned (h : IsSigned negative q q') (units : Quantity K) :
    Alike SameKind (IsSigned negative) (attach q units) (attach q' units) := by
  obtain rfl := h
  unfold attach plainValue
  show Alike _ _ _ ((if q.isDimensionless then _ else _) >>= _)
  by_cases hplain : q.isDimensionless = true
  · rw [if_pos hplain, if_pos hplain]
    exact scale_isSigned laws negative units q.value
  · rw [if_neg hplain, if_neg hplain]
    exact rfl

end Operands

/-! ## Numerals -/

section Numerals

open Number.Numeral

variable {c : Char} {text signed : String}

theorem numeralValue_signed (laws : Scalar.SignLaws K) (hc : isSign c = true)
    (hsigned : signed.toList = c :: text.toList) (hplain : takeSign text.toList = ([], text.toList))
    (hnumeral : isNumeral text.toList = true) :
    Alike SameKind (fun x x' => ∃ digits exponent, x = Scalar.ofDecimal digits exponent ∧
        x' = Scalar.withSign (c == '-') x)
      (numeralValue text : Except (Fault K) K) (numeralValue signed) := by
  obtain ⟨reading, hread, hread', h⟩ := ofText?_signed hc hsigned hplain hnumeral
  unfold numeralValue
  rw [hread, hread']
  rcases h with ⟨digits, exponent, rfl⟩ | rfl | rfl
  · simp only [laws.isFinite_withSign]
    show Alike _ _ (if Scalar.isFinite (Scalar.ofDecimal digits exponent : K) then _ else _) _
    split
    · exact ⟨digits, exponent, rfl, rfl⟩
    · exact rfl
  · exact rfl
  · exact rfl

end Numerals

/-! ## Trees -/

open Number.Numeral in
/-- A numeral without a sign, and the literal with a sign in front of it. -/
structure Literal.Signs (c : Char) (l l' : Literal) : Prop where
  isSign : isSign c = true
  plain : l.signed = false
  signed : l'.signed = true
  terminal_ne : l.terminal ≠ .unit ∧ l'.terminal ≠ .unit
  text : l'.text.toList = c :: l.text.toList
  takeSign : takeSign l.text.toList = ([], l.text.toList)
  isNumeral : isNumeral l.text.toList = true

/-- The relation of the values of two trees. -/
def SideRelated (r : Registry K) (negative : Bool) : Side → Tree → Tree → Prop
  | .same => Related r Eq
  | .signed => Related r (IsSigned negative)

section Trees

variable (laws : Scalar.SignLaws K) (r : Registry K) {c : Char} {l l' : Literal}

include laws

theorem related_leaf (h : l.Signs c l') :
    Related r (IsDecimal (c == '-')) (.leaf l.terminal l.text) (.leaf l'.terminal l'.text) := by
  unfold Related
  rw [values, values]
  unfold leafValue
  rw [if_neg h.terminal_ne.1, if_neg h.terminal_ne.2]
  have hvalue := numeralValue_signed laws h.isSign h.text h.takeSign h.isNumeral
  have hquantity : Alike SameKind (IsDecimal (c == '-'))
      ((numeralValue l.text).map Quantity.ofValue : Except (Fault K) (Quantity K))
      ((numeralValue l'.text).map Quantity.ofValue) := by
    refine hvalue.map ?_
    rintro _ _ ⟨digits, exponent, rfl, rfl⟩
    exact ⟨digits, exponent, rfl, rfl⟩
  exact hquantity.map fun _ _ hq => .cons hq .nil

/-- The nodes of the numeral and of the literal. -/
theorem related_tree (h : l.Signs c l') :
    Related r (IsDecimal (c == '-')) l.tree l'.tree := by
  unfold Literal.tree
  rw [h.plain, h.signed]
  exact related_node_one (by simp) (by simp) (fun _ _ hq => hq) (related_leaf laws r h)

theorem related_literal (h : l.Signs c l') :
    Related r (IsSigned (c == '-')) l.tree l'.tree :=
  (related_tree laws r h).imp (fun _ _ => id) fun _ _ hqs =>
    hqs.imp fun _ _ ⟨_, _, _, hq⟩ => hq

theorem related_power {t t' : Tree} (h : l.Signs c l') (ht : Related r Eq t t') :
    Related r (IsSigned (c == '-')) (l.power t) (l'.power t') := by
  unfold Literal.power
  rw [h.plain, h.signed]
  refine related_node_two (by simp) (by simp) ?_ (related_tree laws r h) ht
  rintro q q' n _ hq rfl
  exact applySigned_isSigned laws hq (·.pow n)

theorem related_factorial (h : l.Signs c l') :
    Related r (IsSigned (c == '-')) l.factorial l'.factorial := by
  unfold Literal.factorial
  rw [h.plain, h.signed]
  refine related_node_one (by simp) (by simp) ?_ (related_tree laws r h)
  intro q q' hq
  exact applySigned_isSigned laws hq (applyPlain .factorial)

/-- Units behind a magnitude, where both trees have them. -/
theorem related_units {t t' : Tree} (h : l.Signs c l')
    (ht : Related r (IsSigned (c == '-')) t t') (u : Tree) :
    Related r (IsSigned (c == '-')) (.node (if l.signed then .signedQuantity else .quantity) [t, u])
      (.node (if l'.signed then .signedQuantity else .quantity) [t', u]) := by
  rw [h.plain, h.signed]
  refine related_node_two (by simp) (by simp) ?_ ht (related_refl u)
  rintro q q' units _ hq rfl
  exact attach_isSigned laws hq units

theorem related_quantity (h : l.Signs c l') (u : Tree) :
    Related r (IsSigned (c == '-')) (l.quantity u) (l'.quantity u) :=
  related_units laws r h (related_literal laws r h) u

theorem related_scaledQuantity (h : l.Signs c l') (k : Literal) (u : Tree) :
    Related r (IsSigned (c == '-')) (l.scaledQuantity k u) (l'.scaledQuantity k u) := by
  unfold Literal.scaledQuantity
  refine related_units laws r h ?_ u
  rw [h.plain, h.signed]
  refine related_node_two (by simp) (by simp) ?_ (related_tree laws r h) (related_refl k.tree)
  rintro q q' n _ hq rfl
  exact applySigned_isSigned laws hq (·.pow n)

theorem related_product {negative : Bool} {p : Production} {x : Terminal} {t t' u u' : Tree}
    (hp : (p, x) ∈ productSigns) (ht : Related r (IsSigned negative) t t')
    (hu : Related r Eq u u') :
    Related r (IsSigned negative) (.node p [t, u]) (.node p [t', u']) := by
  rcases mem_productSigns.mp hp with ⟨rfl, _⟩ | ⟨rfl, _⟩ | ⟨rfl, _⟩
  · refine related_node_two (by simp) (by simp) ?_ ht hu
    rintro q _ n _ rfl rfl
    exact mul_isSigned laws negative q n
  · refine related_node_two (by simp) (by simp) ?_ ht hu
    rintro q _ n _ rfl rfl
    exact div_isSigned laws negative q n
  · refine related_node_two (by simp) (by simp) ?_ ht hu
    rintro q _ n _ rfl rfl
    exact mod_isSigned laws negative q n

/-- A difference takes the sign back, and so does a sum where the sign is a plus. -/
theorem related_sum {t t' u u' : Tree} (negative : Bool) (ht : Related r Eq t t')
    (hu : Related r (IsSigned negative) u u') :
    Related r Eq (.node (if negative then .sub else .add) [t, u]) (.node .add [t', u']) := by
  cases negative with
  | false =>
    refine related_node_two (by simp) (by simp) ?_ ht hu
    rintro q _ n _ rfl rfl
    exact Alike.refl SameKind.refl (fun _ => rfl) (q.add n)
  | true =>
    refine related_node_two (by simp) (by simp) ?_ ht hu
    rintro q _ n _ rfl rfl
    exact sub_alike_add laws q n

/-- The constructions of the parser keep the relation between the values of two trees. -/
theorem mirrors (h : l.Signs c l') :
    Mirrors (SideRelated r (c == '-')) (if c == '-' then .sub else .add) l l' where
  plain := h.plain
  signed := h.signed
  refl := related_refl
  node := related_node_same _
  choice {side} _ _ hts := by cases side <;> exact related_choice hts
  product := related_product laws r
  sum := related_sum laws r (c == '-')
  literal := related_literal laws r h
  power := related_power laws r h
  factorial := related_factorial laws r h
  quantity := related_quantity laws r h
  scaledQuantity := related_scaledQuantity laws r h

end Trees

end UnitCalc.Expr
