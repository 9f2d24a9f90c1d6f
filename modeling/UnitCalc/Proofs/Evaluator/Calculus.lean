import UnitCalc.Proofs.Alike
import UnitCalc.Proofs.Evaluator.Forest
import UnitCalc.Proofs.Evaluator.Invariant
import UnitCalc.Proofs.Quantity.Checks

/-!
# The calculus of dimensions

The dimension of an expression can be worked out without doing arithmetic on its quantities:
numbers have none, a unit has that of its family, and every production has a rule. Only an
exponent has to be evaluated, because it scales the dimension of its base. The evaluator checks
exactly these rules: a value has the dimension that the calculus gives, a fault of dimension
occurs where operands break a rule, and operands that break a rule end in no other way.
-/

namespace UnitCalc.Expr

variable {K : Type}

/-! ## Nodes -/

mutual

/-- A tree and all trees in it. -/
def Tree.nodes : Tree → List Tree
  | .leaf terminal text => [.leaf terminal text]
  | .node p children => .node p children :: Tree.nodesOfAll children
  | .choice trees => .choice trees :: Tree.nodesOfAll trees

/-- All trees in some trees, and these themselves. -/
def Tree.nodesOfAll : List Tree → List Tree
  | [] => []
  | tree :: trees => Tree.nodes tree ++ Tree.nodesOfAll trees

end

namespace Tree

theorem mem_nodes_self (t : Tree) : t ∈ t.nodes := by
  cases t <;> simp [nodes]

theorem mem_nodesOfAll {ts : List Tree} {s : Tree} :
    s ∈ nodesOfAll ts ↔ ∃ t ∈ ts, s ∈ t.nodes := by
  induction ts with
  | nil => simp [nodesOfAll]
  | cons t ts ih => simp [nodesOfAll, ih]

theorem choicesOfAll_eq_nil_iff {ts : List Tree} :
    choicesOfAll ts = [] ↔ ∀ t ∈ ts, t.choices = [] := by
  induction ts with
  | nil => simp [choicesOfAll]
  | cons t ts ih => simp [choicesOfAll, ih]

theorem choices_node_eq_nil_iff {p : Production} {ts : List Tree} :
    (node p ts).choices = [] ↔ ∀ t ∈ ts, t.choices = [] := by
  rw [choices, choicesOfAll_eq_nil_iff]

/-- What all leaves have, and every node if its children have, a tree without choices has. -/
theorem induction_of_choices {motive : (t : Tree) → t.choices = [] → Prop}
    (leaf : ∀ terminal text h, motive (.leaf terminal text) h)
    (node : ∀ p children h (hchildren : ∀ t ∈ children, t.choices = []),
      (∀ t ht, motive t (hchildren t ht)) → motive (.node p children) h)
    (t : Tree) (h : t.choices = []) : motive t h := by
  cases t with
  | leaf terminal text => exact leaf terminal text h
  | node p children =>
    have hchildren := choices_node_eq_nil_iff.mp h
    exact node p children h hchildren fun t ht =>
      induction_of_choices leaf node t (hchildren t ht)
  | choice trees =>
    rw [choices] at h
    cases h

/-- In a tree without choices no tree has choices. -/
theorem choices_of_mem_nodes {t : Tree} (h : t.choices = []) : ∀ s ∈ t.nodes, s.choices = [] := by
  induction t, h using induction_of_choices with
  | leaf terminal text h =>
    intro s hs
    rw [nodes, List.mem_singleton] at hs
    rw [hs, h]
  | node p children h hchildren ih =>
    intro s hs
    rw [nodes, List.mem_cons] at hs
    rcases hs with rfl | hs
    · exact h
    · obtain ⟨t, ht, hs⟩ := mem_nodesOfAll.mp hs
      exact ih t ht s hs

end Tree

variable [Scalar K]

/-! ## The rules -/

namespace Production

/-- Whether operands of some dimensions go together. Sums, differences and remainders need
equal dimensions; exponents, magnitudes of units and arguments of functions need none. -/
def permits (p : Production) (dims : List (Dimension K)) : Bool :=
  match p, dims with
  | .add, [d, d'] => d.eq d'
  | .sub, [d, d'] => d.eq d'
  | .mod, [d, d'] => d.eq d'
  | .pow, [_, n] => n.isZero
  | .signedPow, [_, n] => n.isZero
  | .scaled, [_, n] => n.isZero
  | .signedScaled, [_, n] => n.isZero
  | .unitPow, [_, n] => n.isZero
  | .factorial, [d] => d.isZero
  | .signedFactorial, [d] => d.isZero
  | .log, [d] => d.isZero
  | .ln, [d] => d.isZero
  | .quantity, [d, _] => d.isZero
  | .signedQuantity, [d, _] => d.isZero
  | _, _ => true

/-- The dimension that a production gives for those of its operands, and for the value of the
last one, which powers scale by. -/
def resultDim? (p : Production) (dims : List (Dimension K)) (exponent? : Option K) :
    Option (Dimension K) :=
  match p, dims with
  | .convert, [d, _] => some d
  | .add, [d, _] => some d
  | .sub, [d, _] => some d
  | .mod, [d, _] => some d
  | .mul, [d, d'] => d.mul? d'
  | .div, [d, d'] => d.div? d'
  | .neg, [d] => some d
  | .pow, [d, _] => exponent?.bind d.pow?
  | .signedPow, [d, _] => exponent?.bind d.pow?
  | .factorial, [_] => some .zero
  | .signedFactorial, [_] => some .zero
  | .sqrt, [d] => d.pow? Scalar.half
  | .log, [_] => some .zero
  | .ln, [_] => some .zero
  | .e, [] => some .zero
  | .pi, [] => some .zero
  | .number, [d] => some d
  | .signedNumber, [d] => some d
  | .quantity, [_, units] => some units
  | .signedQuantity, [_, units] => some units
  | .scaled, [d, _] => exponent?.bind d.pow?
  | .signedScaled, [d, _] => exponent?.bind d.pow?
  | .unit, [d] => some d
  | .unitMul, [d, d'] => d.mul? d'
  | .unitDiv, [d, d'] => d.div? d'
  | .unitPow, [d, _] => exponent?.bind d.pow?
  | _, _ => none

end Production

/-- The dimension of a leaf: that of the family of a unit, or none. -/
def leafDimension? (r : Registry K) (terminal : Terminal) (text : String) :
    Option (Dimension K) :=
  if terminal = .unit then do
    let u ← r.find? text
    let family ← Family.ofName? u.family
    some family.dim
  else some .zero

/-- The value of the last of some operands. -/
def lastValue? (r : Registry K) (operands : List Tree) : Option K := do
  let tree ← operands.getLast?
  let q ← (evaluate r tree).toOption
  some q.value

mutual

/-- The dimension of a tree, if all its operands go together. -/
def Tree.dimension? (r : Registry K) : Tree → Option (Dimension K)
  | .leaf terminal text => leafDimension? r terminal text
  | .node p children => do
    let dims ← Tree.dimensions? r children
    if p.permits dims then p.resultDim? dims (lastValue? r children) else none
  | .choice _ => none

/-- The dimensions of some trees in a row. -/
def Tree.dimensions? (r : Registry K) : List Tree → Option (List (Dimension K))
  | [] => some []
  | tree :: trees => do
    let dim ← Tree.dimension? r tree
    let dims ← Tree.dimensions? r trees
    some (dim :: dims)

end

/-! ## Reductions follow the rules -/

section Reductions

variable {p : Production} {q s : Quantity K}

theorem applyPlain_checked (f : PlainFunction) (q : Quantity K) :
    Checked q.dim.isZero (applyPlain f q) := by
  rw [applyPlain_eq]
  refine (q.plainValue_checked _).bind fun x => ?_
  cases f.result? x with
  | none => exact .of_domain _
  | some y => exact .of_ok _

theorem applySigned_checked (operation : Quantity K → Except (Fault K) (Quantity K))
    {passes : Bool} (h : Checked passes (operation q.abs)) :
    Checked passes (applySigned operation q) :=
  h.bind fun _ => .of_ok _

theorem attach_checked (magnitude units : Quantity K) :
    Checked magnitude.dim.isZero (attach magnitude units) :=
  (magnitude.plainValue_checked _).bind fun x => units.scale_checked x

theorem permits_of_arity_ne {dims : List (Dimension K)} (h : p.arity? ≠ some dims.length) :
    p.permits dims = true := by
  match dims with
  | [] => cases p <;> rfl
  | [_] => cases p <;> first | rfl | exact absurd rfl h
  | [_, _] => cases p <;> first | rfl | exact absurd rfl h
  | _ :: _ :: _ :: _ => cases p <;> rfl

/-- A production ends with a fault of dimension exactly if its operands break its rule. -/
theorem Production.reduce_checked (p : Production) (qs : List (Quantity K)) :
    Checked (p.permits (qs.map (·.dim))) (p.reduce qs) := by
  by_cases harity : p.arity? = some qs.length
  -- The number of operands leaves in each case the productions that take so many.
  · match qs with
    | [] =>
      cases p <;> simp only [arity?, List.length_nil, reduceCtorEq, Option.some.injEq,
        OfNat.ofNat_ne_zero, one_ne_zero] at harity
      case e | pi => exact .of_ok _
    | [q] =>
      cases p <;> simp [arity?] at harity
      case neg | number | signedNumber | unit => exact .of_ok _
      case factorial => exact applyPlain_checked .factorial q
      case signedFactorial => exact applySigned_checked _ (applyPlain_checked .factorial q.abs)
      case sqrt => exact q.powScalar_checked _
      case log => exact applyPlain_checked .log q
      case ln => exact applyPlain_checked .ln q
    | [q, r] =>
      cases p <;> simp [arity?] at harity
      case convert => exact q.toUnits_checked _
      case add => exact q.add_checked r
      case sub => exact q.sub_checked r
      case mul => exact q.mul_checked r
      case div => exact q.div_checked r
      case mod => exact q.mod_checked r
      case pow | scaled | unitPow => exact q.pow_checked r
      case signedPow | signedScaled =>
        exact applySigned_checked (·.pow r) (q.abs.pow_checked r)
      case quantity | signedQuantity => exact attach_checked q r
      case unitMul => exact q.compoundMul_checked r
      case unitDiv => exact q.compoundDiv_checked r
    | _ :: _ :: _ :: _ => cases p <;> simp [arity?] at harity
  · obtain ⟨text, herror⟩ := reduce_of_arity_ne harity
    rw [permits_of_arity_ne (by simpa using harity), herror]
    exact .of_breakdown _

theorem applyPlain_outcome (f : PlainFunction) (q : Quantity K) :
    Outcome (fun s => ∃ y, s = .ofValue y) (applyPlain f q) := by
  rw [applyPlain_eq]
  refine (q.plainValue_outcome _).bind fun x _ => ?_
  cases f.result? x with
  | none => exact id
  | some y => exact ⟨y, rfl⟩

/-- What holds of a result whatever its sign is not changed by the sign of a numeral. -/
theorem applySigned_outcome (operation : Quantity K → Except (Fault K) (Quantity K))
    {P : Quantity K → Prop} (hneg : ∀ s, P s → P s.neg) (h : Outcome P (operation q.abs)) :
    Outcome P (applySigned operation q) := by
  refine h.bind fun s hs => ?_
  split
  · exact hneg s hs
  · exact hs

theorem attach_outcome (magnitude units : Quantity K) :
    Outcome (Quantity.Computed (some units.dim) units.units) (attach magnitude units) :=
  (magnitude.plainValue_outcome _).bind fun x _ => units.scale_outcome x

/-- The result of a production has the dimension that its rule gives. -/
theorem Production.reduce_dim {p : Production} {qs : List (Quantity K)}
    (harity : p.arity? = some qs.length) :
    Outcome (fun s => p.resultDim? (qs.map (·.dim)) (qs.getLast?.map (·.value)) = some s.dim)
      (p.reduce qs) := by
  have hplain (f : PlainFunction) (q : Quantity K) :
      Outcome (fun s => some .zero = some s.dim) (applyPlain f q) :=
    (applyPlain_outcome f q).imp fun _ ⟨_, hs⟩ => hs ▸ rfl
  match qs with
  | [] =>
    cases p <;> simp only [arity?, List.length_nil, reduceCtorEq, Option.some.injEq,
      OfNat.ofNat_ne_zero, one_ne_zero] at harity
    case e | pi => exact rfl
  | [q] =>
    cases p <;> simp [arity?] at harity
    case neg | number | signedNumber | unit => exact rfl
    case factorial => exact hplain .factorial q
    case signedFactorial => exact applySigned_outcome _ (fun _ => id) (hplain .factorial q.abs)
    case sqrt => exact (q.powScalar_outcome _).imp fun _ hs => hs.dim
    case log => exact hplain .log q
    case ln => exact hplain .ln q
  | [q, r] =>
    have hpow (base : Quantity K) : Outcome (fun s => base.dim.pow? r.value = some s.dim)
        (base.pow r) := (base.pow_outcome r).imp fun _ hs => hs.dim
    cases p <;> simp [arity?] at harity
    case convert => exact (q.toUnits_outcome _).imp fun _ hs => congrArg some hs.1.symm
    case add => exact (q.add_outcome r).imp fun _ hs => hs.dim
    case sub => exact (q.sub_outcome r).imp fun _ hs => hs.dim
    case mul => exact (q.mul_outcome r).imp fun _ hs => hs.dim
    case div => exact (q.div_outcome r).imp fun _ hs => hs.dim
    case mod => exact (q.mod_outcome r).imp fun _ hs => hs.dim
    case pow | scaled | unitPow => exact hpow q
    case signedPow | signedScaled => exact applySigned_outcome (·.pow r) (fun _ => id) (hpow q.abs)
    case quantity | signedQuantity => exact (attach_outcome q r).imp fun _ hs => hs.dim
    case unitMul => exact (q.compoundMul_outcome r).imp fun _ hs => hs.dim
    case unitDiv => exact (q.compoundDiv_outcome r).imp fun _ hs => hs.dim
  | _ :: _ :: _ :: _ => cases p <;> simp [arity?] at harity

theorem Production.resultDim?_of_reduce {p : Production} {qs : List (Quantity K)}
    (h : p.reduce qs = .ok s) :
    p.resultDim? (qs.map (·.dim)) (qs.getLast?.map (·.value)) = some s.dim := by
  by_cases harity : p.arity? = some qs.length
  · have houtcome := reduce_dim harity
    rw [h] at houtcome
    exact houtcome
  · obtain ⟨text, herror⟩ := reduce_of_arity_ne harity
    rw [h] at herror
    cases herror

theorem Production.permits_of_reduce {p : Production} {qs : List (Quantity K)}
    (h : p.reduce qs = .ok s) : p.permits (qs.map (·.dim)) = true := by
  by_contra hpermits
  obtain ⟨cause, herror⟩ := (p.reduce_checked qs).mpr (by simpa using hpermits)
  rw [h] at herror
  cases herror

end Reductions

/-! ## Leaves follow the rules -/

/-- The name of a family is that of no other. -/
theorem Family.ofName?_name (family : Family) : Family.ofName? family.name = some family := by
  cases family <;> rfl

section Leaves

variable {records : List (UnitRecord K)} {r : Registry K} {terminal : Terminal} {text : String}

theorem leafDimension?_of_leafValue (hr : Registry.ofRecords records = .ok r) {q : Quantity K}
    (h : leafValue r terminal text = .ok q) : leafDimension? r terminal text = some q.dim := by
  unfold leafValue at h
  unfold leafDimension?
  by_cases hunit : terminal = .unit
  · rw [if_pos hunit] at h ⊢
    cases hu : r.find? text with
    | none => simp [Registry.quantity?, hu] at h
    | some u =>
      obtain ⟨record, _, rfl, _⟩ := Registry.exists_record_of_find? hr hu
      have hq : record.unit.quantity = q := by
        simpa [Registry.quantity?, hu] using h
      have hdim : q.dim = record.unit.dim := by
        rw [← hq]
        unfold Unit.quantity
        split <;> rfl
      rw [hdim]
      show (Family.ofName? record.family.name >>= fun family => some family.dim) = _
      rw [Family.ofName?_name]
      rfl
  · rw [if_neg hunit] at h ⊢
    cases hx : (numeralValue text : Except (Fault K) K) with
    | error f =>
      rw [hx] at h
      cases h
    | ok x =>
      rw [hx] at h
      cases h
      rfl

theorem leafValue_checked (r : Registry K) (terminal : Terminal) (text : String)
    (cause : DimensionFault K) : leafValue r terminal text ≠ .error (.dimension cause) := by
  unfold leafValue
  split
  · split <;> simp
  · unfold numeralValue
    split
    · simp [Except.map]
    · simp only
      split <;> simp [Except.map]
    · simp [Except.map]

end Leaves

/-! ## Trees follow the rules -/

section Trees

variable {records : List (UnitRecord K)} {r : Registry K} {p : Production}
  {children : List Tree} {qs : List (Quantity K)}

theorem plainEvaluateAll_eq_mapM {ts : List Tree} (h : ∀ t ∈ ts, t.choices = []) :
    plainEvaluateAll r ts = ts.mapM (evaluate r) := by
  induction ts with
  | nil => rfl
  | cons t ts ih =>
    rw [plainEvaluateAll, List.mapM_cons, ih fun u hu => h u (List.mem_cons_of_mem t hu),
      evaluate_eq_plainEvaluate (h t List.mem_cons_self)]
    rfl

/-- A node without choices is no production of the grammar, or its production reduces the
values of its operands. -/
theorem evaluate_node_of_choices (h : ∀ t ∈ children, t.choices = []) :
    (∃ name, p = .other name ∧
      evaluate r (.node p children) = .error (.breakdown (.unknownProduction name))) ∨
    evaluate r (.node p children) = children.mapM (evaluate r) >>= p.reduce := by
  have hnode : (Tree.node p children).choices = [] := by
    rw [Tree.choices, Tree.choicesOfAll_eq_nil h]
  rw [evaluate_eq_plainEvaluate hnode, ← plainEvaluateAll_eq_mapM h]
  by_cases hp : ∃ name, p = .other name
  · obtain ⟨name, rfl⟩ := hp
    exact .inl ⟨name, rfl, by rw [plainEvaluate]⟩
  · exact .inr (plainEvaluate_node p (fun name hname => hp ⟨name, hname⟩) children)

/-! ### Operands in a row -/

theorem mapM_evaluate_eq_ok {ts : List Tree} (h : ts.mapM (evaluate r) = .ok qs) :
    List.Forall₂ (fun t q => evaluate r t = .ok q) ts qs := by
  induction ts generalizing qs with
  | nil =>
    cases h
    exact .nil
  | cons t ts ih =>
    rw [List.mapM_cons] at h
    cases ht : evaluate r t with
    | error f =>
      rw [ht] at h
      cases h
    | ok q =>
      cases hts : ts.mapM (evaluate r) with
      | error f =>
        rw [ht, hts] at h
        cases h
      | ok qs' =>
        rw [ht, hts] at h
        cases h
        exact .cons ht (ih hts)

theorem mapM_evaluate_eq_error {ts : List Tree} {f : Fault K}
    (h : ts.mapM (evaluate r) = .error f) : ∃ t ∈ ts, evaluate r t = .error f := by
  induction ts with
  | nil => cases h
  | cons t ts ih =>
    rw [List.mapM_cons] at h
    cases ht : evaluate r t with
    | error g =>
      rw [ht] at h
      cases h
      exact ⟨t, List.mem_cons_self, ht⟩
    | ok q =>
      cases hts : ts.mapM (evaluate r) with
      | error g =>
        rw [ht, hts] at h
        cases h
        obtain ⟨u, hu, hf⟩ := ih hts
        exact ⟨u, List.mem_cons_of_mem t hu, hf⟩
      | ok qs' =>
        rw [ht, hts] at h
        cases h

theorem lastValue?_of_evaluate {ts : List Tree}
    (h : List.Forall₂ (fun t q => evaluate r t = .ok q) ts qs) :
    lastValue? r ts = qs.getLast?.map (·.value) := by
  induction h with
  | nil => rfl
  | @cons t q ts qs ht hts ih =>
    cases hts with
    | nil => simp [lastValue?, ht, Except.toOption]
    | cons => simpa [lastValue?, List.getLast?_cons_cons] using ih

theorem exists_value_of_mem {ts : List Tree} {t : Tree}
    (h : List.Forall₂ (fun t q => evaluate r t = .ok q) ts qs) (ht : t ∈ ts) :
    ∃ q, evaluate r t = .ok q := by
  induction h with
  | nil => cases ht
  | cons hq _ ih =>
    rcases List.mem_cons.mp ht with rfl | ht
    · exact ⟨_, hq⟩
    · exact ih ht

/-- The dimensions of operands that the calculus agrees on. -/
theorem dimensions?_of_evaluate {ts : List Tree}
    (h : List.Forall₂ (fun t q => evaluate r t = .ok q) ts qs)
    (hdim : ∀ t ∈ ts, ∀ q, evaluate r t = .ok q → t.dimension? r = some q.dim) :
    Tree.dimensions? r ts = some (qs.map (·.dim)) := by
  induction h with
  | nil => rw [Tree.dimensions?, List.map_nil]
  | @cons t q ts qs hq _ ih =>
    have hrest := ih fun u hu => hdim u (List.mem_cons_of_mem t hu)
    simp [Tree.dimensions?, hdim t List.mem_cons_self q hq, hrest]

/-- Operands that break the rule of a production leave its node without a dimension. -/
theorem dimension?_eq_none {dims : List (Dimension K)}
    (hdims : Tree.dimensions? r children = some dims) (hpermits : p.permits dims = false) :
    (Tree.node p children).dimension? r = none := by
  simp [Tree.dimension?, hdims, hpermits]

/-! ### Nodes -/

/-- A node with a value has operands with values, which its production reduces. -/
theorem exists_operands_of_evaluate (h : ∀ t ∈ children, t.choices = []) {q : Quantity K}
    (hq : evaluate r (.node p children) = .ok q) :
    ∃ qs, children.mapM (evaluate r) = .ok qs ∧ p.reduce qs = .ok q := by
  rcases evaluate_node_of_choices (r := r) (p := p) h with ⟨name, _, herror⟩ | hnode
  · rw [herror] at hq
    cases hq
  · rw [hnode] at hq
    cases hqs : children.mapM (evaluate r) with
    | error f =>
      rw [hqs] at hq
      cases hq
    | ok qs =>
      rw [hqs] at hq
      exact ⟨qs, rfl, hq⟩

/-- Operands with values end in a fault of dimension exactly if they break the rule. -/
theorem evaluate_node_checked (h : ∀ t ∈ children, t.choices = [])
    (hqs : children.mapM (evaluate r) = .ok qs) :
    Checked (p.permits (qs.map (·.dim))) (evaluate r (.node p children)) := by
  rcases evaluate_node_of_choices (r := r) (p := p) h with ⟨name, rfl, herror⟩ | hnode
  · rw [herror]
    exact .of_breakdown _
  · rw [hnode, hqs]
    exact p.reduce_checked qs

variable {t : Tree}

/-- If a tree has a value, the calculus gives its dimension. -/
theorem dimension?_of_evaluate (hr : Registry.ofRecords records = .ok r) (h : t.choices = []) :
    ∀ q, evaluate r t = .ok q → t.dimension? r = some q.dim := by
  induction t, h using Tree.induction_of_choices with
  | leaf terminal text =>
    intro q hq
    rw [evaluate_leaf] at hq
    rw [Tree.dimension?]
    exact leafDimension?_of_leafValue hr hq
  | node p children _ hchildren ih =>
    intro q hq
    obtain ⟨qs, hqs, hreduce⟩ := exists_operands_of_evaluate hchildren hq
    have hvalues := mapM_evaluate_eq_ok hqs
    rw [Tree.dimension?, dimensions?_of_evaluate hvalues ih]
    simp [Production.permits_of_reduce hreduce, lastValue?_of_evaluate hvalues,
      Production.resultDim?_of_reduce hreduce]

/-- If a tree has a value, all trees in it have. -/
theorem exists_value_of_mem_nodes (h : t.choices = []) {q : Quantity K}
    (hq : evaluate r t = .ok q) : ∀ s ∈ t.nodes, ∃ q', evaluate r s = .ok q' := by
  induction t, h using Tree.induction_of_choices generalizing q with
  | leaf terminal text =>
    intro s hs
    rw [Tree.nodes, List.mem_singleton] at hs
    exact ⟨q, hs ▸ hq⟩
  | node p children _ hchildren ih =>
    intro s hs
    rw [Tree.nodes, List.mem_cons] at hs
    rcases hs with rfl | hs
    · exact ⟨q, hq⟩
    · obtain ⟨qs, hqs, _⟩ := exists_operands_of_evaluate hchildren hq
      obtain ⟨t, ht, hs⟩ := Tree.mem_nodesOfAll.mp hs
      obtain ⟨q', hq'⟩ := exists_value_of_mem (mapM_evaluate_eq_ok hqs) ht
      exact ih t ht hq' s hs

/-- A fault of dimension occurs where operands with values break a rule. -/
theorem exists_broken_rule (h : t.choices = []) {cause : DimensionFault K}
    (hcause : evaluate r t = .error (.dimension cause)) :
    ∃ p children qs, .node p children ∈ t.nodes ∧
      children.mapM (evaluate r) = .ok qs ∧ p.permits (qs.map (·.dim)) = false := by
  induction t, h using Tree.induction_of_choices with
  | leaf terminal text =>
    rw [evaluate_leaf] at hcause
    exact absurd hcause (leafValue_checked r terminal text cause)
  | node p children _ hchildren ih =>
    cases hqs : children.mapM (evaluate r) with
    | ok qs =>
      exact ⟨p, children, qs, Tree.mem_nodes_self _, hqs,
        (evaluate_node_checked hchildren hqs).mp ⟨cause, hcause⟩⟩
    | error f =>
      rcases evaluate_node_of_choices (r := r) (p := p) hchildren with ⟨name, _, herror⟩ | hnode
      · rw [herror] at hcause
        cases hcause
      · rw [hnode, hqs] at hcause
        cases hcause
        obtain ⟨t, ht, herror⟩ := mapM_evaluate_eq_error hqs
        obtain ⟨p', children', qs, hmem, hbroken⟩ := ih t ht herror
        refine ⟨p', children', qs, ?_, hbroken⟩
        rw [Tree.nodes]
        exact List.mem_cons_of_mem _ (Tree.mem_nodesOfAll.mpr ⟨t, ht, hmem⟩)

/-- For every constructed registry and every tree without choices: if the tree has a value, the
calculus gives every tree in it the dimension of its value; if it ends with a fault of
dimension, some operands in it have dimensions that break the rule of their production; and
operands with values that break a rule always end so, and no others do. -/
theorem evaluate_checks_dimensions (hr : Registry.ofRecords records = .ok r)
    (h : t.choices = []) :
    (∀ q, evaluate r t = .ok q → t.dimension? r = some q.dim ∧
      ∀ s ∈ t.nodes, ∃ q', evaluate r s = .ok q' ∧ s.dimension? r = some q'.dim) ∧
    (∀ cause, evaluate r t = .error (.dimension cause) → ∃ p children dims,
      .node p children ∈ t.nodes ∧ Tree.dimensions? r children = some dims ∧
        p.permits dims = false ∧ (Tree.node p children).dimension? r = none) ∧
    ∀ p children qs, .node p children ∈ t.nodes → children.mapM (evaluate r) = .ok qs →
      Tree.dimensions? r children = some (qs.map (·.dim)) ∧
      ((∃ cause, evaluate r (.node p children) = .error (.dimension cause)) ↔
        p.permits (qs.map (·.dim)) = false) := by
  have hoperands {p : Production} {children : List Tree} {qs : List (Quantity K)}
      (hmem : .node p children ∈ t.nodes) (hqs : children.mapM (evaluate r) = .ok qs) :
      (∀ u ∈ children, u.choices = []) ∧
        Tree.dimensions? r children = some (qs.map (·.dim)) := by
    have hchildren := Tree.choices_node_eq_nil_iff.mp (Tree.choices_of_mem_nodes h _ hmem)
    exact ⟨hchildren, dimensions?_of_evaluate (mapM_evaluate_eq_ok hqs)
      fun u hu => dimension?_of_evaluate hr (hchildren u hu)⟩
  refine ⟨?_, ?_, ?_⟩
  · intro q hq
    refine ⟨dimension?_of_evaluate hr h q hq, ?_⟩
    intro s hs
    obtain ⟨q', hq'⟩ := exists_value_of_mem_nodes h hq s hs
    exact ⟨q', hq', dimension?_of_evaluate hr (Tree.choices_of_mem_nodes h s hs) q' hq'⟩
  · intro cause hcause
    obtain ⟨p, children, qs, hmem, hqs, hbroken⟩ := exists_broken_rule h hcause
    obtain ⟨_, hdims⟩ := hoperands hmem hqs
    exact ⟨p, children, _, hmem, hdims, hbroken, dimension?_eq_none hdims hbroken⟩
  · intro p children qs hmem hqs
    obtain ⟨hchildren, hdims⟩ := hoperands hmem hqs
    exact ⟨hdims, evaluate_node_checked hchildren hqs⟩

end Trees

/-! ## A length and a time -/

/-- A unit of length and one of time. -/
def meterAndSecond : List (UnitRecord Float) := [
  ⟨.length, "meter", "m", "m", 1, false, []⟩,
  ⟨.time, "second", "s", "s", 1, false, []⟩]

/-- In `(3 m + 2 s)^2` the sum breaks its rule. -/
theorem evaluate_checks_sum :
    ∃ r tree, Registry.ofRecords meterAndSecond = .ok r ∧
      UnitCalc.parse r "(3 m + 2 s)^2" = .ok tree ∧ tree.choices = [] ∧
      (∃ cause, evaluate r tree = .error (.dimension cause)) ∧
      ∃ p children dims, .node p children ∈ tree.nodes ∧
        Tree.dimensions? r children = some dims ∧ p.permits dims = false := by
  have hcheck : returns (Registry.ofRecords meterAndSecond) (fun r =>
      returns (UnitCalc.parse r "(3 m + 2 s)^2") fun tree =>
        tree.choices.isEmpty && throws (evaluate r tree) (·.kind == .dimension)) = true := by
    decide +kernel
  obtain ⟨r, hrecords, hcheck⟩ := exists_of_returns hcheck
  obtain ⟨tree, htree, hcheck⟩ := exists_of_returns hcheck
  rw [Bool.and_eq_true, List.isEmpty_iff] at hcheck
  obtain ⟨hchoices, hthrows⟩ := hcheck
  obtain ⟨f, hevaluate, hkind⟩ := exists_of_throws hthrows
  obtain ⟨cause, rfl⟩ := Fault.kind_eq_dimension_iff.mp (beq_iff_eq.mp hkind)
  obtain ⟨p, children, dims, hmem, hdims, hbroken, _⟩ :=
    (evaluate_checks_dimensions hrecords hchoices).2.1 cause hevaluate
  exact ⟨r, tree, hrecords, htree, hchoices, ⟨cause, hevaluate⟩, p, children, dims, hmem, hdims,
    hbroken⟩

end UnitCalc.Expr
