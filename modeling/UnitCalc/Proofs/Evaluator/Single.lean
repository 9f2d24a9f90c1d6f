import UnitCalc.Proofs.Evaluator.WellFormed

/-!
# Trees without choices

A tree without choices has one value or none. Its evaluation is the plain one: the operands
are evaluated from left to right, and the production is applied to their values.
-/

namespace UnitCalc.Expr

variable {K : Type}

theorem Survivors.ofOutcomes_singleton (x : Except (Fault K) (Quantity K)) :
    ofOutcomes [x.map ([·])] = x.map ([·]) := by
  cases x with
  | ok q => rfl
  | error f =>
    simp only [ofOutcomes, Except.map, List.foldlM_cons, List.foldlM_nil, count]
    cases f.rulesOutReading <;> rfl

theorem combinations_singletons {α : Type} (xs : List α) :
    combinations (xs.map ([·])) = [xs] := by
  induction xs with
  | nil => rfl
  | cons x xs ih => simp [combinations, ih]

variable [Scalar K]

theorem Production.reduceAll_singletons (p : Production) (qs : List (Quantity K)) :
    p.reduceAll (qs.map ([·])) = (p.reduce qs).map ([·]) := by
  rw [Production.reduceAll, combinations_singletons]
  exact Survivors.ofOutcomes_singleton _

variable {r : Registry K}

/-- A production of the grammar reduces the values of its operands. -/
theorem values_node {p : Production} {n : Nat} (hp : p.arity? = some n) (children : List Tree) :
    values r (.node p children) = operandValues r children >>= p.reduceAll := by
  cases p with
  | other name => cases hp
  | _ => simp only [values]

theorem evaluate_eq_of_values {t : Tree} {x : Except (Fault K) (Quantity K)}
    (h : values r t = x.map ([·])) : evaluate r t = x := by
  rw [evaluate, h]
  cases x <;> rfl

theorem evaluate_leaf (terminal : Terminal) (text : String) :
    evaluate r (.leaf terminal text) = leafValue r terminal text :=
  evaluate_eq_of_values (by rw [values])

theorem operandValues_of_single {trees : List Tree}
    (h : ∀ t ∈ trees, values r t = (evaluate r t).map ([·])) :
    operandValues r trees = (trees.mapM (evaluate r)).map (List.map ([·])) := by
  induction trees with
  | nil => rfl
  | cons t trees ih =>
    have hrest := ih fun u hu => h u (List.mem_cons_of_mem t hu)
    rw [operandValues, h t List.mem_cons_self, hrest, List.mapM_cons]
    cases evaluate r t with
    | error f => rfl
    | ok q => cases trees.mapM (evaluate r) <;> rfl

/-- The operands of a node that have one value each are reduced once. -/
theorem values_node_of_single {p : Production} {n : Nat} (hp : p.arity? = some n)
    {children : List Tree} (h : ∀ t ∈ children, values r t = (evaluate r t).map ([·])) :
    values r (.node p children) = (children.mapM (evaluate r) >>= p.reduce).map ([·]) := by
  rw [values_node hp, operandValues_of_single h]
  cases children.mapM (evaluate r) with
  | error f => rfl
  | ok qs => exact p.reduceAll_singletons qs

mutual

/-- A tree without choices has one value or none. -/
theorem values_of_choices_eq_nil : ∀ t : Tree, WellFormed r t → t.choices = [] →
    values r t = (evaluate r t).map ([·])
  | .leaf terminal text, _, _ => by rw [evaluate_leaf, values]
  | .node p children, ⟨hp, hchildren⟩, h => by
    rw [Tree.choices] at h
    have hnode := values_node_of_single hp (allValues_of_choices_eq_nil children hchildren h)
    rw [evaluate_eq_of_values hnode, hnode]
  | .choice trees, _, h => by
    rw [Tree.choices] at h
    cases h

theorem allValues_of_choices_eq_nil : ∀ ts : List Tree, AllWellFormed r ts →
    Tree.choicesOfAll ts = [] → ∀ t ∈ ts, values r t = (evaluate r t).map ([·])
  | [], _, _ => fun _ h => absurd h List.not_mem_nil
  | t :: ts, ⟨ht, hts⟩, h => by
    rw [Tree.choicesOfAll, List.append_eq_nil_iff] at h
    intro u hu
    rcases List.mem_cons.mp hu with hu | hu
    · rw [hu]
      exact values_of_choices_eq_nil t ht h.1
    · exact allValues_of_choices_eq_nil ts hts h.2 u hu

end

/-- Without choices a node is its production applied to the values of its operands. -/
theorem evaluate_node {p : Production} {children : List Tree}
    (h : WellFormed r (.node p children)) (hchoices : Tree.choicesOfAll children = []) :
    evaluate r (.node p children) = children.mapM (evaluate r) >>= p.reduce :=
  evaluate_eq_of_values <|
    values_node_of_single h.1 (allValues_of_choices_eq_nil children h.2 hchoices)

end UnitCalc.Expr
