import Mathlib.Data.List.Forall2
import Mathlib.Data.Option.Basic
import UnitCalc.Proofs.Evaluator.Forest
import UnitCalc.Proofs.Quantity.Sign

/-!
# Two trees with related values

Two trees are related if they end alike: with values that are related one by one, or with faults
of one kind. A node is related to another if its operands are, and if its production keeps the
relation for every two rows of operands. A choice is related to another if the readings are.
-/

namespace UnitCalc.Expr

/-! ## Rows -/

/-- Two rows whose places are related, each by a relation of its own. -/
inductive Rows {α β : Type} : List (α → β → Prop) → List α → List β → Prop
  | nil : Rows [] [] []
  | cons {R : α → β → Prop} {Rs : List (α → β → Prop)} {a : α} {b : β} {as : List α}
      {bs : List β} (h : R a b) (hs : Rows Rs as bs) : Rows (R :: Rs) (a :: as) (b :: bs)

section Rows

variable {α β : Type} {Rs : List (α → β → Prop)}

/-- The combinations of related lists are related, and there are as many. -/
theorem forall₂_combinations {lists : List (List α)} {lists' : List (List β)}
    (h : Rows (Rs.map List.Forall₂) lists lists') :
    List.Forall₂ (Rows Rs) (combinations lists) (combinations lists') := by
  induction Rs generalizing lists lists' with
  | nil =>
    cases h
    exact .cons .nil .nil
  | cons R Rs ih =>
    obtain _ | ⟨hfirst, hrest⟩ := h
    have hall := ih hrest
    unfold combinations
    refine List.rel_flatMap hfirst ?_
    intro a b hab
    rw [List.forall₂_map_left_iff, List.forall₂_map_right_iff]
    exact hall.imp fun _ _ hrow => .cons hab hrow

end Rows

/-! ## Survivors -/

variable {K : Type}

section Survivors

variable {R : Quantity K → Quantity K → Prop}

/-- Outcomes with related values. -/
abbrev RelatedValues (R : Quantity K → Quantity K → Prop) :
    Except (Fault K) (List (Quantity K)) → Except (Fault K) (List (Quantity K)) → Prop :=
  Alike SameKind (List.Forall₂ R)

namespace Survivors

/-- What is kept of related readings. -/
structure Related (R : Quantity K → Quantity K → Prop) (s s' : Survivors K) : Prop where
  values : List.Forall₂ R s.values s'.values
  ruledOut : Option.Rel SameKind s.ruledOut s'.ruledOut

/-- One step: a reading is counted in on both sides. -/
theorem Related.count {s s' : Survivors K} (hs : Related R s s')
    {x x' : Except (Fault K) (List (Quantity K))} (h : RelatedValues R x x') :
    Alike SameKind (Related R) (s.count x) (s'.count x') := by
  rcases h.cases with ⟨qs, qs', rfl, rfl, hqs⟩ | ⟨f, f', rfl, rfl, hf⟩
  · exact ⟨List.rel_append hs.values hqs, hs.ruledOut⟩
  · unfold Survivors.count
    simp only [← hf.rulesOutReading]
    split
    · refine ⟨hs.values, ?_⟩
      have hruledOut := hs.ruledOut
      generalize s.ruledOut = g at hruledOut ⊢
      generalize s'.ruledOut = g' at hruledOut ⊢
      cases hruledOut with
      | some hg => exact .some hg
      | none => exact .some hf
    · exact hf

/-- The whole run. -/
theorem Related.foldlM_count {s s' : Survivors K} (hs : Related R s s')
    {each each' : List (Except (Fault K) (List (Quantity K)))}
    (h : List.Forall₂ (RelatedValues R) each each') :
    Alike SameKind (Related R) (each.foldlM Survivors.count s)
      (each'.foldlM Survivors.count s') := by
  induction h generalizing s s' with
  | nil => exact hs
  | cons hx _ ih =>
    rw [List.foldlM_cons, List.foldlM_cons]
    exact (hs.count hx).bind fun _ _ hs => ih hs

theorem Related.result {s s' : Survivors K} (hs : Related R s s') :
    RelatedValues R s.result s'.result := by
  obtain ⟨values, ruledOut⟩ := s
  obtain ⟨values', ruledOut'⟩ := s'
  obtain ⟨hvalues, hruledOut⟩ := hs
  cases hvalues with
  | cons h hs => exact .cons h hs
  | nil =>
    cases hruledOut with
    | some h => exact h
    | none => exact rfl

theorem ofOutcomes_related {each each' : List (Except (Fault K) (List (Quantity K)))}
    (h : List.Forall₂ (RelatedValues R) each each') :
    RelatedValues R (ofOutcomes each) (ofOutcomes each') := by
  have hnone : Related R Survivors.none Survivors.none := ⟨.nil, .none⟩
  exact (hnone.foldlM_count h).bind fun _ _ hs => hs.result

end Survivors

end Survivors

/-! ## Trees -/

variable [Scalar K] (r : Registry K)

/-- The values of two trees are related. -/
def Related (R : Quantity K → Quantity K → Prop) (t t' : Tree) : Prop :=
  RelatedValues R (values r t) (values r t')

section Trees

variable {r : Registry K} {R : Quantity K → Quantity K → Prop}
  {Rs : List (Quantity K → Quantity K → Prop)} {p p' : Production} {t t' : Tree}
  {ts ts' : List Tree}

theorem related_refl (t : Tree) : Related r Eq t t :=
  Alike.refl SameKind.refl (fun _ => List.forall₂_same.mpr fun _ _ => rfl) (values r t)

theorem operandValues_related (h : Rows (Rs.map (Related r)) ts ts') :
    Alike SameKind (Rows (Rs.map List.Forall₂)) (operandValues r ts) (operandValues r ts') := by
  induction Rs generalizing ts ts' with
  | nil =>
    cases h
    exact .nil
  | cons R Rs ih =>
    obtain _ | ⟨hfirst, hrest⟩ := h
    unfold operandValues
    refine Alike.bind hfirst fun qs qs' hqs => ?_
    refine (ih hrest).bind fun lists lists' hlists => ?_
    exact .cons hqs hlists

/-- Two nodes are related if their productions keep the relations of their operands. -/
theorem related_node (hp : ∀ name, p ≠ .other name) (hp' : ∀ name, p' ≠ .other name)
    (hreduce : ∀ qs qs', Rows Rs qs qs' → Alike SameKind R (p.reduce qs) (p'.reduce qs'))
    (h : Rows (Rs.map (Related r)) ts ts') : Related r R (.node p ts) (.node p' ts') := by
  unfold Related
  rw [values_node_eq p hp, values_node_eq p' hp']
  have hcombined := (operandValues_related h).map fun _ _ hlists => forall₂_combinations hlists
  refine hcombined.bind fun rows rows' hrows => ?_
  refine Survivors.ofOutcomes_related ?_
  rw [List.forall₂_map_left_iff, List.forall₂_map_right_iff]
  refine hrows.imp fun qs qs' hqs => ?_
  exact (hreduce qs qs' hqs).map fun _ _ hab => .cons hab .nil

theorem related_node_one {Q : Quantity K → Quantity K → Prop}
    (hp : ∀ name, p ≠ .other name) (hp' : ∀ name, p' ≠ .other name)
    (hreduce : ∀ q q', Q q q' → Alike SameKind R (p.reduce [q]) (p'.reduce [q']))
    (h : Related r Q t t') : Related r R (.node p [t]) (.node p' [t']) := by
  have hrows : Rows ([Q].map (Related r)) [t] [t'] := .cons h .nil
  refine related_node hp hp' ?_ hrows
  rintro _ _ (_ | ⟨hq, ⟨⟩⟩)
  exact hreduce _ _ hq

theorem related_node_two {Q S : Quantity K → Quantity K → Prop} {u u' : Tree}
    (hp : ∀ name, p ≠ .other name) (hp' : ∀ name, p' ≠ .other name)
    (hreduce : ∀ q q' n n', Q q q' → S n n' →
      Alike SameKind R (p.reduce [q, n]) (p'.reduce [q', n']))
    (ht : Related r Q t t') (hu : Related r S u u') :
    Related r R (.node p [t, u]) (.node p' [t', u']) := by
  have hrows : Rows ([Q, S].map (Related r)) [t, u] [t', u'] := .cons ht (.cons hu .nil)
  refine related_node hp hp' ?_ hrows
  rintro _ _ (_ | ⟨hq, _ | ⟨hn, ⟨⟩⟩⟩)
  exact hreduce _ _ _ _ hq hn

/-- Operands with the same values make nodes with the same values. -/
theorem related_node_same (p : Production) (h : List.Forall₂ (Related r Eq) ts ts') :
    Related r Eq (.node p ts) (.node p ts') := by
  by_cases hp : ∃ name, p = .other name
  · obtain ⟨name, rfl⟩ := hp
    unfold Related
    rw [values, values]
    exact rfl
  · have hp : ∀ name, p ≠ .other name := fun name hname => hp ⟨name, hname⟩
    have hrows : Rows ((ts.map fun _ => Eq).map (Related r)) ts ts' := by
      induction h with
      | nil => exact .nil
      | cons h _ ih => exact .cons h ih
    have heq {Rs : List (Quantity K → Quantity K → Prop)} {qs qs' : List (Quantity K)}
        (hRs : ∀ R ∈ Rs, R = Eq) (hqs : Rows Rs qs qs') : qs = qs' := by
      induction hqs with
      | nil => rfl
      | cons h _ ih =>
        obtain rfl := hRs _ List.mem_cons_self
        rw [h, ih fun R hR => hRs R (List.mem_cons_of_mem _ hR)]
    refine related_node hp hp ?_ hrows
    intro qs qs' hqs
    obtain rfl := heq (by simp) hqs
    exact Alike.refl SameKind.refl (fun _ => rfl) _

theorem related_choice (h : List.Forall₂ (Related r R) ts ts') :
    Related r R (.choice ts) (.choice ts') := by
  unfold Related
  rw [values, values, outcomes_eq_map, outcomes_eq_map]
  refine Survivors.ofOutcomes_related ?_
  rw [List.forall₂_map_left_iff, List.forall₂_map_right_iff]
  exact h

/-- The value of a tree, too, is that of one with the same values. -/
theorem evaluate_of_related (h : Related r Eq t t') :
    Alike SameKind Eq (evaluate r t) (evaluate r t') := by
  unfold evaluate
  refine Alike.bind h fun qs qs' hqs => ?_
  obtain rfl := List.forall₂_eq_eq_eq ▸ hqs
  exact Alike.refl SameKind.refl (fun _ => rfl) _

end Trees

end UnitCalc.Expr
