import Mathlib.Algebra.Group.Nat.Defs
import Mathlib.Data.List.Nodup
import UnitCalc.Proofs.Parser.Yield

/-!
# Choices and the number of readings

A tree whose choices are all between two different trees without choices has two readings for
every choice, and no reading twice.
-/

namespace UnitCalc.Expr.Tree

mutual

/-- The choices of a tree, from left to right, each as its readings. -/
def choices : Tree → List (List Tree)
  | .leaf _ _ => []
  | .node _ children => choicesOfAll children
  | .choice trees => trees :: choicesOfAll trees

/-- The choices of some trees in a row. -/
def choicesOfAll : List Tree → List (List Tree)
  | [] => []
  | tree :: trees => choices tree ++ choicesOfAll trees

end

@[simp] theorem choices_leaf (terminal : Terminal) (text : String) :
    (leaf terminal text).choices = [] := by
  rw [choices]

@[simp] theorem choices_node_nil (p : Production) : (node p []).choices = [] := by
  rw [choices, choicesOfAll]

@[simp] theorem choices_node_one (p : Production) (t : Tree) :
    (node p [t]).choices = t.choices := by
  rw [choices, choicesOfAll, choicesOfAll, List.append_nil]

@[simp] theorem choices_node_two (p : Production) (l r : Tree) :
    (node p [l, r]).choices = l.choices ++ r.choices := by
  rw [choices, choicesOfAll, choicesOfAll, choicesOfAll, List.append_nil]

theorem choices_choice_two (l r : Tree) :
    (choice [l, r]).choices = [l, r] :: (l.choices ++ r.choices) := by
  rw [choices, choicesOfAll, choicesOfAll, choicesOfAll, List.append_nil]

theorem choicesOfAll_eq_nil {ts : List Tree} (h : ∀ t ∈ ts, t.choices = []) :
    choicesOfAll ts = [] := by
  induction ts with
  | nil => rw [choicesOfAll]
  | cons t ts ih =>
    rw [choicesOfAll, h t List.mem_cons_self, ih fun u hu => h u (List.mem_cons_of_mem t hu)]
    rfl

/-- A derived tree has no choices. -/
theorem choices_of_derives {c : Grammar.Category} {ts : List Token} {t : Tree}
    (h : Grammar.Derives c ts t) : t.choices = [] := by
  refine h.shapeInduction ?promoted ?between ?beside ?ended ?headed ?unsigned ?enclosed ?lone
  case promoted | unsigned | enclosed => intros; assumption
  case between =>
    intro c d d' x p a b l r t _ _ _ hl _ hr
    rw [choices_node_two, hl, hr, List.append_nil]
  case beside =>
    intro c d d' p a b l r _ _ hl _ hr
    rw [choices_node_two, hl, hr, List.append_nil]
  case ended | headed =>
    intro c d x p a l t _ _ _ hl
    rw [choices_node_one, hl]
  case lone =>
    intro c x p t _ _
    unfold Grammar.operand?
    split <;> simp

/-- A choice between two different trees that hold no choices themselves. -/
def IsPair (readings : List Tree) : Prop :=
  ∃ l r, readings = [l, r] ∧ l.choices = [] ∧ r.choices = [] ∧ l ≠ r

mutual

theorem readings_of_choices_eq_nil : ∀ t : Tree, t.choices = [] → t.readings = [t]
  | .leaf _ _, _ => by rw [readings]
  | .node p children, h => by
    rw [choices] at h
    rw [readings, readingsOfAll_of_choices_eq_nil children h, List.map_singleton]
  | .choice trees, h => by
    rw [choices] at h
    cases h

theorem readingsOfAll_of_choices_eq_nil :
    ∀ ts : List Tree, choicesOfAll ts = [] → readingsOfAll ts = [ts]
  | [], _ => by rw [readingsOfAll]
  | t :: ts, h => by
    rw [choicesOfAll, List.append_eq_nil_iff] at h
    rw [readingsOfAll, readings_of_choices_eq_nil t h.1, readingsOfAll_of_choices_eq_nil ts h.2,
      List.flatMap_singleton, List.map_singleton]

end

theorem readings_choice_of_isPair {ts : List Tree} (h : IsPair ts) :
    (choice ts).readings = ts ∧ choicesOfAll ts = [] ∧ ts.length = 2 ∧ ts.Nodup := by
  obtain ⟨l, r, rfl, hl, hr, hne⟩ := h
  refine ⟨?_, ?_, rfl, by simpa using hne⟩
  · rw [readings, readingsOfAny_eq_flatMap]
    simp [readings_of_choices_eq_nil l hl, readings_of_choices_eq_nil r hr]
  · rw [choicesOfAll, choicesOfAll, choicesOfAll, hl, hr]
    rfl

mutual

theorem length_readings :
    ∀ t : Tree, (∀ c ∈ t.choices, IsPair c) → t.readings.length = 2 ^ t.choices.length
  | .leaf _ _, _ => by rw [readings, choices, List.length_singleton, List.length_nil, Nat.pow_zero]
  | .node p children, h => by
    rw [choices] at h ⊢
    rw [readings, List.length_map, length_readingsOfAll children h]
  | .choice trees, h => by
    rw [choices] at h
    obtain ⟨hreadings, hchoices, hlength, _⟩ :=
      readings_choice_of_isPair (h trees List.mem_cons_self)
    rw [hreadings, hlength, choices, hchoices, List.length_singleton, Nat.pow_one]

theorem length_readingsOfAll :
    ∀ ts : List Tree, (∀ c ∈ choicesOfAll ts, IsPair c) →
      (readingsOfAll ts).length = 2 ^ (choicesOfAll ts).length
  | [], _ => by
    rw [readingsOfAll, choicesOfAll, List.length_singleton, List.length_nil, Nat.pow_zero]
  | t :: ts, h => by
    rw [choicesOfAll] at h
    have ht := length_readings t fun c hc => h c (List.mem_append_left _ hc)
    have hts := length_readingsOfAll ts fun c hc => h c (List.mem_append_right _ hc)
    rw [readingsOfAll, choicesOfAll, List.length_append, Nat.pow_add, ← ht, ← hts]
    simp [List.length_flatMap]

end

mutual

theorem nodup_readings : ∀ t : Tree, (∀ c ∈ t.choices, IsPair c) → t.readings.Nodup
  | .leaf _ _, _ => by rw [readings]; exact List.nodup_singleton _
  | .node p children, h => by
    rw [choices] at h
    rw [readings]
    refine (nodup_readingsOfAll children h).map ?_
    intro a b hab
    cases hab
    rfl
  | .choice trees, h => by
    rw [choices] at h
    obtain ⟨hreadings, _, _, hnodup⟩ := readings_choice_of_isPair (h trees List.mem_cons_self)
    rw [hreadings]
    exact hnodup

theorem nodup_readingsOfAll :
    ∀ ts : List Tree, (∀ c ∈ choicesOfAll ts, IsPair c) → (readingsOfAll ts).Nodup
  | [], _ => by rw [readingsOfAll]; exact List.nodup_singleton _
  | t :: ts, h => by
    rw [choicesOfAll] at h
    have ht := nodup_readings t fun c hc => h c (List.mem_append_left _ hc)
    have hts := nodup_readingsOfAll ts fun c hc => h c (List.mem_append_right _ hc)
    rw [readingsOfAll, List.nodup_flatMap]
    refine ⟨fun first _ => hts.map (List.cons_injective), ?_⟩
    refine ht.imp ?_
    -- lists of readings with different heads are different
    intro a b hab list ha hb
    obtain ⟨_, _, rfl⟩ := List.mem_map.mp ha
    obtain ⟨_, _, h⟩ := List.mem_map.mp hb
    exact hab (List.cons.inj h).1.symm

end

end UnitCalc.Expr.Tree
