import UnitCalc.Expr.Tree

/-!
# The order of readings

A reading comes of choosing one alternative of every choice that is met on the way. The
numbers of the chosen alternatives, from the root down and from left to right, tell readings
apart, and the list of readings is in their lexicographic order: where two readings first
choose differently, the one with the earlier alternative comes first. So what stands last in
a tree varies fastest.
-/

namespace UnitCalc.Expr.Tree

/-! ## Chosen alternatives -/

mutual

/-- `Chosen t choices a`: choosing these alternatives in the tree `t` leaves the reading `a`. -/
inductive Chosen : Tree → List Nat → Tree → Prop
  | leaf (terminal : Terminal) (text : String) :
      Chosen (.leaf terminal text) [] (.leaf terminal text)
  | node {p : Production} {children as : List Tree} {choices : List Nat}
      (h : ChosenAll children choices as) : Chosen (.node p children) choices (.node p as)
  | choice {trees : List Tree} {i : Nat} {t a : Tree} {choices : List Nat}
      (ht : trees[i]? = some t) (h : Chosen t choices a) :
      Chosen (.choice trees) (i :: choices) a

/-- The alternatives chosen in some trees in a row, those of the first tree first. -/
inductive ChosenAll : List Tree → List Nat → List Tree → Prop
  | nil : ChosenAll [] [] []
  | cons {t a : Tree} {ts as : List Tree} {choices others : List Nat}
      (h : Chosen t choices a) (hs : ChosenAll ts others as) :
      ChosenAll (t :: ts) (choices ++ others) (a :: as)

end

/-- Where two selections differ first, the first one chooses the earlier alternative. -/
def Before (choices others : List Nat) : Prop :=
  ∃ (common : List Nat) (i j : Nat) (rest rest' : List Nat),
    i < j ∧ choices = common ++ i :: rest ∧ others = common ++ j :: rest'

namespace Before

variable {choices others : List Nat}

theorem of_lt {i j : Nat} (h : i < j) (rest rest' : List Nat) :
    Before (i :: rest) (j :: rest') :=
  ⟨[], i, j, rest, rest', h, rfl, rfl⟩

theorem append_left (h : Before choices others) (start : List Nat) :
    Before (start ++ choices) (start ++ others) := by
  obtain ⟨common, i, j, rest, rest', hlt, rfl, rfl⟩ := h
  exact ⟨start ++ common, i, j, rest, rest', hlt, by simp, by simp⟩

theorem append_right (h : Before choices others) (behind behind' : List Nat) :
    Before (choices ++ behind) (others ++ behind') := by
  obtain ⟨common, i, j, rest, rest', hlt, rfl, rfl⟩ := h
  exact ⟨common, i, j, rest ++ behind, rest' ++ behind', hlt, by simp, by simp⟩

end Before

/-! ## All selections -/

mutual

/-- The readings of a tree, each with the alternatives that are chosen for it. -/
def selections : Tree → List (List Nat × Tree)
  | .leaf terminal text => [([], .leaf terminal text)]
  | .node p children => (selectionsOfAll children).map fun (choices, as) => (choices, .node p as)
  | .choice trees => selectionsOfAny 0 trees

/-- The selections for some trees in a row. -/
def selectionsOfAll : List Tree → List (List Nat × List Tree)
  | [] => [([], [])]
  | t :: ts => (selections t).flatMap fun (choices, a) =>
    (selectionsOfAll ts).map fun (others, as) => (choices ++ others, a :: as)

/-- The selections for any of some alternatives, which are numbered from `start`. -/
def selectionsOfAny (start : Nat) : List Tree → List (List Nat × Tree)
  | [] => []
  | t :: ts =>
    (selections t).map (fun (choices, a) => (start :: choices, a)) ++
      selectionsOfAny (start + 1) ts

end

mutual

theorem map_selections : ∀ t : Tree, (selections t).map (·.2) = t.readings
  | .leaf terminal text => by simp [selections, readings]
  | .node p children => by
    rw [selections, readings, ← map_selectionsOfAll children]
    simp [Function.comp_def]
  | .choice trees => by
    rw [selections, readings]
    exact map_selectionsOfAny 0 trees

theorem map_selectionsOfAll : ∀ ts : List Tree,
    (selectionsOfAll ts).map (·.2) = readingsOfAll ts
  | [] => by simp [selectionsOfAll, readingsOfAll]
  | t :: ts => by
    rw [selectionsOfAll, readingsOfAll, ← map_selections t, ← map_selectionsOfAll ts]
    simp [List.map_flatMap, List.flatMap_map, Function.comp_def]

theorem map_selectionsOfAny : ∀ (start : Nat) (ts : List Tree),
    (selectionsOfAny start ts).map (·.2) = readingsOfAny ts
  | _, [] => by simp [selectionsOfAny, readingsOfAny]
  | start, t :: ts => by
    rw [selectionsOfAny, readingsOfAny, ← map_selections t,
      ← map_selectionsOfAny (start + 1) ts]
    simp [Function.comp_def]

end

mutual

theorem mem_selections_iff : ∀ (t : Tree) (choices : List Nat) (a : Tree),
    (choices, a) ∈ selections t ↔ Chosen t choices a
  | .leaf terminal text, choices, a => by
    rw [selections, List.mem_singleton, Prod.mk.injEq]
    constructor
    · rintro ⟨rfl, rfl⟩
      exact .leaf terminal text
    · rintro ⟨⟩
      exact ⟨rfl, rfl⟩
  | .node p children, choices, a => by
    simp only [selections, List.mem_map, Prod.exists, Prod.mk.injEq]
    constructor
    · rintro ⟨choices, as, h, rfl, rfl⟩
      exact .node ((mem_selectionsOfAll_iff children choices as).mp h)
    · rintro ⟨⟩
      rename_i as h
      exact ⟨choices, as, (mem_selectionsOfAll_iff children choices as).mpr h, rfl, rfl⟩
  | .choice trees, choices, a => by
    rw [selections, mem_selectionsOfAny_iff 0 trees]
    constructor
    · rintro ⟨i, t, rest, ht, rfl, h⟩
      rw [Nat.zero_add]
      exact .choice ht h
    · rintro ⟨⟩
      rename_i i t rest ht h
      exact ⟨i, t, rest, ht, by rw [Nat.zero_add], h⟩

theorem mem_selectionsOfAll_iff : ∀ (ts : List Tree) (choices : List Nat) (as : List Tree),
    (choices, as) ∈ selectionsOfAll ts ↔ ChosenAll ts choices as
  | [], choices, as => by
    rw [selectionsOfAll, List.mem_singleton, Prod.mk.injEq]
    constructor
    · rintro ⟨rfl, rfl⟩
      exact .nil
    · rintro ⟨⟩
      exact ⟨rfl, rfl⟩
  | t :: ts, choices, as => by
    simp only [selectionsOfAll, List.mem_flatMap, List.mem_map, Prod.exists, Prod.mk.injEq]
    constructor
    · rintro ⟨choices, a, h, others, as, hs, rfl, rfl⟩
      exact .cons ((mem_selections_iff t choices a).mp h)
        ((mem_selectionsOfAll_iff ts others as).mp hs)
    · rintro ⟨⟩
      rename_i a as choices others h hs
      exact ⟨choices, a, (mem_selections_iff t choices a).mpr h, others, as,
        (mem_selectionsOfAll_iff ts others as).mpr hs, rfl, rfl⟩

theorem mem_selectionsOfAny_iff : ∀ (start : Nat) (ts : List Tree) (choices : List Nat)
    (a : Tree), (choices, a) ∈ selectionsOfAny start ts ↔
      ∃ i t rest, ts[i]? = some t ∧ choices = (start + i) :: rest ∧ Chosen t rest a
  | start, [], choices, a => by simp [selectionsOfAny]
  | start, t :: ts, choices, a => by
    simp only [selectionsOfAny, List.mem_append, List.mem_map, Prod.exists, Prod.mk.injEq,
      mem_selectionsOfAny_iff (start + 1) ts]
    constructor
    · rintro (⟨rest, a, h, rfl, rfl⟩ | ⟨i, u, rest, hu, rfl, h⟩)
      · exact ⟨0, t, rest, rfl, rfl, (mem_selections_iff t rest a).mp h⟩
      · exact ⟨i + 1, u, rest, hu, by rw [Nat.add_assoc, Nat.add_comm 1], h⟩
    · rintro ⟨i, u, rest, hu, rfl, h⟩
      cases i with
      | zero =>
        cases hu
        exact .inl ⟨rest, a, (mem_selections_iff t rest a).mpr h, rfl, rfl⟩
      | succ i =>
        exact .inr ⟨i, u, rest, hu, by rw [Nat.add_assoc, Nat.add_comm 1], h⟩

end

/-! ## Their order -/

theorem exists_le_of_mem_selectionsOfAny {start : Nat} {ts : List Tree}
    {selection : List Nat × Tree} (h : selection ∈ selectionsOfAny start ts) :
    ∃ j rest, start ≤ j ∧ selection.1 = j :: rest := by
  obtain ⟨i, _, rest, _, hchoices, _⟩ :=
    (mem_selectionsOfAny_iff start ts selection.1 selection.2).mp h
  exact ⟨start + i, rest, Nat.le_add_right _ _, hchoices⟩

mutual

theorem pairwise_selections : ∀ t : Tree,
    (selections t).Pairwise fun s s' => Before s.1 s'.1
  | .leaf _ _ => by
    rw [selections]
    exact List.pairwise_singleton _ _
  | .node _ children => by
    rw [selections, List.pairwise_map]
    exact pairwise_selectionsOfAll children
  | .choice trees => by
    rw [selections]
    exact pairwise_selectionsOfAny 0 trees

theorem pairwise_selectionsOfAll : ∀ ts : List Tree,
    (selectionsOfAll ts).Pairwise fun s s' => Before s.1 s'.1
  | [] => by
    rw [selectionsOfAll]
    exact List.pairwise_singleton _ _
  | t :: ts => by
    rw [selectionsOfAll, List.pairwise_flatMap]
    -- One choice in the first tree leaves the order of the rest; two decide between them.
    constructor
    · intro s _
      rw [List.pairwise_map]
      exact (pairwise_selectionsOfAll ts).imp fun h => h.append_left s.1
    · refine (pairwise_selections t).imp ?_
      intro s s' h x hx y hy
      obtain ⟨_, _, rfl⟩ := List.mem_map.mp hx
      obtain ⟨_, _, rfl⟩ := List.mem_map.mp hy
      exact h.append_right _ _

theorem pairwise_selectionsOfAny : ∀ (start : Nat) (ts : List Tree),
    (selectionsOfAny start ts).Pairwise fun s s' => Before s.1 s'.1
  | _, [] => by
    rw [selectionsOfAny]
    exact .nil
  | start, t :: ts => by
    rw [selectionsOfAny, List.pairwise_append]
    refine ⟨?_, pairwise_selectionsOfAny (start + 1) ts, ?_⟩
    · rw [List.pairwise_map]
      exact (pairwise_selections t).imp fun h => h.append_left [start]
    · intro x hx y hy
      obtain ⟨_, _, rfl⟩ := List.mem_map.mp hx
      obtain ⟨j, rest, hj, hchoices⟩ := exists_le_of_mem_selectionsOfAny hy
      rw [hchoices]
      exact .of_lt (by omega) _ _

end

/-- All readings of a tree with the alternatives chosen for each, in lexicographic order. -/
structure Enumerates (t : Tree) (selections : List (List Nat × Tree)) : Prop where
  mem_iff : ∀ choices a, (choices, a) ∈ selections ↔ Chosen t choices a
  ordered : selections.Pairwise fun s s' => Before s.1 s'.1

theorem enumerates_selections (t : Tree) : t.Enumerates (selections t) where
  mem_iff := mem_selections_iff t
  ordered := pairwise_selections t

end UnitCalc.Expr.Tree
