import UnitCalc.Expr.Parser
import UnitCalc.Proofs.Grammar.Derivation

/-!
# Trees that tokens yield

The parser builds trees with choices in them, and the grammar derives trees without. Tokens
*yield* a tree of a category if every reading of the tree is derived from them, and it has
one. Yielding is closed under the shapes of rules, because the readings of a node are the
nodes of the readings of its children.
-/

namespace UnitCalc.Expr

open Grammar

namespace Tree

variable {p : Production} {l r t : Tree}

theorem mem_readings_one :
    t ∈ (node p [l]).readings ↔ ∃ a ∈ l.readings, t = .node p [a] := by
  simp only [readings, readingsOfAll, List.mem_map, List.mem_flatMap, List.mem_singleton]
  constructor
  · rintro ⟨_, ⟨a, ha, _, rfl, rfl⟩, rfl⟩
    exact ⟨a, ha, rfl⟩
  · rintro ⟨a, ha, rfl⟩
    exact ⟨_, ⟨a, ha, _, rfl, rfl⟩, rfl⟩

theorem mem_readings_two :
    t ∈ (node p [l, r]).readings ↔
      ∃ a ∈ l.readings, ∃ b ∈ r.readings, t = .node p [a, b] := by
  simp only [readings, readingsOfAll, List.mem_map, List.mem_flatMap, List.mem_singleton]
  constructor
  · rintro ⟨_, ⟨a, ha, _, ⟨b, hb, _, rfl, rfl⟩, rfl⟩, rfl⟩
    exact ⟨a, ha, b, hb, rfl⟩
  · rintro ⟨a, ha, b, hb, rfl⟩
    exact ⟨_, ⟨a, ha, _, ⟨b, hb, _, rfl, rfl⟩, rfl⟩, rfl⟩

theorem mem_readings_choice : t ∈ (choice [l, r]).readings ↔ t ∈ l.readings ∨ t ∈ r.readings := by
  simp [readings, readingsOfAny]

end Tree

/-- Every reading of the tree is derived from the tokens, and there is one. -/
def Yields (c : Category) (tokens : List Token) (tree : Tree) : Prop :=
  (∃ t, t ∈ tree.readings) ∧ ∀ t ∈ tree.readings, Derives c tokens t

/-- The tokens leave a place open: whatever yields a tree of category `d` there makes them
yield one of category `c`. -/
def Opens (c d : Category) (tokens : List Token) (complete : Tree → Tree) : Prop :=
  ∀ rest tree, Yields d rest tree → Yields c (tokens ++ rest) (complete tree)

namespace Yields

variable {c d d' : Category} {p : Production} {x y : Terminal} {t t' : Token}
  {a b : List Token} {l r : Tree}

theorem of_derives (h : Derives c a l) (hl : l.readings = [l]) : Yields c a l := by
  simp [Yields, hl, h]

theorem promoted (h : Yields d a l) (rule : ⟨c, [.category d], none⟩ ∈ rules) : Yields c a l :=
  ⟨h.1, fun t ht => .promoted rule (h.2 t ht)⟩

theorem between (hl : Yields d a l) (hr : Yields d' b r)
    (rule : ⟨c, [.category d, .terminal x, .category d'], some p⟩ ∈ rules)
    (ht : t.terminal = x) (hx : operand? t = none) :
    Yields c (a ++ t :: b) (.node p [l, r]) := by
  obtain ⟨⟨l', hl'⟩, hl⟩ := hl
  obtain ⟨⟨r', hr'⟩, hr⟩ := hr
  refine ⟨⟨_, Tree.mem_readings_two.mpr ⟨l', hl', r', hr', rfl⟩⟩, ?_⟩
  intro tree htree
  obtain ⟨l'', hl'', r'', hr'', rfl⟩ := Tree.mem_readings_two.mp htree
  exact .between rule ht hx (hl _ hl'') (hr _ hr'')

theorem beside (hl : Yields d a l) (hr : Yields d' b r)
    (rule : ⟨c, [.category d, .category d'], some p⟩ ∈ rules) :
    Yields c (a ++ b) (.node p [l, r]) := by
  obtain ⟨⟨l', hl'⟩, hl⟩ := hl
  obtain ⟨⟨r', hr'⟩, hr⟩ := hr
  refine ⟨⟨_, Tree.mem_readings_two.mpr ⟨l', hl', r', hr', rfl⟩⟩, ?_⟩
  intro tree htree
  obtain ⟨l'', hl'', r'', hr'', rfl⟩ := Tree.mem_readings_two.mp htree
  exact .beside rule (hl _ hl'') (hr _ hr'')

theorem ended (hl : Yields d a l) (rule : ⟨c, [.category d, .terminal x], some p⟩ ∈ rules)
    (ht : t.terminal = x) (hx : operand? t = none) : Yields c (a ++ [t]) (.node p [l]) := by
  obtain ⟨⟨l', hl'⟩, hl⟩ := hl
  refine ⟨⟨_, Tree.mem_readings_one.mpr ⟨l', hl', rfl⟩⟩, ?_⟩
  intro tree htree
  obtain ⟨l'', hl'', rfl⟩ := Tree.mem_readings_one.mp htree
  exact .ended rule ht hx (hl _ hl'')

theorem headed (hl : Yields d a l) (rule : ⟨c, [.terminal x, .category d], some p⟩ ∈ rules)
    (ht : t.terminal = x) (hx : operand? t = none) : Yields c (t :: a) (.node p [l]) := by
  obtain ⟨⟨l', hl'⟩, hl⟩ := hl
  refine ⟨⟨_, Tree.mem_readings_one.mpr ⟨l', hl', rfl⟩⟩, ?_⟩
  intro tree htree
  obtain ⟨l'', hl'', rfl⟩ := Tree.mem_readings_one.mp htree
  exact .headed rule ht hx (hl _ hl'')

theorem unsigned (hl : Yields d a l) (rule : ⟨c, [.terminal x, .category d], none⟩ ∈ rules)
    (ht : t.terminal = x) (hx : operand? t = none) : Yields c (t :: a) l :=
  ⟨hl.1, fun tree htree => .unsigned rule ht hx (hl.2 tree htree)⟩

theorem enclosed (hl : Yields d a l)
    (rule : ⟨c, [.terminal x, .category d, .terminal y], none⟩ ∈ rules)
    (ht : t.terminal = x) (hx : operand? t = none) (ht' : t'.terminal = y)
    (hy : operand? t' = none) : Yields c (t :: (a ++ [t'])) l :=
  ⟨hl.1, fun tree htree => .enclosed rule ht hx ht' hy (hl.2 tree htree)⟩

theorem choice (hl : Yields c a l) (hr : Yields c a r) : Yields c a (.choice [l, r]) := by
  obtain ⟨l', hl'⟩ := hl.1
  refine ⟨⟨l', Tree.mem_readings_choice.mpr (.inl hl')⟩, ?_⟩
  intro tree htree
  rcases Tree.mem_readings_choice.mp htree with h | h
  · exact hl.2 tree h
  · exact hr.2 tree h

end Yields

theorem Opens.id (c : Category) : Opens c c [] (fun tree => tree) := fun _ _ h => h

theorem Opens.comp {c d e : Category} {a b : List Token} {f g : Tree → Tree}
    (hf : Opens c d a f) (hg : Opens d e b g) : Opens c e (a ++ b) (fun tree => f (g tree)) := by
  intro rest tree h
  rw [List.append_assoc]
  exact hf _ _ (hg _ _ h)

/-! ## Numerals -/

namespace Literal

variable {t : Token} {l : Literal}

/-- A numeral is a number, or a signed number if it has a sign. -/
theorem derives_of_ofToken? (h : ofToken? t = some l) :
    l.signed = false ∧ Derives .plainNumber [t] l.tree ∨
      l.signed = true ∧ Derives .signedNumber [t] l.tree := by
  have lone {c : Category} {p : Production} (rule : ⟨c, [.terminal t.terminal], some p⟩ ∈ rules) :
      Derives c [t] (.node p (operand? t).toList) := .lone rule rfl
  unfold ofToken? at h
  cases ht : t.terminal <;> simp only [ht] at h <;> cases h
  · exact .inl ⟨rfl, by simpa [operand?, ht, tree] using lone (by rw [ht]; decide)⟩
  · exact .inr ⟨rfl, by simpa [operand?, ht, tree] using lone (by rw [ht]; decide)⟩
  · exact .inr ⟨rfl, by simpa [operand?, ht, tree] using lone (by rw [ht]; decide)⟩

end Literal

end UnitCalc.Expr
