import UnitCalc.Proofs.Parser.Completeness
import UnitCalc.Proofs.Parser.Soundness

/-!
# Expressions in brackets

The parser takes an expression in the same way whatever brackets are open around it: `State.inside`
puts more of them around a state, and the steps stay the same as long as the expression goes on.
So a group is read as the tree that its content is parsed as.
-/

namespace UnitCalc.Expr

open Grammar

namespace State

variable {outer : List Frame} {s s' : State} {t : Token} {ts : List Token}

/-- Whether a state is inside an expression, and not behind the arrow of a conversion. -/
def IsExpression : State → Prop
  | .expression _ _ _ => True
  | .conversion _ _ => False

/-- The state with more brackets open around it. -/
def inside (outer : List Frame) : State → State
  | .expression frames level progress => .expression (frames ++ outer) level progress
  | .conversion source us => .conversion source us

theorem BeforeOperand.inside {frames : List Frame} {level : Level}
    (h : BeforeOperand frames level t s) :
    BeforeOperand (frames ++ outer) level t (s.inside outer) := by
  cases h with
  | literal l h => exact .literal l h
  | constant tree h => exact .constant tree h
  | function f h => exact .function f h
  | plus h => exact .plus h
  | minus h => exact .minus h
  | group h => exact .group h

theorem BeforeArgument.inside {frames : List Frame} {level : Level} {f : FunctionName} {j : Bool}
    (h : BeforeArgument frames level f j t s) :
    BeforeArgument (frames ++ outer) level f j t (s.inside outer) := by
  cases h with
  | operand tree h => exact .operand tree h
  | group h => exact .group h

theorem BehindFactor.inside {frames : List Frame} {level : Level} {factor : Tree}
    (h : BehindFactor level factor t frames s) (hs : s.IsExpression) :
    BehindFactor level factor t (frames ++ outer) (s.inside outer) := by
  cases h with
  | product frames p h => exact .product _ p h
  | sum frames p h => exact .sum _ p h
  | group frames h => exact .group _ h
  | close frame frames h => exact .close frame _ h
  | conversion h => exact hs.elim
  | signed frames l h hsigned => exact .signed _ l h hsigned
  | constant frames tree h => exact .constant _ tree h
  | function frames f h => exact .function _ f h

theorem BehindOperand.inside {frames : List Frame} {level : Level} {o : Operand}
    (h : BehindOperand frames level t o s) (hs : s.IsExpression) :
    BehindOperand (frames ++ outer) level t o (s.inside outer) := by
  cases h with
  | literalFactorial l h => exact .literalFactorial l h
  | literalPower l h => exact .literalPower l h
  | units l h => exact .units l h
  | factorial tree h => exact .factorial tree h
  | power tree h => exact .power tree h
  | factor o s h => exact .factor o _ (h.inside hs)

theorem BehindUnits.inside {frames : List Frame} {level : Level} {l : Literal} {us : UnitRun}
    (h : BehindUnits frames level l t us s) (hs : s.IsExpression) :
    BehindUnits (frames ++ outer) level l t us (s.inside outer) := by
  cases h with
  | units us us' h => exact .units us us' h
  | joined p run s hend h => exact .joined p run _ hend h.inside
  | factor us run s hend hrun h => exact .factor us run _ hend hrun (h.inside hs)

/-- A step inside an expression is a step whatever is around it. -/
theorem step_inside (h : s.step t = some s') (hs' : s'.IsExpression) :
    (s.inside outer).step t = some (s'.inside outer) := by
  have hsteps : Steps t (s.inside outer) (s'.inside outer) := by
    cases step_cases h with
    | before frames level _ h => exact .before _ level _ h.inside
    | argument frames level f j _ h => exact .argument _ level f j _ h.inside
    | behind frames level o _ h => exact .behind _ level o _ (h.inside hs')
    | quantity frames level l us _ h => exact .quantity _ level l us _ (h.inside hs')
    | conversion => exact hs'.elim
  exact hsteps.eq_some

/-- A conversion goes on to the end. -/
theorem isExpression_of_step (h : s.step t = some s') (hs' : s'.IsExpression) :
    s.IsExpression := by
  cases s with
  | expression => trivial
  | conversion source us =>
    cases step_cases h
    exact hs'

theorem isExpression_of_run (h : s.run ts = .ok s') (hs' : s'.IsExpression) :
    s.IsExpression := by
  induction ts generalizing s with
  | nil =>
    cases h
    exact hs'
  | cons t ts ih =>
    obtain ⟨s₁, hstep, hrun⟩ := run_cons_eq_ok_iff.mp h
    exact isExpression_of_step hstep (ih hrun)

/-- A run inside an expression is a run whatever is around it. -/
theorem run_inside (h : s.run ts = .ok s') (hs' : s'.IsExpression) :
    (s.inside outer).run ts = .ok (s'.inside outer) := by
  induction ts generalizing s with
  | nil =>
    cases h
    rfl
  | cons t ts ih =>
    obtain ⟨s₁, hstep, hrun⟩ := run_cons_eq_ok_iff.mp h
    rw [run_cons (step_inside hstep (isExpression_of_run hrun hs'))]
    exact ih hrun

end State

namespace Completes

variable {s : State} {frames outer : List Frame} {sum product : Option (Production × Tree)}
  {factor : Tree}

theorem isExpression (h : Completes s frames sum product factor) : s.IsExpression := by
  cases h <;> trivial

theorem inside (h : Completes s frames sum product factor) :
    Completes (s.inside outer) (frames ++ outer) sum product factor := by
  cases h with
  | operand level o => exact .operand level o
  | quantity level l us u hu => exact .quantity level l us u hu

/-- What the tokens up to a complete factor yield is an expression. -/
theorem yields {ts : List Token} (h : Completes s [] sum product factor) (hs : s.Reads ts) :
    Yields .expr ts (.closeOver sum (.closeOver product factor)) := by
  cases h with
  | operand level o =>
    obtain ⟨c, f, a, b, rfl, hf, hl, ho⟩ := hs
    cases hf
    exact (hl.behind ho.yields).expression
  | quantity level l us u hu =>
    obtain ⟨c, f, a, b, rfl, hf, hl, k, b, rfl, hk, hus⟩ := hs
    cases hf
    exact (hl.behind_quantity hk (hus.tree? hu)).expression

end Completes

/-! ## Groups -/

section Groups

variable {inner : List Token} {left right : Token}

/-- What the grammar derives as an expression is parsed as a tree of its derivations, and in
brackets it becomes an operand with this tree. -/
theorem exists_run_group (h : ∃ t, Derives .expr inner t) (hleft : left.terminal = .leftParen)
    (hright : right.terminal = .rightParen) :
    ∃ tree, parse inner = .ok tree ∧ (∀ t, t ∈ tree.readings ↔ Derives .expr inner t) ∧
      ∀ frames level, (State.expression frames level .before).run (left :: (inner ++ [right])) =
        .ok (.expression frames level (.behind (.primary tree))) := by
  obtain ⟨t₀, ht₀⟩ := h
  obtain ⟨s, hrun, sum, product, factor, hs, _⟩ := recognized_of_derives ht₀ []
  have hfinish := hs.finish?
  have hreads : s.Reads ([] ++ inner) := State.reads_start.run hrun
  have hyields : Yields .expr inner (.closeOver sum (.closeOver product factor)) :=
    hs.yields hreads
  refine ⟨_, parse_eq_ok_iff.mpr ⟨s, hrun, hfinish⟩, fun t => ⟨hyields.2 t, ?_⟩, ?_⟩
  · intro ht
    obtain ⟨s', hrun', sum', product', factor', hs', hmem⟩ := recognized_of_derives ht []
    rw [hrun] at hrun'
    cases hrun'
    have htree := Option.some.inj (hs'.finish?.symm.trans hfinish)
    rwa [htree] at hmem
  · intro frames level
    have hopen : (State.expression frames level .before).step left =
        some (.expression (⟨level, none, false⟩ :: frames) .empty .before) :=
      (State.Steps.before frames level _ (.group hleft)).eq_some
    have hinside : (State.expression (⟨level, none, false⟩ :: frames) .empty .before).run inner =
        .ok (s.inside (⟨level, none, false⟩ :: frames)) :=
      State.run_inside hrun hs.isExpression
    have hclose : (s.inside (⟨level, none, false⟩ :: frames)).step right =
        some (.expression frames level (.behind (.primary _))) :=
      (hs.inside.step (by simp [hright])).trans
        (State.BehindFactor.close ⟨level, none, false⟩ frames hright).eq_some
    rw [State.run_cons hopen, State.run_append_ok hinside, State.run_cons hclose]
    rfl

end Groups

end UnitCalc.Expr
