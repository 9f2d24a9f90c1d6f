import UnitCalc.Proofs.Parser.Step
import UnitCalc.Proofs.Parser.Yield

/-!
# What tokens cause

A derivation is meant to drive the parser: `Recognized` says for each category which run its
tokens cause, wherever they stand. The parser never knows where an operand ends before it has
seen the token behind it, so a run ends in a state that `Completes` a factor, and the lemmas
on such states say how the next token goes on.
-/

namespace UnitCalc.Expr

open Grammar

/-! ## Readings -/

namespace Tree

/-- A derived tree has no choices, so it is its only reading. -/
theorem readings_of_derives {c : Category} {ts : List Token} {t : Tree} (h : Derives c ts t) :
    t.readings = [t] := by
  refine h.shapeInduction ?promoted ?between ?beside ?ended ?headed ?unsigned ?enclosed ?lone
  case promoted | unsigned | enclosed => intros; assumption
  case between =>
    intro c d d' x p a b l r t _ _ _ hl _ hr
    simp [readings, readingsOfAll, hl, hr]
  case beside =>
    intro c d d' p a b l r _ _ hl _ hr
    simp [readings, readingsOfAll, hl, hr]
  case ended | headed =>
    intro c d x p a l t _ _ _ hl
    simp [readings, readingsOfAll, hl]
  case lone =>
    intro c x p t _ _
    cases h : operand? t with
    | none => rfl
    | some leaf =>
      unfold operand? at h
      split at h <;> cases h <;> rfl

theorem mem_readings_self {c : Category} {ts : List Token} {t : Tree} (h : Derives c ts t) :
    t ∈ t.readings := by
  simp [readings_of_derives h]

/-- One tree stands for at least as many readings as another. -/
def Covers (t t' : Tree) : Prop := ∀ r ∈ t'.readings, r ∈ t.readings

theorem Covers.refl (t : Tree) : t.Covers t := by
  intro r hr
  exact hr

theorem Covers.trans {t t' t'' : Tree} (h : t.Covers t') (h' : t'.Covers t'') : t.Covers t'' := by
  intro r hr
  exact h r (h' r hr)

theorem covers_of_mem {c : Category} {ts : List Token} {t t' : Tree} (h : Derives c ts t')
    (ht : t' ∈ t.readings) : t.Covers t' := by
  intro r hr
  rw [readings_of_derives h, List.mem_singleton] at hr
  exact hr ▸ ht

theorem Covers.node {p : Production} {l l' r r' : Tree} (hl : l.Covers l') (hr : r.Covers r') :
    (Tree.node p [l, r]).Covers (.node p [l', r']) := by
  intro t ht
  obtain ⟨a, ha, b, hb, rfl⟩ := mem_readings_two.mp ht
  exact mem_readings_two.mpr ⟨a, hl a ha, b, hr b hb, rfl⟩

theorem Covers.close {t t' : Tree} (h : t.Covers t') (o : OpenPrefix) :
    (o.close t).Covers (o.close t') := by
  cases o with
  | plus => exact h
  | minus =>
    intro r hr
    obtain ⟨a, ha, rfl⟩ := mem_readings_one.mp hr
    exact mem_readings_one.mpr ⟨a, h a ha, rfl⟩
  | power base => exact (Covers.refl base).node h
  | literalPower base => exact (Covers.refl base.tree).node h

theorem Covers.factor {t t' : Tree} (h : t.Covers t') (level : Level) :
    (level.factor t).Covers (level.factor t') := by
  obtain ⟨sum, product, inFront⟩ := level
  show (inFront.foldl _ t).Covers (inFront.foldl _ t')
  induction inFront generalizing t t' with
  | nil => exact h
  | cons o os ih => exact ih (h.close o)

/-- A quantity covers itself also where it has a second reading. -/
theorem covers_quantityFactor (level : Level) (l : Literal) (u : Tree) :
    (level.quantityFactor l u).Covers (level.factor (l.quantity u)) := by
  obtain ⟨sum, product, inFront⟩ := level
  cases inFront with
  | nil => exact Covers.refl _
  | cons o os =>
    cases o with
    -- Only here the quantity is one of two readings; it is the one with the power.
    | literalPower base =>
      have hchoice : (choice [base.power (l.quantity u), base.scaledQuantity l u]).Covers
          (base.power (l.quantity u)) := by
        intro r hr
        exact mem_readings_choice.mpr (.inl hr)
      exact hchoice.factor ⟨sum, product, os⟩
    | plus | minus | power => exact Covers.refl _

end Tree

/-! ## Runs -/

namespace UnitRun

/-- Takes tokens as long as they go on with the units. -/
def run (us : UnitRun) (ts : List Token) : Option UnitRun :=
  ts.foldlM UnitRun.step us

theorem run_cons_eq_some_iff {us us' : UnitRun} {t : Token} {ts : List Token} :
    us.run (t :: ts) = some us' ↔ ∃ us₁, us.step t = some us₁ ∧ us₁.run ts = some us' := by
  simp [run, Option.bind_eq_some_iff]

theorem run_append (us : UnitRun) (a b : List Token) :
    us.run (a ++ b) = (us.run a).bind (·.run b) := by
  simp [run, List.foldlM_append]

/-- Behind units that may end here, every token but a caret goes on with the whole run. -/
theorem step_of_tree? {us : UnitRun} {u : Tree} {t : Token} (h : us.tree? = some u)
    (ht : t.terminal ≠ .caret) : us.step t = extend u t := by
  cases us with
  | named left base =>
    cases h
    simp [UnitRun.step, ht]
  | whole left factor =>
    cases h
    rfl
  | start | raised | joined => cases h

end UnitRun

namespace State

variable {frames : List Frame} {level : Level} {s s' : State} {t : Token} {ts : List Token}

theorem run_cons (h : s.step t = some s') : s.run (t :: ts) = s'.run ts := by
  simp [run, h]

theorem run_append_ok {a b : List Token} (h : s.run a = .ok s') : s.run (a ++ b) = s'.run b := by
  simp [run_append, h]

theorem run_cons_eq_ok_iff :
    s.run (t :: ts) = .ok s' ↔ ∃ s₁, s.step t = some s₁ ∧ s₁.run ts = .ok s' := by
  constructor
  · intro h
    simp only [run] at h
    split at h
    · exact ⟨_, ‹_›, h⟩
    · cases h
  · rintro ⟨s₁, hstep, h⟩
    rw [run_cons hstep, h]

theorem run_append_eq_ok_iff {a b : List Token} :
    s.run (a ++ b) = .ok s' ↔ ∃ s₁, s.run a = .ok s₁ ∧ s₁.run b = .ok s' := by
  constructor
  · intro h
    rw [run_append] at h
    split at h
    · exact ⟨_, ‹_›, h⟩
    · cases h
  · rintro ⟨s₁, ha, hb⟩
    rw [run_append_ok ha, hb]

theorem run_quantity {l : Literal} {us us' : UnitRun} (h : us.run ts = some us') :
    (State.expression frames level (.quantity l us)).run ts =
      .ok (.expression frames level (.quantity l us')) := by
  induction ts generalizing us with
  | nil =>
    cases h
    rfl
  | cons t ts ih =>
    obtain ⟨us₁, hstep, hrun⟩ := UnitRun.run_cons_eq_some_iff.mp h
    rw [run_cons (by simp [State.step, behindUnits, hstep]; rfl)]
    exact ih hrun

theorem run_conversion {source : Tree} {us us' : UnitRun} (h : us.run ts = some us') :
    (State.conversion source us).run ts = .ok (.conversion source us') := by
  induction ts generalizing us with
  | nil =>
    cases h
    rfl
  | cons t ts ih =>
    obtain ⟨us₁, hstep, hrun⟩ := UnitRun.run_cons_eq_some_iff.mp h
    rw [run_cons (by simp [State.step, hstep]; rfl)]
    exact ih hrun

end State

/-! ## States behind a factor -/

/-- A state in which a factor is complete, with the brackets and operators that are open
around it. -/
inductive Completes : State → List Frame → (sum product : Option (Production × Tree)) →
    (factor : Tree) → Prop where
  | operand {frames : List Frame} (level : Level) (o : Operand) :
      Completes (.expression frames level (.behind o)) frames level.sum level.product
        (level.factor o.tree)
  | quantity {frames : List Frame} (level : Level) (l : Literal) (us : UnitRun) (u : Tree)
      (hu : us.tree? = some u) :
      Completes (.expression frames level (.quantity l us)) frames level.sum level.product
        (level.quantityFactor l u)

namespace Completes

variable {s : State} {frames : List Frame} {sum product : Option (Production × Tree)}
  {factor : Tree} {t : Token} {ts : List Token}

/-- A token that continues neither an operand nor units closes the factor. -/
theorem step (h : Completes s frames sum product factor)
    (ht : t.terminal ∉ [.bang, .caret, .unit, .star, .slash]) :
    s.step t = State.behindFactor frames ⟨sum, product, []⟩ factor t := by
  simp only [List.mem_cons, List.not_mem_nil, or_false, not_or] at ht
  obtain ⟨hbang, hcaret, hunit, hstar, hslash⟩ := ht
  cases h with
  | operand level o =>
    show State.behindOperand frames level o t = _
    unfold State.behindOperand
    split
    · contradiction
    · contradiction
    · contradiction
    · contradiction
    · contradiction
    · rfl
  | quantity level l us u hu =>
    have hnone : us.step t = none := by
      rw [UnitRun.step_of_tree? hu hcaret]
      unfold UnitRun.extend
      split
      · contradiction
      · contradiction
      · contradiction
      · rfl
    show State.behindUnits frames level l us t = _
    unfold State.behindUnits
    rw [hnone]
    cases us with
    | named | whole =>
      simp only [hu]
      rfl
    | start | raised | joined => cases hu

/-- Where a factor is complete and no bracket is open, the input may end. -/
theorem finish? (h : Completes s [] sum product factor) :
    s.finish? = some (.closeOver sum (.closeOver product factor)) := by
  cases h with
  | operand level o => rfl
  | quantity level l us u hu =>
    simp only [State.finish?, hu]
    rfl

/-- Behind the sign of a product the parser goes on as with the product opened, unless a unit
follows: then the sign was one of units. -/
theorem run_product {p : Production} (h : Completes s frames sum product factor)
    (hp : (p, t.terminal) ∈ productSigns)
    (hts : ∃ k rest, ts = k :: rest ∧ k.terminal ≠ .unit) :
    s.run (t :: ts) =
      (State.expression frames ⟨sum, some (p, .closeOver product factor), []⟩ .before).run ts := by
  rw [mem_productSigns] at hp
  by_cases hpercent : t.terminal = .percent
  · refine State.run_cons ?_
    rw [h.step (by simp [hpercent])]
    simp only [hpercent, reduceCtorEq, and_false, false_or, and_true] at hp
    simp [State.behindFactor, hpercent, hp]
    rfl
  · cases h with
    | operand level o =>
      refine State.run_cons ?_
      show State.behindOperand frames level o t = _
      rcases hp with ⟨rfl, ht⟩ | ⟨rfl, ht⟩ | ⟨rfl, ht⟩
      · cases o <;> simp [State.behindOperand, State.behindFactor, ht] <;> rfl
      · cases o <;> simp [State.behindOperand, State.behindFactor, ht] <;> rfl
      · contradiction
    -- Behind units the sign is read as one of units first, and the token behind it shows
    -- that it was not.
    | quantity level l us u hu =>
      obtain ⟨k, rest, rfl, hk⟩ := hts
      have joined : ∃ q, us.step t = some (.joined q u) ∧ State.productOfUnits q = p := by
        rcases hp with ⟨rfl, ht⟩ | ⟨rfl, ht⟩ | ⟨rfl, ht⟩
        · exact ⟨.unitMul, by simp [UnitRun.step_of_tree? hu, UnitRun.extend, ht], rfl⟩
        · exact ⟨.unitDiv, by simp [UnitRun.step_of_tree? hu, UnitRun.extend, ht], rfl⟩
        · contradiction
      obtain ⟨q, hstep, rfl⟩ := joined
      have hjoined : (State.expression frames level (.quantity l us)).step t =
          some (.expression frames level (.quantity l (.joined q u))) := by
        simp [State.step, State.behindUnits, hstep]
      rw [State.run_cons hjoined]
      have hnext : (State.expression frames level (.quantity l (.joined q u))).step k =
          (State.expression frames
            ⟨level.sum, some (State.productOfUnits q,
              .closeOver level.product (level.quantityFactor l u)), []⟩ .before).step k := by
        simp [State.step, State.behindUnits, UnitRun.step, hk]
        rfl
      simp only [State.run, hnext]

end Completes

/-- The state completes a factor that stands for all readings of an operand in its place. -/
def HoldsFactor (frames : List Frame) (level : Level) (operand : Tree) (s : State) : Prop :=
  ∃ factor, Completes s frames level.sum level.product factor ∧
    factor.Covers (level.factor operand)

/-- The state completes a factor with which a term is complete. -/
def HoldsTerm (frames : List Frame) (sum : Option (Production × Tree)) (term : Tree)
    (s : State) : Prop :=
  ∃ product factor, Completes s frames sum product factor ∧
    term ∈ (Tree.closeOver product factor).readings

/-- The state completes a factor with which an expression is complete. -/
def HoldsExpr (frames : List Frame) (expr : Tree) (s : State) : Prop :=
  ∃ sum product factor, Completes s frames sum product factor ∧
    expr ∈ (Tree.closeOver sum (.closeOver product factor)).readings

/-! ## What the tokens of a category cause -/

/-- Tokens that read a factor from where an operand has to start. They do not start with a
unit, so that a product sign in front of them is not one of units. -/
def FactorRuns (ts : List Token) (t : Tree) : Prop :=
  (∃ k rest, ts = k :: rest ∧ k.terminal ≠ .unit) ∧ ∀ frames level,
    ∃ s, (State.expression frames level .before).run ts = .ok s ∧ HoldsFactor frames level t s

/-- Tokens that start with a numeral and read a factor from there. -/
def LiteralRuns (signed : Bool) (ts : List Token) (t : Tree) : Prop :=
  ∃ k l rest, ts = k :: rest ∧ Literal.ofToken? k = some l ∧ l.signed = signed ∧
    ∀ frames level, ∃ s, (State.expression frames level (.behind (.literal l))).run rest = .ok s ∧
      HoldsFactor frames level t s

/-- Tokens that read an operand which a factorial or a power may follow. -/
def OperandRuns (ts : List Token) (t : Tree) : Prop :=
  (∃ k rest, ts = k :: rest ∧ k.terminal ≠ .unit) ∧ ∀ frames level, ∃ o : Operand,
    (State.expression frames level .before).run ts = .ok (.expression frames level (.behind o)) ∧
      ((∃ l, o = .literal l ∧ l.signed = false ∧ t = l.tree) ∨
        ∃ tree, o = .primary tree ∧ t ∈ tree.readings)

/-- Tokens that read a term from where an operand has to start. -/
def TermRuns (ts : List Token) (t : Tree) : Prop :=
  ∀ frames sum, ∃ s, (State.expression frames ⟨sum, none, []⟩ .before).run ts = .ok s ∧
    HoldsTerm frames sum t s

/-- Tokens that start with a signed numeral and read a term from there. -/
def SignedTermRuns (ts : List Token) (t : Tree) : Prop :=
  ∃ k l rest, ts = k :: rest ∧ Literal.ofToken? k = some l ∧ l.signed = true ∧
    ∀ frames sum, ∃ s,
      (State.expression frames ⟨sum, none, []⟩ (.behind (.literal l))).run rest = .ok s ∧
        HoldsTerm frames sum t s

/-- Tokens that read an expression inside open brackets. -/
def ExprRuns (ts : List Token) (t : Tree) : Prop :=
  ∀ frames, ∃ s, (State.expression frames .empty .before).run ts = .ok s ∧ HoldsExpr frames t s

/-- Tokens that read the right operand of a product without a sign. -/
def JuxtaposedRuns (ts : List Token) (t : Tree) : Prop :=
  ∃ k rest, ts = k :: rest ∧ k.terminal ∉ [.bang, .caret, .unit, .star, .slash] ∧
    ∀ frames level factor, ∃ s tree, State.behindFactor frames level factor k = some s ∧
      s.run rest =
        .ok (.expression frames (level.openProduct .mul factor) (.behind (.closed tree))) ∧
      t ∈ tree.readings

/-- Tokens that read the argument of a function. -/
def ArgumentRuns (ts : List Token) (t : Tree) : Prop :=
  ∀ f frames level juxtaposed, ∃ tree,
    (State.expression frames level (.argument f juxtaposed)).run ts =
      .ok (.expression frames level (.behind (.ofTree juxtaposed (f.apply tree)))) ∧
    t ∈ tree.readings

/-- Tokens that are the magnitude of a quantity: a numeral, or a power of two. -/
def IsMagnitude (signed : Bool) (ts : List Token) (t : Tree) : Prop :=
  ∃ k l, Literal.ofToken? k = some l ∧ l.signed = signed ∧
    (ts = [k] ∧ t = l.tree ∨
      ∃ x k' n, ts = [k, x, k'] ∧ x.terminal = .caret ∧ Literal.ofToken? k' = some n ∧
        t = .node (if signed then .signedScaled else .scaled) [l.tree, n.tree])

/-- Tokens that read a unit with its exponent behind an open operator of units. -/
def UnitFactorRuns (ts : List Token) (t : Tree) : Prop :=
  ∃ k rest, ts = k :: rest ∧ k.terminal = .unit ∧ ∀ left, ∃ us,
    (UnitRun.named left (UnitRun.unit k)).run rest = some us ∧
      us.tree? = some (.closeOver left t)

/-- What the tokens of a category cause, and the tree that comes of it. -/
def Recognized : Category → List Token → Tree → Prop
  | .equation, ts, t =>
    ∃ s tree, State.start.run ts = .ok s ∧ s.finish? = some tree ∧ t ∈ tree.readings
  | .expr, ts, t => ExprRuns ts t
  | .term, ts, t => TermRuns ts t
  | .signedTerm, ts, t => SignedTermRuns ts t
  | .juxtaposed, ts, t => JuxtaposedRuns ts t
  | .factor, ts, t => FactorRuns ts t
  | .signedFactor, ts, t => LiteralRuns true ts t
  | .power, ts, t => FactorRuns ts t
  | .postfixed, ts, t => OperandRuns ts t
  | .atom, ts, t => OperandRuns ts t
  | .group, ts, t => ∃ k a k', ts = k :: (a ++ [k']) ∧ k.terminal = .leftParen ∧
      k'.terminal = .rightParen ∧ ExprRuns a t
  | .function, ts, t => ∃ k f rest x, ts = k :: rest ∧ FunctionName.ofToken? k = some f ∧
      t = f.apply x ∧ ArgumentRuns rest x
  | .argument, ts, t => ArgumentRuns ts t
  | .constant, ts, t => ∃ k, ts = [k] ∧ constant? k = some t
  | .plainNumber, ts, t =>
    ∃ k l, ts = [k] ∧ Literal.ofToken? k = some l ∧ l.signed = false ∧ t = l.tree
  | .signedNumber, ts, t =>
    ∃ k l, ts = [k] ∧ Literal.ofToken? k = some l ∧ l.signed = true ∧ t = l.tree
  | .quantity, ts, t => LiteralRuns false ts t
  | .magnitude, ts, t => IsMagnitude false ts t
  | .signedQuantity, ts, t => LiteralRuns true ts t
  | .signedMagnitude, ts, t => IsMagnitude true ts t
  | .exponent, ts, t => ∃ k l, ts = [k] ∧ Literal.ofToken? k = some l ∧ t = l.tree
  | .units, ts, t => ∃ us, UnitRun.start.run ts = some us ∧ us.tree? = some t
  | .unitFactor, ts, t => UnitFactorRuns ts t
  | .unitName, ts, t => ∃ k, ts = [k] ∧ k.terminal = .unit ∧ t = UnitRun.unit k

end UnitCalc.Expr
