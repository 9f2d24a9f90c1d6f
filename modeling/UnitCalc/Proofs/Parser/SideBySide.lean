import Mathlib.Data.List.Forall2
import UnitCalc.Proofs.Parser.Recognition

/-!
# A sign and its numeral, apart and as one literal

Behind an expression, `- 3` opens a difference and reads the numeral `3`, and the literal `-3`
opens a sum and is read at once. From there on the parser takes the same tokens in both states,
and the trees that it builds differ at the numeral only: in one the minus stands in front of the
whole term, in the other at its first literal. The states stay related, and so do the trees in
the end, for any relation of trees that the constructions of the parser keep. There is one
exception. Behind the factorial of the numeral another one or a power may follow, and behind
that of the literal neither.
-/

namespace UnitCalc.Expr

/-! ## Trees -/

/-- How two trees in one place are related. -/
inductive Side where
  /-- They mean the same. -/
  | same
  /-- The second has the sign that stands in front of the term of the first. -/
  | signed

/-- A relation of trees that the constructions of the parser keep, where `sign` is the
production of a sum or difference, `l` is the numeral behind its sign, and `l'` is the literal
of the two. -/
structure Mirrors (R : Side → Tree → Tree → Prop) (sign : Production) (l l' : Literal) :
    Prop where
  plain : l.signed = false
  signed : l'.signed = true
  refl : ∀ t, R .same t t
  node : ∀ {p ts ts'}, List.Forall₂ (R .same) ts ts' → R .same (.node p ts) (.node p ts')
  choice : ∀ {side ts ts'}, List.Forall₂ (R side) ts ts' → R side (.choice ts) (.choice ts')
  product : ∀ {p x t t' u u'}, (p, x) ∈ productSigns → R .signed t t' → R .same u u' →
    R .signed (.node p [t, u]) (.node p [t', u'])
  sum : ∀ {t t' u u'}, R .same t t' → R .signed u u' →
    R .same (.node sign [t, u]) (.node .add [t', u'])
  literal : R .signed l.tree l'.tree
  power : ∀ {t t'}, R .same t t' → R .signed (l.power t) (l'.power t')
  factorial : R .signed l.factorial l'.factorial
  quantity : ∀ u, R .signed (l.quantity u) (l'.quantity u)
  scaledQuantity : ∀ k u, R .signed (l.scaledQuantity k u) (l'.scaledQuantity k u)

variable {R : Side → Tree → Tree → Prop} {sign : Production} {l l' : Literal}

/-! ## Levels -/

/-- Two numerals in one place: the same one, or the numeral and the literal with the sign. -/
inductive LiteralRel (l l' : Literal) : Side → Literal → Literal → Prop where
  | same (k : Literal) : LiteralRel l l' .same k k
  | signed : LiteralRel l l' .signed l l'

/-- Two open sums, for terms on a given side. -/
inductive SumRel (R : Side → Tree → Tree → Prop) (sign : Production) :
    Side → Option (Production × Tree) → Option (Production × Tree) → Prop where
  | none : SumRel R sign .same none none
  | same (p : Production) {t t' : Tree} (h : R .same t t') :
      SumRel R sign .same (some (p, t)) (some (p, t'))
  | signed {t t' : Tree} (h : R .same t t') :
      SumRel R sign .signed (some (sign, t)) (some (.add, t'))

/-- Two open products: the side of the term that a factor on the second side completes. -/
inductive ProductRel (R : Side → Tree → Tree → Prop) :
    Side → Side → Option (Production × Tree) → Option (Production × Tree) → Prop where
  | none (side : Side) : ProductRel R side side none none
  | same (p : Production) {t t' : Tree} (h : R .same t t') :
      ProductRel R .same .same (some (p, t)) (some (p, t'))
  | signed {p : Production} {x : Terminal} (hp : (p, x) ∈ productSigns) {t t' : Tree}
      (h : R .signed t t') : ProductRel R .signed .same (some (p, t)) (some (p, t'))

/-- Two operators in front of an operand, and the side of what they close to. -/
inductive OpenRel (R : Side → Tree → Tree → Prop) (l l' : Literal) :
    Side → OpenPrefix → OpenPrefix → Prop where
  | plus : OpenRel R l l' .same .plus .plus
  | minus : OpenRel R l l' .same .minus .minus
  | power {t t' : Tree} (h : R .same t t') : OpenRel R l l' .same (.power t) (.power t')
  | literalPower {side : Side} {k k' : Literal} (h : LiteralRel l l' side k k') :
      OpenRel R l l' side (.literalPower k) (.literalPower k')

/-- Two rows of open operators: the side of the factor that an operand on the second side
completes. -/
inductive FrontRel (R : Side → Tree → Tree → Prop) (l l' : Literal) :
    Side → Side → List OpenPrefix → List OpenPrefix → Prop where
  | nil (side : Side) : FrontRel R l l' side side [] []
  | cons {side side' : Side} {o o' : OpenPrefix} {os os' : List OpenPrefix}
      (h : OpenRel R l l' side' o o') (hs : FrontRel R l l' side side' os os') :
      FrontRel R l l' side .same (o :: os) (o' :: os')

/-- Two levels that wait for an operand on a given side. -/
inductive LevelRel (R : Side → Tree → Tree → Prop) (sign : Production) (l l' : Literal)
    (side : Side) (level level' : Level) : Prop where
  | mk {termSide factorSide : Side} (sum : SumRel R sign termSide level.sum level'.sum)
      (product : ProductRel R termSide factorSide level.product level'.product)
      (inFront : FrontRel R l l' factorSide side level.inFront level'.inFront)

/-- Two levels with a complete factor. -/
inductive FactorRel (R : Side → Tree → Tree → Prop) (sign : Production)
    (level level' : Level) (factor factor' : Tree) : Prop where
  | mk {termSide factorSide : Side} (sum : SumRel R sign termSide level.sum level'.sum)
      (product : ProductRel R termSide factorSide level.product level'.product)
      (factor : R factorSide factor factor')

section Levels

variable (mirrors : Mirrors R sign l l') {side : Side} {level level' : Level}
  {f f' t t' u : Tree}

include mirrors

theorem Mirrors.node_one {p : Production} (h : R .same t t') :
    R .same (.node p [t]) (.node p [t']) :=
  mirrors.node (.cons h .nil)

theorem Mirrors.node_two {p : Production} {u u' : Tree} (ht : R .same t t') (hu : R .same u u') :
    R .same (.node p [t, u]) (.node p [t', u']) :=
  mirrors.node (.cons ht (.cons hu .nil))

theorem OpenRel.close {o o' : OpenPrefix} (ho : OpenRel R l l' side o o') (h : R .same t t') :
    R side (o.close t) (o'.close t') := by
  cases ho with
  | plus => exact h
  | minus => exact mirrors.node_one h
  | power hbase => exact mirrors.node_two hbase h
  | literalPower hk =>
    cases hk with
    | same k => exact mirrors.node_two (mirrors.refl _) h
    | signed => exact mirrors.power h

theorem FrontRel.close {side' : Side} {os os' : List OpenPrefix}
    (hos : FrontRel R l l' side side' os os') (h : R side' t t') :
    R side (os.foldl (fun tree o => o.close tree) t)
      (os'.foldl (fun tree o => o.close tree) t') := by
  induction hos generalizing t t' with
  | nil => exact h
  | cons ho _ ih => exact ih (ho.close mirrors h)

theorem LevelRel.factor (hl : LevelRel R sign l l' side level level') (h : R side t t') :
    FactorRel R sign level level' (level.factor t) (level'.factor t') := by
  obtain ⟨hsum, hproduct, hfront⟩ := hl
  exact ⟨hsum, hproduct, hfront.close mirrors h⟩

theorem LiteralRel.quantity {k k' : Literal} (h : LiteralRel l l' side k k') :
    R side (k.quantity u) (k'.quantity u) := by
  cases h with
  | same => exact mirrors.refl _
  | signed => exact mirrors.quantity u

/-- Where a quantity has two readings, they are related one by one. -/
theorem LevelRel.quantityFactor {k k' : Literal} (hl : LevelRel R sign l l' side level level')
    (hk : LiteralRel l l' side k k') :
    FactorRel R sign level level' (level.quantityFactor k u) (level'.quantityFactor k' u) := by
  have hquantity := hk.quantity mirrors (u := u)
  obtain ⟨hsum, hproduct, hfront⟩ := hl
  refine ⟨hsum, hproduct, ?_⟩
  obtain ⟨sum, product, inFront⟩ := level
  obtain ⟨sum', product', inFront'⟩ := level'
  cases hfront with
  | nil => exact hquantity
  | cons ho hos =>
    have hpower := ho.close mirrors hquantity
    cases ho with
    | plus | minus | power => exact hos.close mirrors hpower
    | literalPower hbase =>
      obtain _ | _ := hk
      refine hos.close mirrors (mirrors.choice (.cons hpower (.cons ?_ .nil)))
      cases hbase with
      | same => exact mirrors.refl _
      | signed => exact mirrors.scaledQuantity k u

/-- The term that a factor completes is on the side that the open sum waits for. -/
theorem ProductRel.close {termSide factorSide : Side}
    {product product' : Option (Production × Tree)}
    (h : ProductRel R termSide factorSide product product') (ht : R factorSide t t') :
    R termSide (.closeOver product t) (.closeOver product' t') := by
  cases h with
  | none => exact ht
  | same p hleft => exact mirrors.node_two hleft ht
  | signed hp hleft => exact mirrors.product hp hleft ht

theorem FactorRel.expression (h : FactorRel R sign level level' f f') :
    R .same (level.expression f) (level'.expression f') := by
  obtain ⟨hsum, hproduct, hfactor⟩ := h
  have hterm := hproduct.close mirrors hfactor
  obtain ⟨sum, product, inFront⟩ := level
  obtain ⟨sum', product', inFront'⟩ := level'
  cases hsum with
  | none => exact hterm
  | same p hleft => exact mirrors.node_two hleft hterm
  | signed hleft => exact mirrors.sum hleft hterm

theorem FactorRel.openProduct (h : FactorRel R sign level level' f f')
    {p : Production} {x : Terminal} (hp : (p, x) ∈ productSigns) :
    LevelRel R sign l l' .same (level.openProduct p f) (level'.openProduct p f') := by
  obtain @⟨termSide, _, hsum, hproduct, hfactor⟩ := h
  have hterm := hproduct.close mirrors hfactor
  cases termSide with
  | same => exact ⟨hsum, .same p hterm, .nil .same⟩
  | signed => exact ⟨hsum, .signed hp hterm, .nil .same⟩

theorem FactorRel.openSum (h : FactorRel R sign level level' f f') (p : Production) :
    LevelRel R sign l l' .same (level.openSum p f) (level'.openSum p f') :=
  ⟨.same p (h.expression mirrors), .none .same, .nil .same⟩

omit mirrors in
theorem LevelRel.openPrefix (hl : LevelRel R sign l l' side level level') {o o' : OpenPrefix}
    (ho : OpenRel R l l' side o o') :
    LevelRel R sign l l' .same (level.openPrefix o) (level'.openPrefix o') := by
  obtain ⟨hsum, hproduct, hfront⟩ := hl
  exact ⟨hsum, hproduct, .cons ho hfront⟩

omit mirrors in
theorem levelRel_empty : LevelRel R sign l l' .same .empty .empty :=
  ⟨.none, .none .same, .nil .same⟩

theorem OpenRel.refl (o : OpenPrefix) : OpenRel R l l' .same o o := by
  cases o with
  | plus => exact .plus
  | minus => exact .minus
  | power base => exact .power (mirrors.refl base)
  | literalPower base => exact .literalPower (.same base)

theorem FrontRel.refl (os : List OpenPrefix) : FrontRel R l l' .same .same os os := by
  induction os with
  | nil => exact .nil .same
  | cons o os ih => exact .cons (OpenRel.refl mirrors o) ih

theorem LevelRel.refl (level : Level) : LevelRel R sign l l' .same level level := by
  obtain ⟨sum, product, inFront⟩ := level
  have hsum : SumRel R sign .same sum sum := by
    cases sum with
    | none => exact .none
    | some left => exact .same left.1 (mirrors.refl left.2)
  have hproduct : ProductRel R .same .same product product := by
    cases product with
    | none => exact .none .same
    | some left => exact .same left.1 (mirrors.refl left.2)
  exact ⟨hsum, hproduct, FrontRel.refl mirrors inFront⟩

end Levels

/-! ## States -/

/-- Two open brackets, inside of which an operand is read. -/
structure FrameRel (R : Side → Tree → Tree → Prop) (sign : Production) (l l' : Literal)
    (frame frame' : Frame) : Prop where
  level : LevelRel R sign l l' .same frame.level frame'.level
  function : frame'.function = frame.function
  juxtaposed : frame'.juxtaposed = frame.juxtaposed

/-- Two operands that mean the same. -/
inductive OperandRel (R : Side → Tree → Tree → Prop) : Operand → Operand → Prop where
  | literal (k : Literal) : OperandRel R (.literal k) (.literal k)
  | primary {t t' : Tree} (h : R .same t t') : OperandRel R (.primary t) (.primary t')
  | closed {t t' : Tree} (h : R .same t t') : OperandRel R (.closed t) (.closed t')

/-- Two states of reading an operand on a given side. Only behind the numeral itself is the
side another than the same, and then only while its units are read. -/
inductive ProgressRel (R : Side → Tree → Tree → Prop) (l l' : Literal) :
    Side → Progress → Progress → Prop where
  | before : ProgressRel R l l' .same .before .before
  | argument (f : FunctionName) (juxtaposed : Bool) :
      ProgressRel R l l' .same (.argument f juxtaposed) (.argument f juxtaposed)
  | behind {o o' : Operand} (h : OperandRel R o o') :
      ProgressRel R l l' .same (.behind o) (.behind o')
  | quantity {side : Side} {k k' : Literal} (h : LiteralRel l l' side k k') (us : UnitRun) :
      ProgressRel R l l' side (.quantity k us) (.quantity k' us)

/-- Two states of the parser. -/
inductive StateRel (R : Side → Tree → Tree → Prop) (sign : Production) (l l' : Literal) :
    State → State → Prop where
  | expression {side : Side} {frames frames' : List Frame} {level level' : Level}
      {progress progress' : Progress}
      (hframes : List.Forall₂ (FrameRel R sign l l') frames frames')
      (hlevel : LevelRel R sign l l' side level level')
      (hprogress : ProgressRel R l l' side progress progress') :
      StateRel R sign l l' (.expression frames level progress)
        (.expression frames' level' progress')
  | conversion {source source' : Tree} (h : R .same source source') (us : UnitRun) :
      StateRel R sign l l' (.conversion source us) (.conversion source' us)

section Steps

open State

variable (mirrors : Mirrors R sign l l') {side : Side} {frames frames' : List Frame}
  {level level' : Level} {f f' : Tree} {t : Token} {s s' : State}

theorem operandRel_ofTree (juxtaposed : Bool) {u u' : Tree} (h : R .same u u') :
    OperandRel R (.ofTree juxtaposed u) (.ofTree juxtaposed u') := by
  cases juxtaposed with
  | false => exact .primary h
  | true => exact .closed h

include mirrors

theorem FrameRel.operand {frame frame' : Frame} (h : FrameRel R sign l l' frame frame')
    {u u' : Tree} (hu : R .same u u') : OperandRel R (frame.operand u) (frame'.operand u') := by
  unfold Frame.operand
  rw [h.function, h.juxtaposed]
  refine operandRel_ofTree frame.juxtaposed ?_
  cases frame.function with
  | none => exact hu
  | some f => exact mirrors.node_one hu

theorem OperandRel.tree {o o' : Operand} (h : OperandRel R o o') : R .same o.tree o'.tree := by
  cases h with
  | literal k => exact mirrors.refl _
  | primary h => exact h
  | closed h => exact h

/-- A token where an operand has to start. -/
theorem State.BeforeOperand.mirror (hframes : List.Forall₂ (FrameRel R sign l l') frames frames')
    (hlevel : LevelRel R sign l l' .same level level') (h : BeforeOperand frames level t s) :
    ∃ s', BeforeOperand frames' level' t s' ∧ StateRel R sign l l' s s' := by
  cases h with
  | literal k h => exact ⟨_, .literal k h, .expression hframes hlevel (.behind (.literal k))⟩
  | constant tree h =>
    exact ⟨_, .constant tree h,
      .expression hframes hlevel (.behind (.primary (mirrors.refl tree)))⟩
  | function f h => exact ⟨_, .function f h, .expression hframes hlevel (.argument f false)⟩
  | plus h => exact ⟨_, .plus h, .expression hframes (hlevel.openPrefix .plus) .before⟩
  | minus h => exact ⟨_, .minus h, .expression hframes (hlevel.openPrefix .minus) .before⟩
  | group h =>
    exact ⟨_, .group h, .expression (.cons ⟨hlevel, rfl, rfl⟩ hframes) levelRel_empty .before⟩

/-- A token where the argument of a function has to start. -/
theorem State.BeforeArgument.mirror {fn : FunctionName} {juxtaposed : Bool}
    (hframes : List.Forall₂ (FrameRel R sign l l') frames frames')
    (hlevel : LevelRel R sign l l' .same level level')
    (h : BeforeArgument frames level fn juxtaposed t s) :
    ∃ s', BeforeArgument frames' level' fn juxtaposed t s' ∧ StateRel R sign l l' s s' := by
  cases h with
  | operand tree h =>
    exact ⟨_, .operand tree h, .expression hframes hlevel
      (.behind (operandRel_ofTree juxtaposed (mirrors.refl _)))⟩
  | group h =>
    exact ⟨_, .group h, .expression (.cons ⟨hlevel, rfl, rfl⟩ hframes) levelRel_empty .before⟩

/-- A token behind a complete factor. -/
theorem State.BehindFactor.mirror (hframes : List.Forall₂ (FrameRel R sign l l') frames frames')
    (hfactor : FactorRel R sign level level' f f') (h : BehindFactor level f t frames s) :
    ∃ s', BehindFactor level' f' t frames' s' ∧ StateRel R sign l l' s s' := by
  have hjuxtaposed := hfactor.openProduct mirrors (p := .mul) (x := .star) (by simp)
  cases h with
  | product frames p h =>
    exact ⟨_, .product frames' p h,
      .expression hframes (hfactor.openProduct mirrors h) .before⟩
  | sum frames p h =>
    exact ⟨_, .sum frames' p h, .expression hframes (hfactor.openSum mirrors p) .before⟩
  | group frames h =>
    exact ⟨_, .group frames' h,
      .expression (.cons ⟨hjuxtaposed, rfl, rfl⟩ hframes) levelRel_empty .before⟩
  | close frame frames h =>
    obtain _ | ⟨hframe, hframes⟩ := hframes
    exact ⟨_, .close _ _ h, .expression hframes hframe.level
      (.behind (hframe.operand mirrors (hfactor.expression mirrors)))⟩
  | conversion h =>
    cases hframes
    exact ⟨_, .conversion h, .conversion (hfactor.expression mirrors) .start⟩
  | signed frames k h hsigned =>
    exact ⟨_, .signed frames' k h hsigned,
      .expression hframes (hfactor.openSum mirrors .add) (.behind (.literal k))⟩
  | constant frames tree h =>
    exact ⟨_, .constant frames' tree h,
      .expression hframes hjuxtaposed (.behind (.closed (mirrors.refl tree)))⟩
  | function frames fn h =>
    exact ⟨_, .function frames' fn h, .expression hframes hjuxtaposed (.argument fn true)⟩

/-- A token behind an operand that means the same. -/
theorem State.BehindOperand.mirror {o o' : Operand}
    (hframes : List.Forall₂ (FrameRel R sign l l') frames frames')
    (hlevel : LevelRel R sign l l' .same level level') (ho : OperandRel R o o')
    (h : BehindOperand frames level t o s) :
    ∃ s', BehindOperand frames' level' t o' s' ∧ StateRel R sign l l' s s' := by
  cases h with
  | literalFactorial k h =>
    cases ho
    refine ⟨_, .literalFactorial k h, .expression hframes hlevel (.behind ?_)⟩
    split
    · exact .closed (mirrors.refl _)
    · exact .primary (mirrors.refl _)
  | literalPower k h =>
    cases ho
    exact ⟨_, .literalPower k h,
      .expression hframes (hlevel.openPrefix (.literalPower (.same k))) .before⟩
  | units k h =>
    cases ho
    exact ⟨_, .units k h, .expression hframes hlevel (.quantity (.same k) _)⟩
  | factorial tree h =>
    obtain _ | htree := ho
    exact ⟨_, .factorial _ h,
      .expression hframes hlevel (.behind (.primary (mirrors.node_one htree)))⟩
  | power tree h =>
    obtain _ | htree := ho
    exact ⟨_, .power _ h, .expression hframes (hlevel.openPrefix (.power htree)) .before⟩
  | factor o s h =>
    obtain ⟨s', hs', hrel⟩ := h.mirror mirrors hframes
      (hlevel.factor mirrors (ho.tree mirrors))
    exact ⟨s', .factor o' s' hs', hrel⟩

/-- A token behind a numeral with units. -/
theorem State.BehindUnits.mirror {k k' : Literal} {us : UnitRun}
    (hframes : List.Forall₂ (FrameRel R sign l l') frames frames')
    (hlevel : LevelRel R sign l l' side level level') (hk : LiteralRel l l' side k k')
    (h : BehindUnits frames level k t us s) :
    ∃ s', BehindUnits frames' level' k' t us s' ∧ StateRel R sign l l' s s' := by
  cases h with
  | units us us' h => exact ⟨_, .units us us' h, .expression hframes hlevel (.quantity hk us')⟩
  | joined p run s hend h =>
    have hproduct : (productOfUnits p, .star) ∈ productSigns ∨
        (productOfUnits p, .slash) ∈ productSigns := by
      unfold productOfUnits
      split <;> simp
    have hfactor := hlevel.quantityFactor mirrors hk (u := run)
    have hopen : LevelRel R sign l l' .same
        (level.openProduct (productOfUnits p) (level.quantityFactor k run))
        (level'.openProduct (productOfUnits p) (level'.quantityFactor k' run)) :=
      hproduct.elim (hfactor.openProduct mirrors) (hfactor.openProduct mirrors)
    obtain ⟨s', hs', hrel⟩ := h.mirror mirrors hframes hopen
    exact ⟨s', .joined p run s' hend hs', hrel⟩
  | factor us run s hend hrun h =>
    obtain ⟨s', hs', hrel⟩ := h.mirror mirrors hframes
      (hlevel.quantityFactor mirrors hk)
    exact ⟨s', .factor us run s' hend hrun hs', hrel⟩

/-- One step: the same token is taken on both sides. -/
theorem StateRel.step {s₁ : State} (h : StateRel R sign l l' s s') (hstep : s.step t = some s₁) :
    ∃ s₁', s'.step t = some s₁' ∧ StateRel R sign l l' s₁ s₁' := by
  suffices ∃ s₁', Steps t s' s₁' ∧ StateRel R sign l l' s₁ s₁' by
    obtain ⟨s₁', hs, hrel⟩ := this
    exact ⟨s₁', hs.eq_some, hrel⟩
  cases step_cases hstep with
  | before frames level s₁ hs =>
    obtain ⟨hframes, hlevel, ⟨⟩⟩ | _ := h
    obtain ⟨s₁', hs', hrel⟩ := hs.mirror mirrors hframes hlevel
    exact ⟨s₁', .before _ _ s₁' hs', hrel⟩
  | argument frames level fn juxtaposed s₁ hs =>
    obtain ⟨hframes, hlevel, ⟨⟩⟩ | _ := h
    obtain ⟨s₁', hs', hrel⟩ := hs.mirror mirrors hframes hlevel
    exact ⟨s₁', .argument _ _ fn juxtaposed s₁' hs', hrel⟩
  | behind frames level o s₁ hs =>
    obtain ⟨hframes, hlevel, hprogress⟩ | _ := h
    obtain _ | _ | ho := hprogress
    obtain ⟨s₁', hs', hrel⟩ := hs.mirror mirrors hframes hlevel ho
    exact ⟨s₁', .behind _ _ _ s₁' hs', hrel⟩
  | quantity frames level k us s₁ hs =>
    obtain ⟨hframes, hlevel, hprogress⟩ | _ := h
    obtain _ | _ | _ | ⟨hk, us⟩ := hprogress
    obtain ⟨s₁', hs', hrel⟩ := hs.mirror mirrors hframes hlevel hk
    exact ⟨s₁', .quantity _ _ _ us s₁' hs', hrel⟩
  | conversion source us us' hus =>
    obtain _ | ⟨hsource, us⟩ := h
    exact ⟨_, .conversion _ us us' hus, .conversion hsource us'⟩

/-- The whole run. -/
theorem StateRel.run {ts : List Token} {s₁ : State} (h : StateRel R sign l l' s s')
    (hrun : s.run ts = .ok s₁) : ∃ s₁', s'.run ts = .ok s₁' ∧ StateRel R sign l l' s₁ s₁' := by
  induction ts generalizing s s' with
  | nil =>
    cases hrun
    exact ⟨s', rfl, h⟩
  | cons t ts ih =>
    obtain ⟨s₂, hstep, hrun⟩ := run_cons_eq_ok_iff.mp hrun
    obtain ⟨s₂', hstep', h₂⟩ := h.step mirrors hstep
    obtain ⟨s₁', hrun', h₁⟩ := ih h₂ hrun
    exact ⟨s₁', run_cons_eq_ok_iff.mpr ⟨s₂', hstep', hrun'⟩, h₁⟩

/-- The input may end behind an operand on both sides. -/
theorem exists_finish?_behind {o o' : Operand} {tree : Tree}
    (hframes : List.Forall₂ (FrameRel R sign l l') frames frames')
    (hfactor : FactorRel R sign level level' (level.factor o.tree) (level'.factor o'.tree))
    (htree : (State.expression frames level (.behind o)).finish? = some tree) :
    ∃ tree', (State.expression frames' level' (.behind o')).finish? = some tree' ∧
      R .same tree tree' := by
  cases hframes with
  | cons => cases htree
  | nil =>
    cases htree
    exact ⟨_, rfl, hfactor.expression mirrors⟩

theorem StateRel.finish? {tree : Tree} (h : StateRel R sign l l' s s')
    (htree : s.finish? = some tree) : ∃ tree', s'.finish? = some tree' ∧ R .same tree tree' := by
  cases h with
  | conversion h us =>
    simp only [State.finish?, Option.map_eq_some_iff] at htree ⊢
    obtain ⟨run, hrun, rfl⟩ := htree
    exact ⟨_, ⟨run, hrun, rfl⟩, mirrors.node_two h (mirrors.refl run)⟩
  | expression hframes hlevel hprogress =>
    cases hprogress with
    | before | argument => cases hframes <;> cases htree
    | behind ho =>
      exact exists_finish?_behind mirrors hframes (hlevel.factor mirrors (ho.tree mirrors)) htree
    | quantity hk us =>
      cases hframes with
      | cons => cases htree
      | nil =>
        simp only [State.finish?, Option.map_eq_some_iff] at htree ⊢
        obtain ⟨run, hrun, rfl⟩ := htree
        exact ⟨_, ⟨run, hrun, rfl⟩, (hlevel.quantityFactor mirrors hk).expression mirrors⟩

end Steps

/-! ## Behind the numeral and behind the literal -/

/-- Tokens that go on behind a factorial with another one or with a power. -/
def RaisesFactorial (ts : List Token) : Prop :=
  ∃ t t' rest, ts = t :: t' :: rest ∧ t.terminal = .bang ∧
    (t'.terminal = .bang ∨ t'.terminal = .caret)

section Start

open State

variable (mirrors : Mirrors R sign l l') (frames : List Frame) (left : Tree) {t : Token}
  {ts : List Token} {s : State} {tree : Tree}

/-- The level where a term is read behind an open sum or difference. -/
def Level.ofSum (p : Production) (left : Tree) : Level := ⟨some (p, left), none, []⟩

/-- The literal with a sign has no second factorial, nor the power of one. -/
theorem run_of_raisesFactorial (hsigned : l'.signed = true) (h : RaisesFactorial ts)
    (level : Level) : ∃ rest,
      (State.expression frames level (.behind (.literal l'))).run ts = .error rest := by
  obtain ⟨t, t', rest, rfl, ht, ht'⟩ := h
  have hfactorial : (State.expression frames level (.behind (.literal l'))).step t =
      some (.expression frames level (.behind (.closed l'.factorial))) := by
    simp [State.step, behindOperand, ht, hsigned]
  have hrefused : (State.expression frames level (.behind (.closed l'.factorial))).step t' =
      none := by
    rcases ht' with ht' | ht' <;>
      simp [State.step, behindOperand, behindFactor, ht', Literal.ofToken?, constant?,
        FunctionName.ofToken?]
  refine ⟨t' :: rest, ?_⟩
  rw [run_cons hfactorial]
  simp [State.run, hrefused]

include mirrors

theorem framesRel_refl : List.Forall₂ (FrameRel R sign l l') frames frames :=
  List.forall₂_same.mpr fun frame _ => ⟨LevelRel.refl mirrors frame.level, rfl, rfl⟩

theorem levelRel_ofSum :
    LevelRel R sign l l' .signed (.ofSum sign left) (.ofSum .add left) :=
  ⟨.signed (mirrors.refl left), .none .signed, .nil .signed⟩

/-- Behind operands that differ by the sign, tokens that close them are taken on both sides. -/
theorem exists_run_finish?_behind {o o' : Operand} (ho : R .signed o.tree o'.tree)
    (hclose : ∀ t rest s, ts = t :: rest →
      BehindOperand frames (.ofSum sign left) t o s →
        ∃ s', BehindOperand frames (.ofSum .add left) t o' s' ∧ StateRel R sign l l' s s')
    (hrun : (State.expression frames (.ofSum sign left) (.behind o)).run ts = .ok s)
    (htree : s.finish? = some tree) :
    ∃ s' tree', (State.expression frames (.ofSum .add left) (.behind o')).run ts = .ok s' ∧
      s'.finish? = some tree' ∧ R .same tree tree' := by
  cases ts with
  | nil =>
    cases hrun
    obtain ⟨tree', htree', h⟩ := exists_finish?_behind mirrors (framesRel_refl mirrors frames)
      ((levelRel_ofSum mirrors left).factor mirrors ho) htree
    exact ⟨_, tree', rfl, htree', h⟩
  | cons t ts =>
    obtain ⟨s₁, hstep, hrun⟩ := run_cons_eq_ok_iff.mp hrun
    obtain _ | _ | ⟨_, _, _, _, hbehind⟩ := step_cases hstep
    obtain ⟨s₁', hbehind', h₁⟩ := hclose t ts s₁ rfl hbehind
    obtain ⟨s', hrun', h⟩ := h₁.run mirrors hrun
    obtain ⟨tree', htree', h⟩ := h.finish? mirrors htree
    have hstep' := Steps.eq_some (.behind frames (.ofSum .add left) o' s₁' hbehind')
    exact ⟨s', tree', run_cons_eq_ok_iff.mpr ⟨s₁', hstep', hrun'⟩, htree', h⟩

/-- A complete factor on both sides: behind it the same tokens are taken. -/
theorem mirror_factor {o o' : Operand} (ho : R .signed o.tree o'.tree)
    (h : BehindFactor (.ofSum sign left) ((Level.ofSum sign left).factor o.tree) t frames s) :
    ∃ s', BehindOperand frames (.ofSum .add left) t o' s' ∧ StateRel R sign l l' s s' := by
  obtain ⟨s', hs', hrel⟩ := h.mirror mirrors (framesRel_refl mirrors frames)
    ((levelRel_ofSum mirrors left).factor mirrors ho)
  exact ⟨s', .factor o' s' hs', hrel⟩

/-- What is read to its end behind the numeral is read to its end behind the literal, unless it
raises a factorial. -/
theorem exists_run_finish?_literal (hplain : ¬ RaisesFactorial ts)
    (hrun : (State.expression frames (.ofSum sign left) (.behind (.literal l))).run ts = .ok s)
    (htree : s.finish? = some tree) :
    ∃ s' tree',
      (State.expression frames (.ofSum .add left) (.behind (.literal l'))).run ts = .ok s' ∧
        s'.finish? = some tree' ∧ R .same tree tree' := by
  by_cases hbang : ∃ t rest, ts = t :: rest ∧ t.terminal = .bang
  · obtain ⟨t, rest, rfl, ht⟩ := hbang
    have hstep (level : Level) (k : Literal) :
        (State.expression frames level (.behind (.literal k))).step t =
          some (.expression frames level
            (.behind (if k.signed then .closed k.factorial else .primary k.factorial))) :=
      Steps.eq_some (.behind _ _ _ _ (.literalFactorial k ht))
    have ho : R .signed (Operand.primary l.factorial).tree (Operand.closed l'.factorial).tree :=
      mirrors.factorial
    rw [run_cons (hstep _ _), mirrors.plain, if_neg Bool.false_ne_true] at hrun
    rw [run_cons (hstep _ _), mirrors.signed, if_pos rfl]
    refine exists_run_finish?_behind mirrors frames left ho ?_ hrun htree
    rintro t' rest' s' rfl hbehind
    cases hbehind with
    | factorial _ ht' => exact absurd ⟨t, t', rest', rfl, ht, .inl ht'⟩ hplain
    | power _ ht' => exact absurd ⟨t, t', rest', rfl, ht, .inr ht'⟩ hplain
    | factor _ _ h => exact mirror_factor mirrors frames left ho h
  · have ho : R .signed (Operand.literal l).tree (Operand.literal l').tree := mirrors.literal
    have hlevel := levelRel_ofSum mirrors left
    refine exists_run_finish?_behind mirrors frames left ho ?_ hrun htree
    rintro t rest s' rfl hbehind
    cases hbehind with
    | literalFactorial _ ht => exact absurd ⟨t, rest, rfl, ht⟩ hbang
    | literalPower _ ht =>
      exact ⟨_, .literalPower l' ht, .expression (framesRel_refl mirrors frames)
        (hlevel.openPrefix (.literalPower .signed)) .before⟩
    | units _ ht =>
      exact ⟨_, .units l' ht, .expression (framesRel_refl mirrors frames) hlevel
        (.quantity .signed _)⟩
    | factor _ _ h => exact mirror_factor mirrors frames left ho h

end Start

end UnitCalc.Expr
