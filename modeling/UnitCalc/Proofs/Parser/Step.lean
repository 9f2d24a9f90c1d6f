import UnitCalc.Expr.Grammar
import UnitCalc.Expr.Parser

/-!
# What a step of the parser can do

For each place in which the parser takes a token, an inductive predicate names the states that
the token can lead to, with what is known of the token then. Proofs about all steps take these
cases and do not open the definitions of the parser. The cases are exact: where one holds, the
token leads to its state.
-/

namespace UnitCalc.Expr

open Grammar

/-! ## Signs -/

section Signs

variable {p : Production} {x : Terminal} {t : Token}

/-- The productions of a product, with the terminals that are their signs. -/
def productSigns : List (Production × Terminal) :=
  [(.mul, .star), (.div, .slash), (.mod, .percent)]

/-- The productions of a sum, with the terminals that are their signs. -/
def sumSigns : List (Production × Terminal) := [(.add, .plus), (.sub, .minus)]

/-- The productions of products and quotients of units, with the terminals that are their
signs. -/
def unitSigns : List (Production × Terminal) := [(.unitMul, .star), (.unitDiv, .slash)]

@[simp] theorem mem_productSigns : (p, x) ∈ productSigns ↔
    p = .mul ∧ x = .star ∨ p = .div ∧ x = .slash ∨ p = .mod ∧ x = .percent := by
  simp [productSigns]

@[simp] theorem mem_sumSigns : (p, x) ∈ sumSigns ↔
    p = .add ∧ x = .plus ∨ p = .sub ∧ x = .minus := by
  simp [sumSigns]

@[simp] theorem mem_unitSigns : (p, x) ∈ unitSigns ↔
    p = .unitMul ∧ x = .star ∨ p = .unitDiv ∧ x = .slash := by
  simp [unitSigns]

theorem operand?_of_mem_productSigns (h : (p, t.terminal) ∈ productSigns) :
    operand? t = none := by
  rcases mem_productSigns.mp h with ⟨_, ht⟩ | ⟨_, ht⟩ | ⟨_, ht⟩ <;> simp [operand?, ht]

theorem operand?_of_mem_sumSigns (h : (p, t.terminal) ∈ sumSigns) : operand? t = none := by
  rcases mem_sumSigns.mp h with ⟨_, ht⟩ | ⟨_, ht⟩ <;> simp [operand?, ht]

theorem operand?_of_mem_unitSigns (h : (p, t.terminal) ∈ unitSigns) : operand? t = none := by
  rcases mem_unitSigns.mp h with ⟨_, ht⟩ | ⟨_, ht⟩ <;> simp [operand?, ht]

end Signs

/-! ## Operands of one token -/

section Operands

variable {t : Token}

theorem literal_ofToken? {l : Literal} (h : Literal.ofToken? t = some l) :
    l.signed = false ∧ t.terminal = .number ∨
      l.signed = true ∧ (t.terminal = .positiveNumber ∨ t.terminal = .negativeNumber) := by
  unfold Literal.ofToken? at h
  split at h <;> cases h <;> rename_i ht <;> simp [ht]

theorem ofToken?_of_number (h : t.terminal = .number) :
    Literal.ofToken? t = some ⟨false, .number, t.text⟩ := by
  unfold Literal.ofToken?
  rw [h]

theorem ofToken?_of_signed (h : t.terminal = .positiveNumber ∨ t.terminal = .negativeNumber) :
    Literal.ofToken? t = some ⟨true, t.terminal, t.text⟩ := by
  unfold Literal.ofToken?
  rcases h with h | h <;> rw [h]

/-- A constant is no numeral, and its only reading is itself. -/
theorem constant?_eq_some {tree : Tree} (h : constant? t = some tree) :
    (t.terminal = .e ∨ t.terminal = .pi) ∧ Literal.ofToken? t = none ∧ tree ∈ tree.readings := by
  unfold constant? at h
  split at h <;> cases h <;> rename_i ht <;>
    simp [Literal.ofToken?, ht, Tree.readings, Tree.readingsOfAll]

theorem functionName_ofToken? {f : FunctionName} (h : FunctionName.ofToken? t = some f) :
    (t.terminal = .sqrt ∨ t.terminal = .log ∨ t.terminal = .ln) ∧
      Literal.ofToken? t = none ∧ constant? t = none := by
  unfold FunctionName.ofToken? at h
  split at h <;> cases h <;> rename_i ht <;> simp [Literal.ofToken?, constant?, ht]

end Operands

/-! ## Runs of units -/

/-- How a run that can end goes on. -/
inductive UnitRun.Extends (run : Tree) (t : Token) : UnitRun → Prop where
  | unit (h : t.terminal = .unit) : Extends run t (.named (some (.unitMul, run)) (unit t))
  | joined (p : Production) (h : (p, t.terminal) ∈ unitSigns) : Extends run t (.joined p run)

/-- How a run of units goes on. -/
inductive UnitRun.Steps (t : Token) : UnitRun → UnitRun → Prop where
  | start (h : t.terminal = .unit) : Steps t .start (.named none (unit t))
  | joined (p : Production) (run : Tree) (h : t.terminal = .unit) :
      Steps t (.joined p run) (.named (some (p, run)) (unit t))
  | raised (left : Option (Production × Tree)) (base : Tree) (l : Literal)
      (h : Literal.ofToken? t = some l) :
      Steps t (.raised left base) (.whole left (.node .unitPow [base, l.tree]))
  | named (left : Option (Production × Tree)) (base : Tree) (h : t.terminal = .caret) :
      Steps t (.named left base) (.raised left base)
  | extended (us us' : UnitRun) (run : Tree) (hrun : us.tree? = some run)
      (h : Extends run t us') : Steps t us us'

namespace UnitRun

variable {us us' : UnitRun} {run : Tree} {t : Token}

theorem extend_cases (h : extend run t = some us') : Extends run t us' := by
  unfold extend at h
  split at h <;> cases h
  · rename_i ht
    exact .unit ht
  · rename_i ht
    exact .joined .unitMul (by simp [ht])
  · rename_i ht
    exact .joined .unitDiv (by simp [ht])

theorem step_cases (h : us.step t = some us') : Steps t us us' := by
  cases us with
  | start =>
    simp only [step, Option.ite_none_right_eq_some] at h
    obtain ⟨ht, h⟩ := h
    cases h
    exact .start ht
  | joined p run =>
    simp only [step, Option.ite_none_right_eq_some] at h
    obtain ⟨ht, h⟩ := h
    cases h
    exact .joined p run ht
  | raised left base =>
    simp only [step, Option.map_eq_some_iff] at h
    obtain ⟨l, hl, rfl⟩ := h
    exact .raised left base l hl
  | named left base =>
    simp only [step] at h
    split at h
    · rename_i ht
      cases h
      exact .named left base ht
    · exact .extended _ _ _ rfl (extend_cases h)
  | whole left factor => exact .extended _ _ _ rfl (extend_cases h)

end UnitRun

/-! ## Expressions -/

namespace State

/-- The states where an operand has to start, one token later. -/
inductive BeforeOperand (frames : List Frame) (level : Level) (t : Token) : State → Prop where
  | literal (l : Literal) (h : Literal.ofToken? t = some l) :
      BeforeOperand frames level t (.expression frames level (.behind (.literal l)))
  | constant (tree : Tree) (h : constant? t = some tree) :
      BeforeOperand frames level t (.expression frames level (.behind (.primary tree)))
  | function (f : FunctionName) (h : FunctionName.ofToken? t = some f) :
      BeforeOperand frames level t (.expression frames level (.argument f false))
  | plus (h : t.terminal = .plus) :
      BeforeOperand frames level t (.expression frames (level.openPrefix .plus) .before)
  | minus (h : t.terminal = .minus) :
      BeforeOperand frames level t (.expression frames (level.openPrefix .minus) .before)
  | group (h : t.terminal = .leftParen) :
      BeforeOperand frames level t (.expression (⟨level, none, false⟩ :: frames) .empty .before)

/-- The states where the argument of a function has to start, one token later. -/
inductive BeforeArgument (frames : List Frame) (level : Level) (f : FunctionName)
    (juxtaposed : Bool) (t : Token) : State → Prop where
  | operand (tree : Tree)
      (h : t.terminal = .number ∧ tree = Literal.tree ⟨false, t.terminal, t.text⟩ ∨
        constant? t = some tree) :
      BeforeArgument frames level f juxtaposed t
        (.expression frames level (.behind (.ofTree juxtaposed (f.apply tree))))
  | group (h : t.terminal = .leftParen) :
      BeforeArgument frames level f juxtaposed t
        (.expression (⟨level, some f, juxtaposed⟩ :: frames) .empty .before)

/-- The states behind a complete factor, one token later. -/
inductive BehindFactor (level : Level) (factor : Tree) (t : Token) : List Frame → State → Prop where
  | product (frames : List Frame) (p : Production) (h : (p, t.terminal) ∈ productSigns) :
      BehindFactor level factor t frames (.expression frames (level.openProduct p factor) .before)
  | sum (frames : List Frame) (p : Production) (h : (p, t.terminal) ∈ sumSigns) :
      BehindFactor level factor t frames (.expression frames (level.openSum p factor) .before)
  | group (frames : List Frame) (h : t.terminal = .leftParen) :
      BehindFactor level factor t frames
        (.expression (⟨level.openProduct .mul factor, none, true⟩ :: frames) .empty .before)
  | close (frame : Frame) (frames : List Frame) (h : t.terminal = .rightParen) :
      BehindFactor level factor t (frame :: frames)
        (.expression frames frame.level (.behind (frame.operand (level.expression factor))))
  | conversion (h : t.terminal = .arrow) :
      BehindFactor level factor t [] (.conversion (level.expression factor) .start)
  | signed (frames : List Frame) (l : Literal) (h : Literal.ofToken? t = some l)
      (hsigned : l.signed = true) :
      BehindFactor level factor t frames
        (.expression frames (level.openSum .add factor) (.behind (.literal l)))
  | constant (frames : List Frame) (tree : Tree) (h : constant? t = some tree) :
      BehindFactor level factor t frames
        (.expression frames (level.openProduct .mul factor) (.behind (.closed tree)))
  | function (frames : List Frame) (f : FunctionName) (h : FunctionName.ofToken? t = some f) :
      BehindFactor level factor t frames
        (.expression frames (level.openProduct .mul factor) (.argument f true))

/-- The states behind an operand, one token later. -/
inductive BehindOperand (frames : List Frame) (level : Level) (t : Token) :
    Operand → State → Prop where
  | literalFactorial (l : Literal) (h : t.terminal = .bang) :
      BehindOperand frames level t (.literal l) (.expression frames level
        (.behind (if l.signed then .closed l.factorial else .primary l.factorial)))
  | literalPower (l : Literal) (h : t.terminal = .caret) :
      BehindOperand frames level t (.literal l)
        (.expression frames (level.openPrefix (.literalPower l)) .before)
  | units (l : Literal) (h : t.terminal = .unit) :
      BehindOperand frames level t (.literal l)
        (.expression frames level (.quantity l (.named none (UnitRun.unit t))))
  | factorial (tree : Tree) (h : t.terminal = .bang) :
      BehindOperand frames level t (.primary tree)
        (.expression frames level (.behind (.primary (.node .factorial [tree]))))
  | power (tree : Tree) (h : t.terminal = .caret) :
      BehindOperand frames level t (.primary tree)
        (.expression frames (level.openPrefix (.power tree)) .before)
  | factor (o : Operand) (s : State) (h : BehindFactor level (level.factor o.tree) t frames s) :
      BehindOperand frames level t o s

/-- The states behind a numeral with units, one token later. -/
inductive BehindUnits (frames : List Frame) (level : Level) (l : Literal) (t : Token) :
    UnitRun → State → Prop where
  | units (us us' : UnitRun) (h : us.step t = some us') :
      BehindUnits frames level l t us (.expression frames level (.quantity l us'))
  | joined (p : Production) (run : Tree) (s : State) (hend : (UnitRun.joined p run).step t = none)
      (h : BeforeOperand frames
        (level.openProduct (productOfUnits p) (level.quantityFactor l run)) t s) :
      BehindUnits frames level l t (.joined p run) s
  | factor (us : UnitRun) (run : Tree) (s : State) (hend : us.step t = none)
      (hrun : us.tree? = some run)
      (h : BehindFactor level (level.quantityFactor l run) t frames s) :
      BehindUnits frames level l t us s

/-- The states that a token leads to. -/
inductive Steps (t : Token) : State → State → Prop where
  | before (frames : List Frame) (level : Level) (s : State)
      (h : BeforeOperand frames level t s) : Steps t (.expression frames level .before) s
  | argument (frames : List Frame) (level : Level) (f : FunctionName) (juxtaposed : Bool)
      (s : State) (h : BeforeArgument frames level f juxtaposed t s) :
      Steps t (.expression frames level (.argument f juxtaposed)) s
  | behind (frames : List Frame) (level : Level) (o : Operand) (s : State)
      (h : BehindOperand frames level t o s) : Steps t (.expression frames level (.behind o)) s
  | quantity (frames : List Frame) (level : Level) (l : Literal) (us : UnitRun) (s : State)
      (h : BehindUnits frames level l t us s) :
      Steps t (.expression frames level (.quantity l us)) s
  | conversion (source : Tree) (us us' : UnitRun) (h : us.step t = some us') :
      Steps t (.conversion source us) (.conversion source us')

section Cases

variable {frames : List Frame} {level : Level} {t : Token} {s s' : State}

theorem beforeOperand_cases (h : beforeOperand frames level t = some s') :
    BeforeOperand frames level t s' := by
  unfold beforeOperand at h
  split at h
  · rename_i hl
    cases h
    exact .literal _ hl
  · rename_i hconst
    cases h
    exact .constant _ hconst
  · rename_i hf
    cases h
    exact .function _ hf
  · split at h <;> cases h
    · rename_i ht
      exact .plus ht
    · rename_i ht
      exact .minus ht
    · rename_i ht
      exact .group ht

theorem beforeArgument_cases {f : FunctionName} {juxtaposed : Bool}
    (h : beforeArgument frames level f juxtaposed t = some s') :
    BeforeArgument frames level f juxtaposed t s' := by
  unfold beforeArgument at h
  simp only at h
  split at h
  · rename_i ht
    cases h
    exact .operand _ (.inl ⟨ht, rfl⟩)
  · rename_i ht
    cases h
    exact .group ht
  · split at h
    · rename_i tree hconst
      cases h
      exact .operand tree (.inr hconst)
    · cases h

theorem behindFactor_cases {factor : Tree} (h : behindFactor frames level factor t = some s') :
    BehindFactor level factor t frames s' := by
  unfold behindFactor at h
  simp only at h
  split at h
  -- the signs of products, then those of sums
  · rename_i ht
    cases h
    exact .product frames .mul (by simp [ht])
  · rename_i ht
    cases h
    exact .product frames .div (by simp [ht])
  · rename_i ht
    cases h
    exact .product frames .mod (by simp [ht])
  · rename_i ht
    cases h
    exact .sum frames .add (by simp [ht])
  · rename_i ht
    cases h
    exact .sum frames .sub (by simp [ht])
  · rename_i ht
    cases h
    exact .group frames ht
  -- A closing bracket needs an open one, and an arrow that none is open.
  · rename_i ht
    cases frames with
    | nil => cases h
    | cons frame frames =>
      cases h
      exact .close frame frames ht
  · rename_i ht
    cases frames with
    | nil =>
      cases h
      exact .conversion ht
    | cons => cases h
  -- Everything else has to start an operand.
  · split at h
    · rename_i hl
      split at h
      · rename_i hsigned
        cases h
        exact .signed frames _ hl hsigned
      · cases h
    · rename_i hconst
      cases h
      exact .constant frames _ hconst
    · rename_i hf
      cases h
      exact .function frames _ hf
    · cases h

theorem behindOperand_cases {o : Operand} (h : behindOperand frames level o t = some s') :
    BehindOperand frames level t o s' := by
  unfold behindOperand at h
  split at h
  · rename_i l ht
    cases h
    exact .literalFactorial l ht
  · rename_i l ht
    cases h
    exact .literalPower l ht
  · rename_i l ht
    cases h
    exact .units l ht
  · rename_i tree ht
    cases h
    exact .factorial tree ht
  · rename_i tree ht
    cases h
    exact .power tree ht
  · exact .factor _ s' (behindFactor_cases h)

theorem behindUnits_cases {l : Literal} {us : UnitRun}
    (h : behindUnits frames level l us t = some s') : BehindUnits frames level l t us s' := by
  unfold behindUnits at h
  split at h
  · rename_i us' hus
    cases h
    exact .units us us' hus
  · rename_i hend
    split at h
    · rename_i p run
      exact .joined p run s' hend (beforeOperand_cases h)
    · split at h
      · rename_i run hrun
        exact .factor us run s' hend hrun (behindFactor_cases h)
      · cases h

theorem step_cases (h : s.step t = some s') : Steps t s s' := by
  cases s with
  | expression frames level progress =>
    cases progress with
    | before => exact .before frames level s' (beforeOperand_cases h)
    | argument f juxtaposed =>
      exact .argument frames level f juxtaposed s' (beforeArgument_cases h)
    | behind o => exact .behind frames level o s' (behindOperand_cases h)
    | quantity l us => exact .quantity frames level l us s' (behindUnits_cases h)
  | conversion source us =>
    simp only [step, Option.map_eq_some_iff] at h
    obtain ⟨us', hus, rfl⟩ := h
    exact .conversion source us us' hus

end Cases

/-! ### The cases are exact -/

section Exact

variable {frames : List Frame} {level : Level} {t : Token} {s s' : State}

theorem BeforeOperand.eq_some (h : BeforeOperand frames level t s) :
    beforeOperand frames level t = some s := by
  cases h with
  | literal l h => simp [beforeOperand, h]
  | constant tree h =>
    have hl : Literal.ofToken? t = none := by
      rcases (constant?_eq_some h).1 with ht | ht <;> simp [Literal.ofToken?, ht]
    simp [beforeOperand, hl, h]
  | function f h =>
    obtain ⟨_, hl, hc⟩ := functionName_ofToken? h
    simp [beforeOperand, hl, hc, h]
  | plus ht => simp [beforeOperand, Literal.ofToken?, constant?, FunctionName.ofToken?, ht]
  | minus ht => simp [beforeOperand, Literal.ofToken?, constant?, FunctionName.ofToken?, ht]
  | group ht => simp [beforeOperand, Literal.ofToken?, constant?, FunctionName.ofToken?, ht]

theorem BeforeArgument.eq_some {f : FunctionName} {juxtaposed : Bool}
    (h : BeforeArgument frames level f juxtaposed t s) :
    beforeArgument frames level f juxtaposed t = some s := by
  cases h with
  | operand tree h =>
    rcases h with ⟨ht, rfl⟩ | h
    · simp [beforeArgument, ht]
    · rcases (constant?_eq_some h).1 with ht | ht <;> simp [beforeArgument, ht, h]
  | group ht => simp [beforeArgument, ht]

theorem BehindFactor.eq_some {factor : Tree} (h : BehindFactor level factor t frames s) :
    behindFactor frames level factor t = some s := by
  cases h with
  | product frames p h =>
    rcases mem_productSigns.mp h with ⟨rfl, ht⟩ | ⟨rfl, ht⟩ | ⟨rfl, ht⟩ <;>
      simp [behindFactor, ht]
  | sum frames p h =>
    rcases mem_sumSigns.mp h with ⟨rfl, ht⟩ | ⟨rfl, ht⟩ <;> simp [behindFactor, ht]
  | group frames ht => simp [behindFactor, ht]
  | close frame frames ht => simp [behindFactor, ht]
  | conversion ht => simp [behindFactor, ht]
  | signed frames l h hsigned =>
    rcases literal_ofToken? h with ⟨hplain, _⟩ | ⟨_, ht | ht⟩
    · rw [hsigned] at hplain
      cases hplain
    · simp [behindFactor, ht, h, hsigned]
    · simp [behindFactor, ht, h, hsigned]
  | constant frames tree h =>
    rcases (constant?_eq_some h).1 with ht | ht <;>
      simp [behindFactor, Literal.ofToken?, ht, h]
  | function frames f h =>
    obtain ⟨ht | ht | ht, hl, hc⟩ := functionName_ofToken? h <;>
      simp [behindFactor, hl, hc, ht, h]

/-- What may follow an operand of its own does not follow a complete factor. -/
theorem BehindFactor.terminal_ne {factor : Tree} (h : BehindFactor level factor t frames s) :
    t.terminal ≠ .bang ∧ t.terminal ≠ .caret ∧ t.terminal ≠ .unit := by
  refine ⟨?_, ?_, ?_⟩ <;> intro ht <;>
    simpa [behindFactor, Literal.ofToken?, constant?, FunctionName.ofToken?, ht] using h.eq_some

theorem BehindOperand.eq_some {o : Operand} (h : BehindOperand frames level t o s) :
    behindOperand frames level o t = some s := by
  cases h with
  | literalFactorial l ht => simp [behindOperand, ht]
  | literalPower l ht => simp [behindOperand, ht]
  | units l ht => simp [behindOperand, ht]
  | factorial tree ht => simp [behindOperand, ht]
  | power tree ht => simp [behindOperand, ht]
  | factor o s h =>
    obtain ⟨hbang, hcaret, hunit⟩ := h.terminal_ne
    unfold behindOperand
    split
    · contradiction
    · contradiction
    · contradiction
    · contradiction
    · contradiction
    · exact h.eq_some

theorem BehindUnits.eq_some {l : Literal} {us : UnitRun} (h : BehindUnits frames level l t us s) :
    behindUnits frames level l us t = some s := by
  unfold behindUnits
  cases h with
  | units us us' h => simp [h]
  | joined p run s hend h =>
    simp only [hend]
    exact h.eq_some
  | factor us run s hend hrun h =>
    simp only [hend]
    cases us with
    | start | raised | joined => cases hrun
    | named | whole =>
      simp only [hrun]
      exact h.eq_some

theorem Steps.eq_some (h : Steps t s s') : s.step t = some s' := by
  cases h with
  | before frames level s h => exact h.eq_some
  | argument frames level f juxtaposed s h => exact h.eq_some
  | behind frames level o s h => exact h.eq_some
  | quantity frames level l us s h => exact h.eq_some
  | conversion source us us' h => simp [step, h]

end Exact

end State

/-! ## Parses -/

/-- A parse succeeds where the run of all tokens may finish. -/
theorem parse_eq_ok_iff {tokens : List Token} {tree : Tree} :
    parse tokens = .ok tree ↔
      ∃ s, State.start.run tokens = .ok s ∧ s.finish? = some tree := by
  unfold parse
  constructor
  · intro h
    split at h
    · rename_i s hrun
      split at h
      · rename_i hfinish
        cases h
        exact ⟨s, hrun, hfinish⟩
      · cases h
    · cases h
  · rintro ⟨s, hrun, hfinish⟩
    rw [hrun]
    simp only [hfinish]

end UnitCalc.Expr
