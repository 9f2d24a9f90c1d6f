import Mathlib.Data.Set.Card
import UnitCalc.Proofs.Parser.Choice
import UnitCalc.Proofs.Parser.Language
import UnitCalc.Proofs.Parser.Span

/-!
# How ambiguous the grammar is

The parser makes one choice for every span: the choice is due when the unit of the span has
been read, and it is made when the units end. `State.Settles` counts the choices made and the
one due against the spans read so far, and one step preserves it. So the choices of a parse
tree stand for the spans one by one, and an expression has two readings for each of them.
-/

namespace UnitCalc.Expr

open Grammar

/-! ## The choices of a state -/

/-- The choices in the operand of an open operator. -/
def openChoices : Option (Production × Tree) → List (List Tree)
  | some (_, tree) => tree.choices
  | none => []

theorem choices_closeOver (left : Option (Production × Tree)) (right : Tree) :
    (Tree.closeOver left right).choices = openChoices left ++ right.choices := by
  cases left with
  | none => rfl
  | some left => exact Tree.choices_node_two _ _ _

def OpenPrefix.choices : OpenPrefix → List (List Tree)
  | .power base => base.choices
  | _ => []

/-- The choices in open operators in front of an operand, the innermost of which is first. -/
def frontChoices : List OpenPrefix → List (List Tree)
  | [] => []
  | o :: os => frontChoices os ++ o.choices

def Level.choices (level : Level) : List (List Tree) :=
  openChoices level.sum ++ (openChoices level.product ++ frontChoices level.inFront)

def framesChoices : List Frame → List (List Tree)
  | [] => []
  | frame :: frames => framesChoices frames ++ frame.level.choices

def UnitRun.choices : UnitRun → List (List Tree)
  | .start => []
  | .named left unit => openChoices left ++ unit.choices
  | .raised left unit => openChoices left ++ unit.choices
  | .whole left factor => openChoices left ++ factor.choices
  | .joined _ run => run.choices

def Progress.choices : Progress → List (List Tree)
  | .behind o => o.tree.choices
  | .quantity _ us => us.choices
  | _ => []

/-- The choices made so far, from left to right. -/
def State.choices : State → List (List Tree)
  | .expression frames level progress => framesChoices frames ++ (level.choices ++ progress.choices)
  | .conversion source us => source.choices ++ us.choices

section Choices

variable {frames : List Frame} {level : Level} {t : Token} {s s' : State} {tree u : Tree}
  {l : Literal} {us us' : UnitRun}

@[simp] theorem choices_empty : Level.empty.choices = [] := rfl

@[simp] theorem choices_literal (l : Literal) : l.tree.choices = [] := by
  simp [Literal.tree]

@[simp] theorem choices_unit (t : Token) : (UnitRun.unit t).choices = [] := by
  simp [UnitRun.unit]

@[simp] theorem choices_apply (f : FunctionName) (tree : Tree) :
    (f.apply tree).choices = tree.choices := by
  simp [FunctionName.apply]

@[simp] theorem choices_ofTree (j : Bool) (tree : Tree) :
    (Operand.ofTree j tree).tree.choices = tree.choices := by
  cases j <;> rfl

theorem choices_constant? (h : constant? t = some tree) : tree.choices = [] := by
  unfold constant? at h
  split at h <;> cases h <;> simp

theorem choices_frame (frame : Frame) (tree : Tree) :
    (frame.operand tree).tree.choices = tree.choices := by
  obtain ⟨level, f, j⟩ := frame
  cases f <;> simp [Frame.operand]

theorem choices_close (o : OpenPrefix) (tree : Tree) :
    (o.close tree).choices = o.choices ++ tree.choices := by
  cases o <;> simp [OpenPrefix.close, OpenPrefix.choices, Literal.power]

theorem choices_fronts (os : List OpenPrefix) (tree : Tree) :
    (os.foldl (fun tree o => o.close tree) tree).choices = frontChoices os ++ tree.choices := by
  induction os generalizing tree with
  | nil => rfl
  | cons o os ih =>
    rw [List.foldl_cons, ih, choices_close, frontChoices, List.append_assoc]

theorem choices_expression (level : Level) (factor : Tree) :
    (level.expression factor).choices =
      openChoices level.sum ++ (openChoices level.product ++ factor.choices) := by
  rw [Level.expression, Level.term, choices_closeOver, choices_closeOver]

/-- An operand brings its choices into the expression, behind those of the open operators. -/
theorem choices_expression_factor (level : Level) (tree : Tree) :
    (level.expression (level.factor tree)).choices = level.choices ++ tree.choices := by
  rw [choices_expression, Level.factor, choices_fronts, Level.choices]
  simp only [List.append_assoc]

/-- The two readings of a quantity behind the power of a numeral. -/
def Level.pairs (level : Level) (l : Literal) (units : Tree) : List (List Tree) :=
  match level.inFront with
  | .literalPower base :: _ => [[base.power (l.quantity units), base.scaledQuantity l units]]
  | _ => []

/-- A quantity brings a choice into the expression if it has two readings. -/
theorem choices_expression_quantity (level : Level) (l : Literal) (hu : u.choices = []) :
    (level.expression (level.quantityFactor l u)).choices =
      level.choices ++ level.pairs l u := by
  have plain : (level.expression (level.factor (l.quantity u))).choices = level.choices := by
    rw [choices_expression_factor, Literal.quantity, Tree.choices_node_two, choices_literal, hu]
    simp
  obtain ⟨sum, product, inFront⟩ := level
  cases inFront with
  | nil => exact plain.trans (List.append_nil _).symm
  | cons o os =>
    cases o with
    | plus | minus | power => exact plain.trans (List.append_nil _).symm
    | literalPower base =>
      rw [choices_expression]
      show _ ++ (_ ++ (os.foldl _ (Tree.choice _)).choices) = _
      rw [choices_fronts, Tree.choices_choice_two]
      simp [Level.pairs, Level.choices, frontChoices, OpenPrefix.choices, Literal.power,
        Literal.quantity, Literal.scaledQuantity, hu]

/-! ### What a step adds -/

theorem UnitRun.choices_of_tree? (h : us.tree? = some u) : u.choices = us.choices := by
  cases us with
  | named left unit | whole left factor =>
    cases h
    exact choices_closeOver _ _
  | start | raised | joined => cases h

theorem UnitRun.choices_step (h : us.step t = some us') : us'.choices = us.choices := by
  cases step_cases h with
  | start | joined => simp [UnitRun.choices, openChoices]
  | raised left base l hl => simp [UnitRun.choices]
  | named => rfl
  | extended _ _ run hrun hextends =>
    rw [← choices_of_tree? hrun]
    cases hextends <;> simp [UnitRun.choices, openChoices]

theorem UnitRun.choices_run {ts : List Token} (h : us.run ts = some us') :
    us'.choices = us.choices := by
  induction ts generalizing us with
  | nil =>
    cases h
    rfl
  | cons t ts ih =>
    obtain ⟨us₁, hstep, hrun⟩ := UnitRun.run_cons_eq_some_iff.mp h
    rw [ih hrun, UnitRun.choices_step hstep]

theorem choices_beforeOperand (h : State.BeforeOperand frames level t s') :
    s'.choices = framesChoices frames ++ level.choices := by
  cases h with
  | literal | function => simp [State.choices, Progress.choices, Operand.tree]
  | constant tree hconst =>
    simp [State.choices, Progress.choices, Operand.tree, choices_constant? hconst]
  | plus | minus =>
    simp [State.choices, Progress.choices, Level.choices, Level.openPrefix, frontChoices,
      OpenPrefix.choices]
  | group => simp [State.choices, Progress.choices, framesChoices]

theorem choices_beforeArgument {f : FunctionName} {j : Bool}
    (h : State.BeforeArgument frames level f j t s') :
    s'.choices = framesChoices frames ++ level.choices := by
  cases h with
  | operand tree htree =>
    have hnone : tree.choices = [] := by
      rcases htree with ⟨_, rfl⟩ | hconst
      · exact choices_literal _
      · exact choices_constant? hconst
    simp [State.choices, Progress.choices, hnone]
  | group => simp [State.choices, Progress.choices, framesChoices]

theorem choices_openProduct (level : Level) (p : Production) (factor : Tree) :
    (level.openProduct p factor).choices = (level.expression factor).choices := by
  simp [Level.choices, Level.openProduct, openChoices, frontChoices, choices_expression,
    Level.term, choices_closeOver]

theorem choices_openSum (level : Level) (p : Production) (factor : Tree) :
    (level.openSum p factor).choices = (level.expression factor).choices := by
  simp [Level.choices, Level.openSum, openChoices, frontChoices]

theorem choices_behindFactor {factor : Tree} (h : State.BehindFactor level factor t frames s') :
    s'.choices = framesChoices frames ++ (level.expression factor).choices := by
  cases h with
  | product | function => simp [State.choices, Progress.choices, choices_openProduct]
  | sum => simp [State.choices, Progress.choices, choices_openSum]
  | group => simp [State.choices, Progress.choices, framesChoices, choices_openProduct]
  | close => simp [State.choices, Progress.choices, framesChoices, choices_frame]
  | conversion => simp [State.choices, UnitRun.choices, framesChoices]
  | signed => simp [State.choices, Progress.choices, choices_openSum, Operand.tree]
  | constant _ tree hconst =>
    simp [State.choices, Progress.choices, choices_openProduct, Operand.tree,
      choices_constant? hconst]

theorem choices_behindOperand {o : Operand} (h : State.BehindOperand frames level t o s') :
    s'.choices = framesChoices frames ++ (level.choices ++ o.tree.choices) := by
  cases h with
  | literalFactorial l =>
    cases hs : l.signed <;> simp [State.choices, Progress.choices, Operand.tree, Literal.factorial]
  | literalPower | power =>
    simp [State.choices, Progress.choices, Level.choices, Level.openPrefix, frontChoices,
      OpenPrefix.choices, Operand.tree]
  | units => simp [State.choices, Progress.choices, UnitRun.choices, openChoices, Operand.tree]
  | factorial => simp [State.choices, Progress.choices, Operand.tree]
  | factor _ _ hfactor => rw [choices_behindFactor hfactor, choices_expression_factor]

end Choices

/-! ## Choices and spans -/

/-- Tokens that are units, and that do not make longer units with any of those behind. -/
structure UnitsEnd (a post : List Token) (u : Tree) : Prop where
  complete : ∃ us, UnitRun.start.run a = some us ∧ us.tree? = some u
  longest : ∀ v us, v ≠ [] → v <+: post → UnitRun.start.run (a ++ v) = some us → us.tree? = none

/-- A choice of the parser stands for the span at an index. It is settled when no token can be
part of its units any more. -/
def SettledAt (tokens : List Token) (i : Nat) (readings : List Tree) : Prop :=
  ∃ pre b k x a post base l u, tokens = pre ++ b :: k :: x :: (a ++ post) ∧ pre.length = i ∧
    Literal.ofToken? b = some base ∧ k.terminal = .caret ∧ Literal.ofToken? x = some l ∧
    UnitsEnd a post u ∧ UnitRun.start.run (a ++ post) = none ∧
    readings = [base.power (l.quantity u), base.scaledQuantity l u]

/-- A choice stands for the span at an index: it is between the power of the base to the
quantity of the second numeral, and the quantity of the power of the two numerals. Both have
all the units behind the span. -/
def ChoiceAt (tokens : List Token) (i : Nat) (readings : List Tree) : Prop :=
  ∃ pre b k x a post base l u, tokens = pre ++ b :: k :: x :: (a ++ post) ∧ pre.length = i ∧
    Literal.ofToken? b = some base ∧ k.terminal = .caret ∧ Literal.ofToken? x = some l ∧
    Derives .units a u ∧
    (∀ v, v ≠ [] → v <+: post → ∀ u', ¬ Derives .units (a ++ v) u') ∧
    readings = [base.power (l.quantity u), base.scaledQuantity l u]

section Settled

variable {a post ts : List Token} {u : Tree} {us : UnitRun} {t : Token} {i : Nat}
  {readings : List Tree}

theorem UnitRun.Reads.run {us us' : UnitRun} (h : us.Reads a) (hrun : us.run ts = some us') :
    us'.Reads (a ++ ts) := by
  induction ts generalizing us a with
  | nil =>
    cases hrun
    simpa using h
  | cons t ts ih =>
    obtain ⟨us₁, hstep, hrun⟩ := UnitRun.run_cons_eq_some_iff.mp hrun
    simpa using ih (h.step hstep) hrun

theorem UnitsEnd.choices (h : UnitsEnd a post u) : u.choices = [] := by
  obtain ⟨us, hrun, hu⟩ := h.complete
  rw [UnitRun.choices_of_tree? hu, UnitRun.choices_run hrun]
  rfl

theorem UnitsEnd.derives (h : UnitsEnd a post u) : Derives .units a u := by
  obtain ⟨us, hrun, hu⟩ := h.complete
  have hstart : UnitRun.start.Reads [] := rfl
  have hreads : us.Reads a := hstart.run hrun
  refine (hreads.tree? hu).2 u ?_
  rw [Tree.readings_of_choices_eq_nil u h.choices]
  exact List.mem_singleton_self u

theorem UnitsEnd.not_derives (h : UnitsEnd a post u) {v : List Token} (hv : v ≠ [])
    (hpre : v <+: post) (u' : Tree) : ¬ Derives .units (a ++ v) u' := by
  intro hd
  obtain ⟨us, hrun, hu⟩ := recognized_of_derives hd
  rw [h.longest v us hv hpre hrun] at hu
  cases hu

theorem SettledAt.append (h : SettledAt ts i readings) (t : Token) :
    SettledAt (ts ++ [t]) i readings := by
  obtain ⟨pre, b, k, x, a, post, base, l, u, rfl, hi, hb, hk, hx, hu, hdead, hreadings⟩ := h
  have hdead' : UnitRun.start.run (a ++ (post ++ [t])) = none := by
    rw [← List.append_assoc, UnitRun.run_append, hdead]
    rfl
  refine ⟨pre, b, k, x, a, post ++ [t], base, l, u, by simp, hi, hb, hk, hx,
    ⟨hu.complete, ?_⟩, hdead', hreadings⟩
  intro v us hv hpre hrun
  rcases List.prefix_concat_iff.mp hpre with rfl | hpre
  · rw [hdead'] at hrun
    cases hrun
  · exact hu.longest v us hv hpre hrun

theorem SettledAt.choiceAt (h : SettledAt ts i readings) : ChoiceAt ts i readings := by
  obtain ⟨pre, b, k, x, a, post, base, l, u, hts, hi, hb, hk, hx, hu, _, hreadings⟩ := h
  exact ⟨pre, b, k, x, a, post, base, l, u, hts, hi, hb, hk, hx, hu.derives,
    fun v hv hpre => hu.not_derives hv hpre, hreadings⟩

/-- The two readings of a choice are different, and have no choices themselves. -/
theorem isPair_quantity (base l : Literal) (hu : u.choices = []) :
    Tree.IsPair [base.power (l.quantity u), base.scaledQuantity l u] := by
  refine ⟨_, _, rfl, ?_, ?_, ?_⟩
  · simp [Literal.power, Literal.quantity, hu]
  · simp [Literal.scaledQuantity, hu]
  · cases hb : base.signed <;> simp [Literal.power, Literal.scaledQuantity, hb]

end Settled

/-! ## Every span becomes a choice -/

/-- The index of the span for which a choice is due, if the level in front of a quantity waits
for the exponent of a numeral. -/
def Level.DueAt (level : Level) (tokens : List Token) (due : List Nat) : Prop :=
  match level.inFront with
  | .literalPower base :: _ => ∃ pre b k, tokens = pre ++ [b, k] ∧
      Literal.ofToken? b = some base ∧ k.terminal = .caret ∧ due = [pre.length]
  | _ => due = []

/-- The index of the span for which a choice is due. -/
def State.Due : State → List Token → List Nat → Prop
  | .expression _ level (.quantity l us), tokens, due =>
    ∃ pre x a, tokens = pre ++ x :: a ∧ Literal.ofToken? x = some l ∧
      UnitRun.start.run a = some us ∧ level.DueAt pre due
  | _, _, due => due = []

/-- The spans read so far are those of the choices that are made and of the one that is
due. -/
structure State.Settles (s : State) (tokens : List Token) : Prop where
  reads : s.Reads tokens
  inPhase : s.phase = phaseAfter (tokens.map (·.terminal))
  matched : ∃ settled due, spans (tokens.map (·.terminal)) = settled ++ due ∧
    s.Due tokens due ∧ List.Forall₂ (SettledAt tokens) settled s.choices

section Due

variable {frames : List Frame} {level : Level} {t : Token} {s s' : State} {ts : List Token}
  {l : Literal} {us : UnitRun} {c : Category}

theorem due_beforeOperand (h : State.BeforeOperand frames level t s') : s'.Due ts [] := by
  cases h <;> rfl

theorem due_beforeArgument {f : FunctionName} {j : Bool}
    (h : State.BeforeArgument frames level f j t s') : s'.Due ts [] := by
  cases h <;> rfl

theorem due_behindFactor {factor : Tree} (h : State.BehindFactor level factor t frames s') :
    s'.Due ts [] := by
  cases h <;> rfl

/-- What is due in front of an operand is known from the tokens read. -/
theorem Level.Reads.dueAt (h : level.Reads c ts) (f : List Token) : ∃ due,
    level.DueAt (f ++ ts) due ∧
      due = if level.awaitsExponent then [(f ++ ts).length - 2] else [] := by
  obtain ⟨sum, product, inFront⟩ := level
  obtain ⟨s, d, a₁, a₂, a₃, rfl, _, _, _, hfronts⟩ := h
  cases hfronts with
  | @literalPower _ a b k base os _ hbase hk =>
    refine ⟨_, ⟨f ++ (a₁ ++ (a₂ ++ a)), b, k, by simp, hbase.1, hk, rfl⟩, ?_⟩
    simp [Level.awaitsExponent]
    omega
  | nil | plus | minus | power => exact ⟨_, rfl, rfl⟩

theorem UnitRun.tree?_of_step_joined {k : Token} {p : Production} {u : Tree}
    (h : us.step k = some (.joined p u)) : us.tree? = some u := by
  cases step_cases h with
  | extended _ _ run hrun hextends =>
    cases hextends
    exact hrun

/-- Units have ended where the next token cannot be part of them. -/
theorem unitsEnd_here {a : List Token} {u : Tree} (hrun : UnitRun.start.run a = some us)
    (hu : us.tree? = some u) (hstep : us.step t = none) :
    UnitsEnd a [t] u ∧ UnitRun.start.run (a ++ [t]) = none := by
  have hdead : UnitRun.start.run (a ++ [t]) = none := by
    rw [UnitRun.run_append, hrun]
    simp [UnitRun.run, hstep]
  refine ⟨⟨⟨us, hrun, hu⟩, ?_⟩, hdead⟩
  intro v us' hv hpre hrun'
  rw [← List.nil_append [t], List.prefix_concat_iff] at hpre
  rcases hpre with rfl | hpre
  · rw [List.nil_append, hdead] at hrun'
    cases hrun'
  · exact absurd (List.prefix_nil.mp hpre) hv

/-- Where the next token cannot follow the sign of a product, units have ended before the
sign. -/
theorem unitsEnd_before {a : List Token} {p : Production} {u : Tree}
    (hrun : UnitRun.start.run a = some (.joined p u))
    (hstep : (UnitRun.joined p u).step t = none) :
    ∃ a' k, a = a' ++ [k] ∧ UnitsEnd a' [k, t] u ∧ UnitRun.start.run (a' ++ [k, t]) = none := by
  rcases List.eq_nil_or_concat a with rfl | ⟨a', k, rfl⟩
  · cases hrun
  rw [List.concat_eq_append] at hrun
  have hdead : UnitRun.start.run (a' ++ [k, t]) = none := by
    rw [show a' ++ [k, t] = a' ++ [k] ++ [t] by simp, UnitRun.run_append, hrun]
    simp [UnitRun.run, hstep]
  have hsign := hrun
  rw [UnitRun.run_append, Option.bind_eq_some_iff] at hsign
  obtain ⟨us, hrun', hk⟩ := hsign
  have hu : us.tree? = some u := UnitRun.tree?_of_step_joined (by simpa [UnitRun.run] using hk)
  refine ⟨a', k, List.concat_eq_append, ⟨⟨us, hrun', hu⟩, ?_⟩, hdead⟩
  intro v us' hv hpre hv'
  -- Longer units would have the sign, or the sign and the token that cannot follow it.
  rw [show [k, t] = [] ++ [k] ++ [t] from rfl, List.prefix_concat_iff,
    List.prefix_concat_iff] at hpre
  rcases hpre with rfl | rfl | hpre
  · rw [show [] ++ [k] ++ [t] = [k, t] from rfl, hdead] at hv'
    cases hv'
  · rw [List.nil_append, hrun] at hv'
    cases hv'
    rfl
  · exact absurd (List.prefix_nil.mp hpre) hv

/-- Where the units of a quantity end, the quantity enters the expression, and nothing is due
any more. -/
theorem behindUnits_of_step_eq_none {a : List Token} (hrun : UnitRun.start.run a = some us)
    (hstep : us.step t = none) (h : State.BehindUnits frames level l t us s') :
    ∃ u a' post, a ++ [t] = a' ++ post ∧ UnitsEnd a' post u ∧
      UnitRun.start.run (a' ++ post) = none ∧
      s'.choices =
        framesChoices frames ++ (level.expression (level.quantityFactor l u)).choices ∧
      ∀ ts, s'.Due ts [] := by
  cases h with
  | units _ us' hus =>
    rw [hstep] at hus
    cases hus
  | joined p u _ _ hbefore =>
    obtain ⟨a', k, rfl, hu, hdead⟩ := unitsEnd_before hrun hstep
    refine ⟨u, a', [k, t], by simp, hu, hdead, ?_, fun _ => due_beforeOperand hbefore⟩
    rw [choices_beforeOperand hbefore, choices_openProduct]
  | factor _ u _ _ hu hfactor =>
    obtain ⟨hend, hdead⟩ := unitsEnd_here hrun hu hstep
    exact ⟨u, a, [t], rfl, hend, hdead, choices_behindFactor hfactor,
      fun _ => due_behindFactor hfactor⟩

end Due

namespace State.Settles

variable {frames : List Frame} {level : Level} {t : Token} {s s' : State} {ts : List Token}
  {l : Literal} {us : UnitRun}

theorem spans_append (h : s.Settles ts) (t : Token) :
    spans ((ts ++ [t]).map (·.terminal)) =
      if s.phase = .exponent ∧ t.terminal = .unit
      then spans (ts.map (·.terminal)) ++ [ts.length - 3] else spans (ts.map (·.terminal)) := by
  rw [List.map_append, List.map_singleton, spans_append_singleton, ← h.inPhase, List.length_map]

theorem inPhase_step (h : s.Settles ts) (hstep : s.step t = some s') :
    s'.phase = phaseAfter ((ts ++ [t]).map (·.terminal)) := by
  rw [State.phase_step hstep, h.inPhase, List.map_append, List.map_singleton,
    phaseAfter_append_singleton]

theorem start : State.start.Settles [] :=
  ⟨State.reads_start, rfl, [], [], rfl, rfl, .nil⟩

/-- A step that leaves spans, choices and what is due as they are. -/
theorem keep (h : s.Settles ts) (hstep : s.step t = some s')
    (hspans : ¬ (s.phase = .exponent ∧ t.terminal = .unit)) (hchoices : s'.choices = s.choices)
    (hdue : ∀ due, s.Due ts due → s'.Due (ts ++ [t]) due) : s'.Settles (ts ++ [t]) := by
  obtain ⟨settled, due, hmatched, hd, hsettled⟩ := h.matched
  refine ⟨h.reads.step hstep, h.inPhase_step hstep, settled, due, ?_, hdue due hd, ?_⟩
  · rw [h.spans_append, if_neg hspans, hmatched]
  · rw [hchoices]
    exact hsettled.imp fun _ _ hi => hi.append t

/-- Units that go on leave a choice due. -/
theorem step_units {us' : UnitRun} (hus : us.step t = some us')
    (h : (State.expression frames level (.quantity l us)).Settles ts) :
    (State.expression frames level (.quantity l us')).Settles (ts ++ [t]) := by
  have hstep : (State.expression frames level (.quantity l us)).step t =
      some (.expression frames level (.quantity l us')) := by
    simp [State.step, State.behindUnits, hus]
  refine h.keep hstep ?_ ?_ ?_
  · cases us <;> simp [State.phase, UnitRun.phase]
  · simp [State.choices, Progress.choices, UnitRun.choices_step hus]
  · rintro due ⟨pre, x, a, rfl, hx, hrun, hlevel⟩
    refine ⟨pre, x, a ++ [t], by simp, hx, ?_, hlevel⟩
    rw [UnitRun.run_append, hrun]
    simp [UnitRun.run, hus]

/-- Where the units end, the choice that is due is made. -/
theorem step_units_end (hus : us.step t = none)
    (hstep : (State.expression frames level (.quantity l us)).step t = some s')
    (h : (State.expression frames level (.quantity l us)).Settles ts) :
    s'.Settles (ts ++ [t]) := by
  obtain ⟨settled, due, hmatched, ⟨pre, x, a, rfl, hx, hrun, hlevel⟩, hsettled⟩ := h.matched
  obtain ⟨u, a', post, hsplit, hu, hdead, hchoices, hdue⟩ :=
    behindUnits_of_step_eq_none hrun hus (State.behindUnits_cases hstep)
  have hspans : ¬ ((State.expression frames level (.quantity l us)).phase = .exponent ∧
      t.terminal = .unit) := by
    cases us <;> simp [State.phase, UnitRun.phase]
  -- Units have no choices, so those before the step are the ones of the level and around it.
  have hus' : us.choices = [] := UnitRun.choices_run hrun
  have hold : (State.expression frames level (.quantity l us)).choices =
      framesChoices frames ++ level.choices := by
    simp [State.choices, Progress.choices, hus']
  have hmade : List.Forall₂ (SettledAt (pre ++ x :: a ++ [t])) due (level.pairs l u) := by
    unfold Level.DueAt at hlevel
    unfold Level.pairs
    split at hlevel
    · obtain ⟨pre, b, k, rfl, hb, hk, rfl⟩ := hlevel
      refine .cons ⟨pre, b, k, x, a', post, _, l, u, ?_, rfl, hb, hk, hx, hu, hdead, rfl⟩ .nil
      simp [← hsplit]
    · subst hlevel
      exact .nil
  refine ⟨h.reads.step hstep, h.inPhase_step hstep, settled ++ due, [], ?_, hdue _, ?_⟩
  · rw [h.spans_append, if_neg hspans, hmatched, List.append_nil]
  · rw [hchoices, choices_expression_quantity level l hu.choices, ← List.append_assoc, ← hold]
    exact List.rel_append (hsettled.imp fun _ _ hi => hi.append t) hmade

/-- Behind a numeral, a unit makes a choice due if the numeral is the exponent of a span. -/
theorem step_unit (ht : t.terminal = .unit)
    (h : (State.expression frames level (.behind (.literal l))).Settles ts) :
    (State.expression frames level (.quantity l (.named none (UnitRun.unit t)))).Settles
      (ts ++ [t]) := by
  have hstep : (State.expression frames level (.behind (.literal l))).step t =
      some (.expression frames level (.quantity l (.named none (UnitRun.unit t)))) := by
    simp [State.step, State.behindOperand, ht]
  obtain ⟨c, f, a, b, rfl, hf, hl, x, rfl, hx⟩ := h.reads
  obtain ⟨settled, _, hmatched, rfl, hsettled⟩ := h.matched
  obtain ⟨due, hlevel, hdue⟩ := hl.dueAt f
  refine ⟨h.reads.step hstep, h.inPhase_step hstep, settled, due, ?_, ?_, ?_⟩
  · rw [h.spans_append, hmatched, List.append_nil, hdue]
    cases hawaits : level.awaitsExponent
    · simp [State.phase, hawaits]
    · simp [State.phase, hawaits, ht]
      omega
  · exact ⟨f ++ a, x, [t], by simp, hx.1, by simp [UnitRun.run, UnitRun.step, ht], hlevel⟩
  · exact hsettled.imp fun _ _ hi => hi.append t

/-- One step makes the choice that is due, or lets one become due, or does neither. -/
theorem step (h : s.Settles ts) (hstep : s.step t = some s') : s'.Settles (ts ++ [t]) := by
  cases State.step_cases hstep with
  | before frames level _ hbefore =>
    refine h.keep hstep ?_ ?_ ?_
    · cases hlevel : level.awaitsExponent <;> simp [State.phase, hlevel]
    · rw [choices_beforeOperand hbefore]
      simp [State.choices, Progress.choices]
    · rintro due rfl
      exact due_beforeOperand hbefore
  | argument frames level f j _ hargument =>
    refine h.keep hstep (by simp [State.phase]) ?_ ?_
    · rw [choices_beforeArgument hargument]
      simp [State.choices, Progress.choices]
    · rintro due rfl
      exact due_beforeArgument hargument
  | behind frames level o _ hbehind =>
    by_cases hunit : ∃ l, o = .literal l ∧ t.terminal = .unit
    -- Units behind a numeral are the one place where a choice can become due.
    · obtain ⟨l, rfl, ht⟩ := hunit
      simp only [State.step, State.behindOperand, ht, Option.some.injEq] at hstep
      exact hstep ▸ h.step_unit ht
    · refine h.keep hstep ?_ ?_ ?_
      · rintro ⟨hphase, ht⟩
        cases o with
        | literal l => exact hunit ⟨l, rfl, ht⟩
        | primary | closed => cases hphase
      · rw [choices_behindOperand hbehind]
        rfl
      · rintro due rfl
        cases hbehind with
        | units l ht => exact absurd ⟨l, rfl, ht⟩ hunit
        | factor _ _ hfactor => exact due_behindFactor hfactor
        | literalFactorial | literalPower | factorial | power => rfl
  | quantity frames level l us _ hunits =>
    cases hus : us.step t with
    | none => exact h.step_units_end hus hstep
    | some us' =>
      simp only [State.step, State.behindUnits, hus, Option.some.injEq] at hstep
      exact hstep ▸ h.step_units hus
  | conversion source us us' hus =>
    refine h.keep hstep ?_ ?_ ?_
    · cases us <;> simp [State.phase, UnitRun.phase]
    · simp [State.choices, UnitRun.choices_step hus]
    · rintro due rfl
      rfl

theorem run {us : List Token} (h : s.Settles ts) (hrun : s.run us = .ok s') :
    s'.Settles (ts ++ us) := by
  induction us generalizing s ts with
  | nil =>
    cases hrun
    simpa using h
  | cons t us ih =>
    simp only [State.run] at hrun
    split at hrun
    · rename_i s₁ hstep
      simpa using ih (h.step hstep) hrun
    · cases hrun

/-- At the end of the input, the choice that is due is made, too. -/
theorem finish? {tree : Tree} (h : s.Settles ts) (hfinish : s.finish? = some tree) :
    List.Forall₂ (ChoiceAt ts) (spans (ts.map (·.terminal))) tree.choices := by
  obtain ⟨settled, due, hmatched, hdue, hsettled⟩ := h.matched
  have made : List.Forall₂ (ChoiceAt ts) settled s.choices := hsettled.imp fun _ _ hi => hi.choiceAt
  rw [hmatched]
  unfold State.finish? at hfinish
  split at hfinish
  · obtain rfl : due = [] := hdue
    cases hfinish
    rw [List.append_nil, choices_expression_factor]
    exact made
  · obtain ⟨pre, x, a, rfl, hx, hrun, hlevel⟩ := hdue
    obtain ⟨u, hu, rfl⟩ := Option.map_eq_some_iff.mp hfinish
    have hend : UnitsEnd a [] u :=
      ⟨⟨_, hrun, hu⟩, fun v _ hv hpre => absurd (List.prefix_nil.mp hpre) hv⟩
    rw [choices_expression_quantity _ _ hend.choices]
    refine List.rel_append ?_ ?_
    · have hus := UnitRun.choices_run hrun
      simpa [State.choices, Progress.choices, framesChoices, hus, UnitRun.choices.eq_1] using made
    · unfold Level.DueAt at hlevel
      unfold Level.pairs
      split at hlevel
      · obtain ⟨pre, b, k, rfl, hb, hk, rfl⟩ := hlevel
        refine .cons ⟨pre, b, k, x, a, [], _, _, u, by simp, rfl, hb, hk, hx, hend.derives,
          fun v hv hpre => hend.not_derives hv hpre, rfl⟩ .nil
      · subst hlevel
        exact .nil
  · obtain rfl : due = [] := hdue
    obtain ⟨u, hu, rfl⟩ := Option.map_eq_some_iff.mp hfinish
    rw [List.append_nil, Tree.choices_node_two, UnitRun.choices_of_tree? hu]
    exact made
  · cases hfinish

end State.Settles

/-! ## The number of readings -/

/-- The choices of a parse tree stand for the spans, one by one and in the same order. -/
theorem choices_of_parse {tokens : List Token} {tree : Tree} (h : parse tokens = .ok tree) :
    List.Forall₂ (ChoiceAt tokens) (spans (tokens.map (·.terminal))) tree.choices := by
  obtain ⟨s, hrun, hfinish⟩ := parse_eq_ok_iff.mp h
  have hsettles : s.Settles ([] ++ tokens) := State.Settles.start.run hrun
  exact hsettles.finish? hfinish

theorem ChoiceAt.isPair {tokens : List Token} {i : Nat} {readings : List Tree}
    (h : ChoiceAt tokens i readings) : Tree.IsPair readings := by
  obtain ⟨pre, b, k, x, a, post, base, l, u, _, _, _, _, _, hu, _, rfl⟩ := h
  exact isPair_quantity base l (Tree.choices_of_derives hu)

theorem isPair_of_forall₂ {tokens : List Token} {is : List Nat} {choices : List (List Tree)}
    (h : List.Forall₂ (ChoiceAt tokens) is choices) : ∀ c ∈ choices, Tree.IsPair c := by
  induction h with
  | nil => simp
  | cons hi _ ih =>
    intro c hc
    rcases List.mem_cons.mp hc with rfl | hc
    · exact hi.isPair
    · exact ih c hc

theorem nodup_readings_of_parse {tokens : List Token} {tree : Tree}
    (h : parse tokens = .ok tree) : tree.readings.Nodup :=
  Tree.nodup_readings tree (isPair_of_forall₂ (choices_of_parse h))

/-- There are as many derivation trees as readings, two for every span. -/
theorem ncard_derives_of_parse {tokens : List Token} {tree : Tree}
    (h : parse tokens = .ok tree) :
    {t | Derives .equation tokens t}.ncard =
      2 ^ (spans (tokens.map (·.terminal))).length := by
  classical
  have hset : {t | Derives .equation tokens t} = ↑tree.readings.toFinset := by
    ext t
    simp [mem_readings_of_parse h]
  have hlength : tree.readings.length = 2 ^ tree.choices.length :=
    Tree.length_readings tree (isPair_of_forall₂ (choices_of_parse h))
  rw [hset, Set.ncard_coe_finset, List.toFinset_card_of_nodup (nodup_readings_of_parse h),
    hlength, (choices_of_parse h).length_eq]

/-- A sentence of the grammar has two derivation trees for every span, and one if it has none.
Its parse tree has no reading twice, and its choices stand for the spans one by one and in the
same order: the power first, then the quantity. -/
theorem ambiguity_exact {tokens : List Token}
    (h : tokens.map (·.terminal) ∈ contextFreeGrammar.language) :
    {t | Derives .equation tokens t}.ncard = 2 ^ (spans (tokens.map (·.terminal))).length ∧
    (spans (tokens.map (·.terminal)) = [] → ∃! t, Derives .equation tokens t) ∧
    ∃ tree, parse tokens = .ok tree ∧ tree.readings.Nodup ∧
      List.Forall₂ (ChoiceAt tokens) (spans (tokens.map (·.terminal))) tree.choices := by
  obtain ⟨tree, hparse⟩ := parse_ok_iff.mpr (mem_language_iff.mp h)
  -- The readings are counted: the grammar's own derivations are the readings of the parse.
  have hcount := ncard_derives_of_parse hparse
  refine ⟨hcount, ?_, tree, hparse, nodup_readings_of_parse hparse, choices_of_parse hparse⟩
  intro hnone
  rw [hnone, List.length_nil, Nat.pow_zero, Set.ncard_eq_one] at hcount
  obtain ⟨t, ht⟩ := hcount
  have hmem (t' : Tree) : Derives .equation tokens t' ↔ t' = t := by
    rw [← Set.mem_singleton_iff, ← ht]
    rfl
  exact ⟨t, (hmem t).mpr rfl, fun t' ht' => (hmem t').mp ht'⟩

/-- The tokens of `2^3 m`. -/
def powerOrQuantity : List Token :=
  [⟨⟨"2", 0⟩, .number⟩, ⟨⟨"^", 1⟩, .caret⟩, ⟨⟨"3", 2⟩, .number⟩, ⟨⟨"m", 4⟩, .unit⟩]

theorem ambiguity_of_powerOrQuantity :
    powerOrQuantity.map (·.terminal) ∈ contextFreeGrammar.language ∧
      {t | Derives .equation powerOrQuantity t}.ncard = 2 := by
  have h : powerOrQuantity.map (·.terminal) ∈ contextFreeGrammar.language :=
    mem_language_iff.mpr (parse_ok_iff.mp ⟨_, rfl⟩)
  have hspans : spans (powerOrQuantity.map (·.terminal)) = [0] := by decide
  have hcount := (ambiguity_exact h).1
  rw [hspans] at hcount
  exact ⟨h, hcount⟩

end UnitCalc.Expr
