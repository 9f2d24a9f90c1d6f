import UnitCalc.Proofs.Parser.Step

/-!
# Where the grammar can be read in two ways

A *span* is a numeral raised to a numeral with a unit behind it. Whether a span starts at an
index is a question about five terminals; `Phase` answers it while reading from left to right,
and the state of the parser knows the phase (`State.phase_step`).
-/

namespace UnitCalc.Expr

/-! ## Spans -/

namespace Terminal

/-- The terminals of numerals. -/
def numerals : List Terminal := [.number, .positiveNumber, .negativeNumber]

/-- The terminals of the names of functions. -/
def functions : List Terminal := [.sqrt, .log, .ln]

end Terminal

/-- A numeral, a caret, a numeral and a unit start at an index. A numeral right behind the
name of a function is the argument of the function, and not the base of a power. -/
def IsSpan (ts : List Terminal) (i : Nat) : Prop :=
  (∃ b ∈ Terminal.numerals, ts[i]? = some b) ∧ ts[i + 1]? = some .caret ∧
    (∃ x ∈ Terminal.numerals, ts[i + 2]? = some x) ∧ ts[i + 3]? = some .unit ∧
    (0 < i → ∀ f ∈ Terminal.functions, ts[i - 1]? ≠ some f)

instance (ts : List Terminal) (i : Nat) : Decidable (IsSpan ts i) :=
  inferInstanceAs (Decidable (_ ∧ _))

/-- The indices where spans start. -/
def spans (ts : List Terminal) : List Nat :=
  (List.range ts.length).filter fun i => IsSpan ts i

theorem mem_spans {ts : List Terminal} {i : Nat} : i ∈ spans ts ↔ IsSpan ts i := by
  simp only [spans, List.mem_filter, List.mem_range, decide_eq_true_eq, and_iff_right_iff_imp]
  rintro ⟨⟨b, _, hb⟩, _⟩
  exact (List.getElem?_eq_some_iff.mp hb).1

/-! ## Phases -/

/-- How much of a span the last terminals are. -/
inductive Phase where
  | other
  /-- The name of a function, whose argument may follow. -/
  | function
  /-- A numeral that can be the base of a span. -/
  | base
  /-- The base of a span and a caret. -/
  | caret
  /-- All of a span but the unit; this numeral can be a base, too. -/
  | exponent
deriving DecidableEq, Repr

/-- The phase behind a numeral. -/
def Phase.numeral : Phase → Phase
  | .function => .other
  | .caret => .exponent
  | _ => .base

/-- The phase one terminal later. -/
def Phase.step (p : Phase) (t : Terminal) : Phase :=
  if t ∈ Terminal.numerals then p.numeral
  else if t = .caret then if p = .base ∨ p = .exponent then .caret else .other
  else if t ∈ Terminal.functions then .function
  else .other

/-- The phase at the end of some terminals. -/
def phaseAfter (ts : List Terminal) : Phase := ts.foldl Phase.step .other

theorem phaseAfter_append_singleton (ts : List Terminal) (t : Terminal) :
    phaseAfter (ts ++ [t]) = (phaseAfter ts).step t := by
  simp [phaseAfter]

section Phases

variable {ts : List Terminal} {p : Phase} {t : Terminal}

theorem Phase.step_eq_function_iff : p.step t = .function ↔ t ∈ Terminal.functions := by
  cases p <;> cases t <;> decide

theorem Phase.step_eq_caret_iff :
    p.step t = .caret ↔ t = .caret ∧ (p = .base ∨ p = .exponent) := by
  cases p <;> cases t <;> decide

theorem Phase.step_eq_exponent_iff :
    p.step t = .exponent ↔ t ∈ Terminal.numerals ∧ p = .caret := by
  cases p <;> cases t <;> decide

theorem Phase.step_numeral_iff :
    (p.step t = .base ∨ p.step t = .exponent) ↔ t ∈ Terminal.numerals ∧ p ≠ .function := by
  cases p <;> cases t <;> decide

theorem phaseAfter_eq_function_iff :
    phaseAfter ts = .function ↔ ∃ f ∈ Terminal.functions, ts.getLast? = some f := by
  rcases List.eq_nil_or_concat ts with rfl | ⟨pre, x, rfl⟩
  · simp [phaseAfter]
  · rw [List.concat_eq_append, phaseAfter_append_singleton, Phase.step_eq_function_iff]
    simp

/-- At the exponent of a span the last three terminals are a base, a caret and a numeral. -/
theorem phaseAfter_eq_exponent_iff :
    phaseAfter ts = .exponent ↔ ∃ pre b x, ts = pre ++ [b, .caret, x] ∧ b ∈ Terminal.numerals ∧
      x ∈ Terminal.numerals ∧ ∀ f ∈ Terminal.functions, pre.getLast? ≠ some f := by
  have hfunction (pre : List Terminal) :
      phaseAfter pre ≠ .function ↔ ∀ f ∈ Terminal.functions, pre.getLast? ≠ some f := by
    simp [phaseAfter_eq_function_iff]
  constructor
  · intro h
    rcases List.eq_nil_or_concat ts with rfl | ⟨ts, x, rfl⟩
    · cases h
    rw [List.concat_eq_append, phaseAfter_append_singleton, Phase.step_eq_exponent_iff] at h
    obtain ⟨hx, h⟩ := h
    rcases List.eq_nil_or_concat ts with rfl | ⟨ts, k, rfl⟩
    · cases h
    rw [List.concat_eq_append, phaseAfter_append_singleton, Phase.step_eq_caret_iff] at h
    obtain ⟨rfl, h⟩ := h
    rcases List.eq_nil_or_concat ts with rfl | ⟨ts, b, rfl⟩
    · rcases h with h | h <;> cases h
    rw [List.concat_eq_append, phaseAfter_append_singleton, Phase.step_numeral_iff] at h
    exact ⟨ts, b, x, by simp, h.1, hx, (hfunction ts).mp h.2⟩
  · rintro ⟨pre, b, x, rfl, hb, hx, hpre⟩
    have hbase := Phase.step_numeral_iff.mpr ⟨hb, (hfunction pre).mpr hpre⟩
    have hcaret := Phase.step_eq_caret_iff.mpr ⟨rfl, hbase⟩
    have hexponent := Phase.step_eq_exponent_iff.mpr ⟨hx, hcaret⟩
    rw [show pre ++ [b, .caret, x] = pre ++ [b] ++ [.caret] ++ [x] by simp,
      phaseAfter_append_singleton, phaseAfter_append_singleton, phaseAfter_append_singleton]
    exact hexponent

/-- The last four terminals are a span if the last is a unit behind the exponent of one. -/
theorem isSpan_append_last {i : Nat} (h : i + 3 = ts.length) :
    IsSpan (ts ++ [t]) i ↔ phaseAfter ts = .exponent ∧ t = .unit := by
  have hparts : ∃ pre b k x, ts = pre ++ [b, k, x] ∧ pre.length = i := by
    rcases List.eq_nil_or_concat ts with rfl | ⟨ts, x, rfl⟩
    · simp at h
    rcases List.eq_nil_or_concat ts with rfl | ⟨ts, k, rfl⟩
    · simp at h
    rcases List.eq_nil_or_concat ts with rfl | ⟨ts, b, rfl⟩
    · simp at h
    exact ⟨ts, b, k, x, by simp, by simp at h; omega⟩
  obtain ⟨pre, b, k, x, rfl, rfl⟩ := hparts
  have hlast : (∀ f ∈ Terminal.functions, pre.getLast? ≠ some f) ↔
      (0 < pre.length → ∀ f ∈ Terminal.functions,
        (pre ++ [b, k, x] ++ [t])[pre.length - 1]? ≠ some f) := by
    rcases List.eq_nil_or_concat pre with rfl | ⟨pre, y, rfl⟩
    · simp
    · simp
  rw [phaseAfter_eq_exponent_iff, IsSpan, ← hlast]
  constructor
  · rintro ⟨⟨b', hb', hb⟩, hk, ⟨x', hx', hx⟩, ht, hpre⟩
    simp at hb hk hx ht
    subst hb hk hx ht
    exact ⟨⟨pre, b, x, rfl, hb', hx', hpre⟩, rfl⟩
  · rintro ⟨⟨pre', b', x', hparts, hb, hx, hpre⟩, rfl⟩
    obtain ⟨rfl, h⟩ := List.append_inj' hparts rfl
    cases h
    exact ⟨⟨b, hb, by simp⟩, by simp, ⟨x, hx, by simp⟩, by simp, hpre⟩

theorem IsSpan.lt {i : Nat} (h : IsSpan ts i) : i + 3 < ts.length :=
  (List.getElem?_eq_some_iff.mp h.2.2.2.1).1

theorem isSpan_append_of_lt {i : Nat} (h : i + 3 < ts.length) :
    IsSpan (ts ++ [t]) i ↔ IsSpan ts i := by
  simp only [IsSpan]
  rw [List.getElem?_append_left (by omega), List.getElem?_append_left (by omega),
    List.getElem?_append_left (by omega), List.getElem?_append_left (by omega),
    List.getElem?_append_left (by omega)]

/-- One terminal more adds a span exactly if it is a unit behind the exponent of one. -/
theorem spans_append_singleton (ts : List Terminal) (t : Terminal) :
    spans (ts ++ [t]) =
      if phaseAfter ts = .exponent ∧ t = .unit then spans ts ++ [ts.length - 3] else spans ts := by
  by_cases hlength : ts.length < 3
  · have hphase : phaseAfter ts ≠ .exponent := by
      intro h
      obtain ⟨pre, b, x, rfl, _⟩ := phaseAfter_eq_exponent_iff.mp h
      simp only [List.length_append, List.length_cons] at hlength
      omega
    rw [if_neg (fun h => hphase h.1)]
    have hnone (us : List Terminal) (hus : us.length ≤ 3) : spans us = [] := by
      rw [List.eq_nil_iff_forall_not_mem]
      intro i hi
      have hlt := (mem_spans.mp hi).lt
      omega
    rw [hnone ts (by omega), hnone _ (by simp; omega)]
  · obtain ⟨n, hn⟩ : ∃ n, n + 3 = ts.length := ⟨ts.length - 3, by omega⟩
    have hold (m : Nat) (hm : n ≤ m) : ¬ IsSpan ts m := fun h => by have := h.lt; omega
    have hnew (m : Nat) (hm : n < m) : ¬ IsSpan (ts ++ [t]) m := fun h => by
      have hlt := h.lt
      simp at hlt
      omega
    have hbefore : (List.range n).filter (fun i => IsSpan (ts ++ [t]) i) =
        (List.range n).filter (fun i => IsSpan ts i) := by
      refine List.filter_congr ?_
      intro i hi
      have hlt := List.mem_range.mp hi
      exact decide_eq_decide.mpr (isSpan_append_of_lt (by omega))
    have hleft : spans (ts ++ [t]) = (List.range n).filter (fun i => IsSpan ts i) ++
        [n].filter (fun i => IsSpan (ts ++ [t]) i) := by
      rw [spans, List.length_append, List.length_singleton, ← hn, List.range_succ,
        List.range_succ, List.range_succ, List.range_succ]
      simp [hbefore, List.filter_cons, hnew (n + 1) (by omega), hnew (n + 2) (by omega),
        hnew (n + 3) (by omega)]
    have hright : spans ts = (List.range n).filter (fun i => IsSpan ts i) := by
      rw [spans, ← hn, List.range_succ, List.range_succ, List.range_succ]
      simp [hold n (by omega), hold (n + 1) (by omega), hold (n + 2) (by omega)]
    rw [hleft, hright, ← hn, Nat.add_sub_cancel]
    have hn' := isSpan_append_last (t := t) hn
    by_cases h : phaseAfter ts = .exponent ∧ t = .unit
    · rw [if_pos h, List.filter_cons_of_pos (by simpa using hn'.mpr h), List.filter_nil]
    · rw [if_neg h, List.filter_cons_of_neg (by simpa using mt hn'.mp h), List.filter_nil,
        List.append_nil]

end Phases

/-! ## The phase of a state -/

/-- Whether the innermost open operator is the power of a numeral. -/
def Level.awaitsExponent (level : Level) : Bool :=
  match level.inFront with
  | .literalPower _ :: _ => true
  | _ => false

/-- Inside units a numeral is an exponent, behind which a unit starts no span. -/
def UnitRun.phase : UnitRun → Phase
  | .whole _ _ => .base
  | _ => .other

/-- The phase in which the tokens end that lead to a state. -/
def State.phase : State → Phase
  | .expression _ level .before => if level.awaitsExponent then .caret else .other
  | .expression _ _ (.argument _ _) => .function
  | .expression _ level (.behind (.literal _)) =>
    if level.awaitsExponent then .exponent else .base
  | .expression _ _ (.behind _) => .other
  | .expression _ _ (.quantity _ us) => us.phase
  | .conversion _ us => us.phase

section States

variable {frames : List Frame} {level : Level} {t : Token} {s s' : State}

theorem Literal.mem_numerals {l : Literal} (h : Literal.ofToken? t = some l) :
    t.terminal ∈ Terminal.numerals := by
  unfold Literal.ofToken? at h
  split at h <;> first | contradiction | simp_all [Terminal.numerals]

theorem mem_functions_of_ofToken? {f : FunctionName} (h : FunctionName.ofToken? t = some f) :
    t.terminal ∈ Terminal.functions := by
  unfold FunctionName.ofToken? at h
  split at h <;> first | contradiction | simp_all [Terminal.functions]

theorem Phase.step_numeral {p : Phase} {x : Terminal} (h : x ∈ Terminal.numerals) :
    p.step x = p.numeral := by
  rw [Phase.step, if_pos h]

theorem Phase.step_function {p : Phase} {x : Terminal} (h : x ∈ Terminal.functions) :
    p.step x = .function :=
  Phase.step_eq_function_iff.mpr h

/-- Terminals that are no numerals, carets or names of functions start anew. -/
theorem Phase.step_other {p : Phase} {x : Terminal} (h : x ∉ Terminal.numerals)
    (hc : x ≠ .caret) (hf : x ∉ Terminal.functions) : p.step x = .other := by
  rw [Phase.step, if_neg h, if_neg hc, if_neg hf]

theorem phase_ofTree (frames : List Frame) (level : Level) (j : Bool) (tree : Tree) :
    (State.expression frames level (.behind (.ofTree j tree))).phase = .other := by
  cases j <;> rfl

/-- Signs of sums, products and units start anew. -/
theorem step_sign {p : Phase} {q : Production} {x : Terminal}
    {signs : List (Production × Terminal)}
    (hsigns : ∀ sign ∈ signs, sign.2 ∉ Terminal.numerals ∧ sign.2 ≠ .caret ∧
      sign.2 ∉ Terminal.functions) (h : (q, x) ∈ signs) : p.step x = .other := by
  obtain ⟨hnumeral, hcaret, hfunction⟩ := hsigns (q, x) h
  exact Phase.step_other hnumeral hcaret hfunction

theorem step_constant {tree : Tree} {p : Phase} (h : constant? t = some tree) :
    p.step t.terminal = .other := by
  unfold constant? at h
  split at h
  · rename_i ht
    rw [ht]
    exact Phase.step_other (by decide) (by decide) (by decide)
  · rename_i ht
    rw [ht]
    exact Phase.step_other (by decide) (by decide) (by decide)
  · cases h

theorem UnitRun.phase_step {us us' : UnitRun} (h : us.step t = some us') :
    us'.phase = us.phase.step t.terminal := by
  cases step_cases h with
  | start ht | joined _ _ ht | named _ _ ht =>
    rw [ht]
    rfl
  | raised left base l hl =>
    rw [Phase.step_numeral (Literal.mem_numerals hl)]
    rfl
  | extended _ _ run _ hextends =>
    cases hextends with
    | unit ht =>
      rw [ht, Phase.step_other (by decide) (by decide) (by decide)]
      rfl
    | joined p hp =>
      rw [step_sign (by decide) hp]
      rfl

theorem phase_beforeOperand (h : State.BeforeOperand frames level t s') :
    s'.phase = (if level.awaitsExponent then Phase.caret else .other).step t.terminal := by
  cases h with
  | literal l hl =>
    rw [Phase.step_numeral (Literal.mem_numerals hl)]
    cases hlevel : level.awaitsExponent <;> simp [State.phase, Phase.numeral, hlevel]
  | constant tree hconst =>
    rw [step_constant hconst]
    rfl
  | function f hf =>
    rw [Phase.step_function (mem_functions_of_ofToken? hf)]
    rfl
  | plus ht | minus ht | group ht =>
    rw [ht, Phase.step_other (by decide) (by decide) (by decide)]
    rfl

theorem phase_beforeArgument {f : FunctionName} {j : Bool}
    (h : State.BeforeArgument frames level f j t s') :
    s'.phase = Phase.function.step t.terminal := by
  cases h with
  | operand tree htree =>
    rw [phase_ofTree]
    rcases htree with ⟨ht, _⟩ | hconst
    · rw [ht]
      rfl
    · rw [step_constant hconst]
  | group ht =>
    rw [ht]
    rfl

/-- Behind a factor no operand is awaited. -/
theorem phase_behindFactor {p : Phase} {factor : Tree} (hp : p ≠ .caret) (hp' : p ≠ .function)
    (h : State.BehindFactor level factor t frames s') : s'.phase = p.step t.terminal := by
  cases h with
  | product _ q hq =>
    rw [step_sign (by decide) hq]
    rfl
  | sum _ q hq =>
    rw [step_sign (by decide) hq]
    rfl
  | group _ ht | conversion ht =>
    rw [ht, Phase.step_other (by decide) (by decide) (by decide)]
    rfl
  | close frame frames ht =>
    rw [Frame.operand, phase_ofTree, ht, Phase.step_other (by decide) (by decide) (by decide)]
  | signed _ l hl _ =>
    rw [Phase.step_numeral (Literal.mem_numerals hl)]
    cases p <;> first | contradiction | rfl
  | constant _ tree hconst =>
    rw [step_constant hconst]
    rfl
  | function _ f hf =>
    rw [Phase.step_function (mem_functions_of_ofToken? hf)]
    rfl

theorem phase_behind_ne (frames : List Frame) (level : Level) (o : Operand) :
    (State.expression frames level (.behind o)).phase ≠ .caret ∧
      (State.expression frames level (.behind o)).phase ≠ .function := by
  cases o <;> cases hlevel : level.awaitsExponent <;> simp [State.phase, hlevel]

theorem phase_behindOperand {o : Operand} (h : State.BehindOperand frames level t o s') :
    s'.phase = (State.expression frames level (.behind o)).phase.step t.terminal := by
  cases h with
  | literalFactorial l ht =>
    rw [ht, Phase.step_other (by decide) (by decide) (by decide)]
    cases hs : l.signed <;> rfl
  | literalPower l ht =>
    rw [ht]
    cases hlevel : level.awaitsExponent <;> simp [State.phase, hlevel] <;> rfl
  | units l ht =>
    rw [ht, Phase.step_other (by decide) (by decide) (by decide)]
    rfl
  | factorial tree ht | power tree ht =>
    rw [ht]
    rfl
  | factor _ _ hfactor =>
    exact phase_behindFactor (phase_behind_ne _ _ _).1 (phase_behind_ne _ _ _).2 hfactor

theorem phase_behindUnits {l : Literal} {us : UnitRun}
    (h : State.BehindUnits frames level l t us s') : s'.phase = us.phase.step t.terminal := by
  cases h with
  | units _ us' hus => exact UnitRun.phase_step hus
  | joined p run _ _ hbefore =>
    rw [phase_beforeOperand hbefore]
    rfl
  | factor _ run _ _ _ hfactor =>
    refine phase_behindFactor ?_ ?_ hfactor <;> cases us <;> simp [UnitRun.phase]

/-- The parser keeps track of the phase. -/
theorem State.phase_step (h : s.step t = some s') : s'.phase = s.phase.step t.terminal := by
  cases step_cases h with
  | before _ _ _ h => exact phase_beforeOperand h
  | argument _ _ _ _ _ h => exact phase_beforeArgument h
  | behind _ _ _ _ h => exact phase_behindOperand h
  | quantity _ _ _ _ _ h => exact phase_behindUnits h
  | conversion _ _ _ hus => exact UnitRun.phase_step hus

end States

end UnitCalc.Expr
