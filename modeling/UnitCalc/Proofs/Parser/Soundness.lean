import UnitCalc.Proofs.Parser.Step
import UnitCalc.Proofs.Parser.Yield

/-!
# What the parser reads is derived

Each state of the parser stands for the tokens that led to it: open operators leave a place
open in what these tokens derive, operands are yielded by a piece of them, and brackets keep
all of this once more. `State.Reads` says so, one step preserves it, and with it a run. Where
the input may end, the whole of it yields the tree.
-/

namespace UnitCalc.Expr

open Grammar

/-! ## Numerals -/

namespace Literal

variable {l n : Literal} {c : Category} {t k t' : Token} {ts us : List Token} {u : Tree}

/-- A token is a numeral in the place of a factor, or, if it has a sign, of a signed factor. -/
def At (l : Literal) (c : Category) (t : Token) : Prop :=
  ofToken? t = some l ∧ (c = .factor ∨ c = .signedFactor ∧ l.signed = true)

theorem At.cases (h : l.At c t) :
    l.signed = false ∧ c = .factor ∧ Yields .plainNumber [t] l.tree ∨
      l.signed = true ∧ Yields .signedNumber [t] l.tree ∧
        ∀ a tree, Yields .signedFactor a tree → Yields c a tree := by
  obtain ⟨hl, hc⟩ := h
  rcases derives_of_ofToken? hl with ⟨hs, hd⟩ | ⟨hs, hd⟩
  · rcases hc with rfl | ⟨_, hs'⟩
    · exact .inl ⟨hs, rfl, .of_derives hd rfl⟩
    · simp [hs] at hs'
  · refine .inr ⟨hs, .of_derives hd rfl, ?_⟩
    intro a tree h
    rcases hc with rfl | ⟨rfl, _⟩
    · exact h.promoted (by decide)
    · exact h

/-- A number can be a factor and the operand of a factorial or of a power. -/
theorem postfixed_of_plainNumber (h : Yields .plainNumber ts u) : Yields .postfixed ts u := by
  have hatom : Yields .atom ts u := h.promoted (by decide)
  exact hatom.promoted (by decide)

theorem factor_of_postfixed (h : Yields .postfixed ts u) : Yields .factor ts u := by
  have hpower : Yields .power ts u := h.promoted (by decide)
  exact hpower.promoted (by decide)

theorem At.yields (h : l.At c t) : Yields c [t] l.tree := by
  rcases h.cases with ⟨_, rfl, hy⟩ | ⟨_, hy, hc⟩
  · exact factor_of_postfixed (postfixed_of_plainNumber hy)
  · exact hc _ _ (hy.promoted (by decide))

theorem yields_exponent (h : ofToken? t = some l) : Yields .exponent [t] l.tree := by
  rcases derives_of_ofToken? h with ⟨_, hd⟩ | ⟨_, hd⟩
  · exact (Yields.of_derives hd rfl).promoted (by decide)
  · exact (Yields.of_derives hd rfl).promoted (by decide)

/-- A numeral and a caret leave the place of the exponent open. -/
theorem At.opens_power (h : l.At c t) (hk : k.terminal = .caret) :
    Opens c .factor [t, k] l.power := by
  intro rest tree hr
  have hx : operand? k = none := by simp [operand?, hk]
  rcases h.cases with ⟨hs, rfl, hy⟩ | ⟨hs, hy, hc⟩
  · have hpost := postfixed_of_plainNumber hy
    have hpower : Yields .power ([t] ++ k :: rest) (l.power tree) := by
      simpa [power, hs] using hpost.between (p := .pow) hr (by decide) hk hx
    exact hpower.promoted (by decide)
  · refine hc _ _ ?_
    simpa [power, hs] using
      hy.between (c := .signedFactor) (p := .signedPow) hr (by decide) hk hx

theorem At.factorial (h : l.At c t) (hk : k.terminal = .bang) :
    if l.signed then Yields c [t, k] l.factorial
    else c = .factor ∧ Yields .postfixed [t, k] l.factorial := by
  have hx : operand? k = none := by simp [operand?, hk]
  rcases h.cases with ⟨hs, rfl, hy⟩ | ⟨hs, hy, hc⟩
  · have hpost := postfixed_of_plainNumber hy
    simpa [Literal.factorial, hs] using
      hpost.ended (c := .postfixed) (p := .factorial) (by decide) hk hx
  · simpa [Literal.factorial, hs] using hc _ _
      (hy.ended (c := .signedFactor) (p := .signedFactorial) (by decide) hk hx)

theorem At.quantity (h : l.At c t) (hu : Yields .units us u) :
    Yields c (t :: us) (l.quantity u) := by
  rcases h.cases with ⟨hs, rfl, hy⟩ | ⟨hs, hy, hc⟩
  · have hm : Yields .magnitude [t] l.tree := hy.promoted (by decide)
    have hq : Yields .quantity ([t] ++ us) (l.quantity u) := by
      simpa [Literal.quantity, hs] using hm.beside (p := .quantity) hu (by decide)
    exact hq.promoted (by decide)
  · have hm : Yields .signedMagnitude [t] l.tree := hy.promoted (by decide)
    have hq : Yields .signedQuantity ([t] ++ us) (l.quantity u) := by
      simpa [Literal.quantity, hs] using hm.beside (p := .signedQuantity) hu (by decide)
    exact hc _ _ (hq.promoted (by decide))

theorem At.scaledQuantity (h : l.At c t) (hk : k.terminal = .caret) (hn : ofToken? t' = some n)
    (hu : Yields .units us u) : Yields c (t :: k :: t' :: us) (l.scaledQuantity n u) := by
  have hx : operand? k = none := by simp [operand?, hk]
  have he := yields_exponent hn
  rcases h.cases with ⟨hs, rfl, hy⟩ | ⟨hs, hy, hc⟩
  · have hm := hy.between (c := .magnitude) (p := .scaled) he (by decide) hk hx
    have hq : Yields .quantity (([t] ++ k :: [t']) ++ us) (l.scaledQuantity n u) := by
      simpa [Literal.scaledQuantity, hs] using hm.beside (p := .quantity) hu (by decide)
    exact hq.promoted (by decide)
  · have hm := hy.between (c := .signedMagnitude) (p := .signedScaled) he (by decide) hk hx
    have hq : Yields .signedQuantity (([t] ++ k :: [t']) ++ us) (l.scaledQuantity n u) := by
      simpa [Literal.scaledQuantity, hs] using hm.beside (p := .signedQuantity) hu (by decide)
    exact hc _ _ (hq.promoted (by decide))

end Literal

/-! ## Runs of units -/

namespace UnitRun

variable {left : Option (Production × Tree)} {run u : Tree} {a ts : List Token} {t : Token}

/-- The tokens that led to a run of units. -/
def Reads : UnitRun → List Token → Prop
  | .start, ts => ts = []
  | .named left base, ts => ∃ a b, ts = a ++ b ∧
      Opens .units .unitFactor a (.closeOver left) ∧ Yields .unitName b base
  | .raised left base, ts => ∃ a b k, ts = a ++ (b ++ [k]) ∧ k.terminal = .caret ∧
      Opens .units .unitFactor a (.closeOver left) ∧ Yields .unitName b base
  | .whole left factor, ts => ∃ a b, ts = a ++ b ∧
      Opens .units .unitFactor a (.closeOver left) ∧ Yields .unitFactor b factor
  | .joined p run, ts => ∃ a k, ts = a ++ [k] ∧ Yields .units a run ∧
      (p, k.terminal) ∈ unitSigns

theorem opens_nothing : Opens .units .unitFactor [] (.closeOver none) :=
  fun _ _ h => h.promoted (by decide)

theorem opens_beside (h : Yields .units a run) :
    Opens .units .unitFactor a (.closeOver (some (.unitMul, run))) :=
  fun _ _ hr => h.beside hr (by decide)

theorem opens_joined {p : Production} (h : Yields .units a run)
    (hp : (p, t.terminal) ∈ unitSigns) :
    Opens .units .unitFactor (a ++ [t]) (.closeOver (some (p, run))) := by
  intro rest tree hr
  have hx : operand? t = none := operand?_of_mem_unitSigns hp
  rw [List.append_assoc]
  rcases mem_unitSigns.mp hp with ⟨rfl, ht⟩ | ⟨rfl, ht⟩
  · exact h.between hr (by decide) ht hx
  · exact h.between hr (by decide) ht hx

theorem yields_unit (ht : t.terminal = .unit) : Yields .unitName [t] (unit t) := by
  have h : Derives .unitName [t] (.node .unit (operand? t).toList) :=
    .lone (x := .unit) (by decide) ht
  refine .of_derives ?_ rfl
  simpa [operand?, ht, unit] using h

theorem Reads.tree? {r : UnitRun} (h : r.Reads ts) (hr : r.tree? = some u) :
    Yields .units ts u := by
  cases r with
  | named left base =>
    obtain ⟨a, b, rfl, ho, hb⟩ := h
    cases hr
    exact ho _ _ (hb.promoted (by decide))
  | whole left factor =>
    obtain ⟨a, b, rfl, ho, hb⟩ := h
    cases hr
    exact ho _ _ hb
  | start | raised | joined => cases hr

theorem Reads.step {r r' : UnitRun} (h : r.Reads ts) (hr : r.step t = some r') :
    r'.Reads (ts ++ [t]) := by
  cases step_cases hr with
  | start ht =>
    obtain rfl : ts = [] := h
    exact ⟨[], [t], rfl, opens_nothing, yields_unit ht⟩
  | joined p run ht =>
    obtain ⟨a, k, rfl, hy, hp⟩ := h
    exact ⟨a ++ [k], [t], rfl, opens_joined hy hp, yields_unit ht⟩
  | raised left base l hl =>
    obtain ⟨a, b, k, rfl, hk, ho, hb⟩ := h
    have hx : operand? k = none := by simp [operand?, hk]
    refine ⟨a, b ++ k :: [t], by simp, ho, ?_⟩
    exact hb.between (Literal.yields_exponent hl) (by decide) hk hx
  | named left base ht =>
    obtain ⟨a, b, rfl, ho, hb⟩ := h
    exact ⟨a, b, t, by simp, ht, ho, hb⟩
  | extended _ _ run hrun hextends =>
    cases hextends with
    | unit ht => exact ⟨ts, [t], rfl, opens_beside (h.tree? hrun), yields_unit ht⟩
    | joined p hp => exact ⟨ts, t, rfl, h.tree? hrun, hp⟩

end UnitRun

/-! ## Open operators -/

/-- The operators in front of an operand of category `c`, which stand in a place of
category `d`. -/
inductive Fronts (d : Category) : Category → List Token → List OpenPrefix → Prop where
  | nil : Fronts d d [] []
  | plus {a : List Token} {t : Token} {os : List OpenPrefix} (h : Fronts d .factor a os)
      (ht : t.terminal = .plus) : Fronts d .factor (a ++ [t]) (.plus :: os)
  | minus {a : List Token} {t : Token} {os : List OpenPrefix} (h : Fronts d .factor a os)
      (ht : t.terminal = .minus) : Fronts d .factor (a ++ [t]) (.minus :: os)
  | power {a b : List Token} {k : Token} {base : Tree} {os : List OpenPrefix}
      (h : Fronts d .factor a os) (hb : Yields .postfixed b base) (hk : k.terminal = .caret) :
      Fronts d .factor (a ++ (b ++ [k])) (.power base :: os)
  | literalPower {c : Category} {a : List Token} {t k : Token} {l : Literal}
      {os : List OpenPrefix} (h : Fronts d c a os) (hl : l.At c t) (hk : k.terminal = .caret) :
      Fronts d .factor (a ++ [t, k]) (.literalPower l :: os)

theorem Fronts.opens {d c : Category} {a : List Token} {os : List OpenPrefix}
    (h : Fronts d c a os) :
    Opens d c a (fun operand => os.foldl (fun tree o => o.close tree) operand) := by
  induction h with
  | nil => exact Opens.id d
  | @plus a t os _ ht ih =>
    have hx : operand? t = none := by simp [operand?, ht]
    have ho : Opens .factor .factor [t] OpenPrefix.plus.close :=
      fun _ _ hr => hr.unsigned (by decide) ht hx
    exact ih.comp ho
  | @minus a t os _ ht ih =>
    have hx : operand? t = none := by simp [operand?, ht]
    have ho : Opens .factor .factor [t] OpenPrefix.minus.close :=
      fun _ _ hr => hr.headed (by decide) ht hx
    exact ih.comp ho
  | @power a b k base os _ hb hk ih =>
    have hx : operand? k = none := by simp [operand?, hk]
    have ho : Opens .factor .factor (b ++ [k]) (OpenPrefix.power base).close := by
      intro rest tree hr
      rw [List.append_assoc]
      have hpower := hb.between (c := .power) (p := .pow) hr (by decide) hk hx
      exact hpower.promoted (by decide)
    exact ih.comp ho
  | literalPower _ hl hk ih => exact ih.comp (hl.opens_power hk)

namespace Level

variable {level : Level} {c : Category} {a b ts us : List Token} {t : Token} {tree u : Tree}
  {l : Literal}

/-- The tokens behind which a level waits for an operand of category `c`. -/
def Reads (level : Level) (c : Category) (ts : List Token) : Prop :=
  ∃ s d a₁ a₂ a₃, ts = a₁ ++ (a₂ ++ a₃) ∧ (s = .term ∨ s = .signedTerm) ∧
    Opens .expr s a₁ (.closeOver level.sum) ∧ Opens s d a₂ (.closeOver level.product) ∧
    Fronts d c a₃ level.inFront

/-- The tokens up to a complete factor of a level. -/
def Behind (level : Level) (factor : Tree) (ts : List Token) : Prop :=
  ∃ s a b, ts = a ++ b ∧ (s = .term ∨ s = .signedTerm) ∧
    Opens .expr s a (.closeOver level.sum) ∧ Yields s b (level.term factor)

theorem reads_empty : empty.Reads .factor [] :=
  ⟨.term, .factor, [], [], [], rfl, .inl rfl, fun _ _ h => h.promoted (by decide),
    fun _ _ h => h.promoted (by decide), .nil⟩

theorem Reads.openFront {o : OpenPrefix} (h : level.Reads c a)
    (ho : ∀ d a, Fronts d c a level.inFront → Fronts d .factor (a ++ b) (o :: level.inFront)) :
    (level.openPrefix o).Reads .factor (a ++ b) := by
  obtain ⟨s, d, a₁, a₂, a₃, rfl, hs, hsum, hproduct, hfronts⟩ := h
  exact ⟨s, d, a₁, a₂, a₃ ++ b, by simp, hs, hsum, hproduct, ho d a₃ hfronts⟩

theorem Reads.behind (h : level.Reads c a) (hy : Yields c b tree) :
    level.Behind (level.factor tree) (a ++ b) := by
  obtain ⟨s, d, a₁, a₂, a₃, rfl, hs, hsum, hproduct, hfronts⟩ := h
  refine ⟨s, a₁, a₂ ++ (a₃ ++ b), by simp, hs, hsum, ?_⟩
  exact hproduct _ _ (hfronts.opens _ _ hy)

/-- A quantity behind the power of a numeral is yielded in both readings. -/
theorem Reads.behind_quantity (h : level.Reads c a) (hl : l.At c t) (hu : Yields .units us u) :
    level.Behind (level.quantityFactor l u) (a ++ t :: us) := by
  have plain := h.behind (hl.quantity hu)
  obtain ⟨sum, product, inFront⟩ := level
  obtain ⟨s, d, a₁, a₂, a₃, rfl, hs, hsum, hproduct, hfronts⟩ := h
  cases hfronts with
  | @literalPower c a₃ t' k base os hfronts hbase hk =>
    have hpower : Yields c (t' :: k :: t :: us) (base.power (l.quantity u)) :=
      hbase.opens_power hk _ _ (hl.quantity hu)
    have hscaled : Yields c (t' :: k :: t :: us) (base.scaledQuantity l u) :=
      hbase.scaledQuantity hk hl.1 hu
    refine ⟨s, a₁, a₂ ++ (a₃ ++ t' :: k :: t :: us), by simp, hs, hsum, ?_⟩
    exact hproduct _ _ (hfronts.opens _ _ (hpower.choice hscaled))
  | nil | plus | minus | power => exact plain

theorem Behind.expression (h : level.Behind tree ts) : Yields .expr ts (level.expression tree) := by
  obtain ⟨s, a, b, rfl, _, hsum, hterm⟩ := h
  exact hsum _ _ hterm

theorem Behind.openProduct {p : Production} (h : level.Behind tree ts)
    (hp : (p, t.terminal) ∈ productSigns) :
    (level.openProduct p tree).Reads .factor (ts ++ [t]) := by
  obtain ⟨s, a, b, rfl, hs, hsum, hterm⟩ := h
  refine ⟨s, .factor, a, b ++ [t], [], by simp, hs, hsum, ?_, .nil⟩
  intro rest r hr
  rw [List.append_assoc]
  have hx : operand? t = none := operand?_of_mem_productSigns hp
  rw [mem_productSigns] at hp
  rcases hs with rfl | rfl <;> rcases hp with ⟨rfl, ht⟩ | ⟨rfl, ht⟩ | ⟨rfl, ht⟩ <;>
    exact hterm.between hr (by decide) ht hx

theorem Behind.juxtapose (h : level.Behind tree ts) :
    (level.openProduct .mul tree).Reads .juxtaposed ts := by
  obtain ⟨s, a, b, rfl, hs, hsum, hterm⟩ := h
  refine ⟨s, .juxtaposed, a, b, [], by simp, hs, hsum, ?_, .nil⟩
  intro rest r hr
  rcases hs with rfl | rfl <;> exact hterm.beside hr (by decide)

theorem Behind.openSum {p : Production} (h : level.Behind tree ts)
    (hp : (p, t.terminal) ∈ sumSigns) :
    (level.openSum p tree).Reads .factor (ts ++ [t]) := by
  refine ⟨.term, .factor, ts ++ [t], [], [], by simp, .inl rfl, ?_,
    fun _ _ h => h.promoted (by decide), .nil⟩
  intro rest r hr
  rw [List.append_assoc]
  have hx : operand? t = none := operand?_of_mem_sumSigns hp
  rcases mem_sumSigns.mp hp with ⟨rfl, ht⟩ | ⟨rfl, ht⟩
  · exact h.expression.between hr (by decide) ht hx
  · exact h.expression.between hr (by decide) ht hx

theorem Behind.openSum_signed (h : level.Behind tree ts) :
    (level.openSum .add tree).Reads .signedFactor ts :=
  ⟨.signedTerm, .signedFactor, ts, [], [], by simp, .inr rfl,
    fun _ _ hr => h.expression.beside hr (by decide), fun _ _ h => h.promoted (by decide), .nil⟩

end Level

/-! ## Operands and brackets -/

/-- The tokens of an operand in a place of category `c`. -/
def Operand.Reads : Operand → Category → List Token → Prop
  | .literal l, c, ts => ∃ t, ts = [t] ∧ l.At c t
  | .primary tree, c, ts => c = .factor ∧ Yields .postfixed ts tree
  | .closed tree, c, ts => Yields c ts tree

/-- The category of the place where a group, a constant or a function stands. -/
def placeOf (juxtaposed : Bool) : Category :=
  if juxtaposed then .juxtaposed else .factor

theorem Operand.Reads.yields {o : Operand} {c : Category} {ts : List Token} (h : o.Reads c ts) :
    Yields c ts o.tree := by
  cases o with
  | literal l =>
    obtain ⟨t, rfl, hl⟩ := h
    exact hl.yields
  | primary tree =>
    obtain ⟨rfl, hy⟩ := h
    exact Literal.factor_of_postfixed hy
  | closed tree => exact h

/-- Groups, constants and functions are atoms and can be juxtaposed. -/
theorem Operand.reads_ofTree {e : Category} {ts : List Token} {tree : Tree} {j : Bool}
    (h : Yields e ts tree) (he : e ∈ [Category.group, .constant, .function]) :
    (Operand.ofTree j tree).Reads (placeOf j) ts := by
  simp only [List.mem_cons, List.not_mem_nil, or_false] at he
  cases j with
  | true =>
    show Yields .juxtaposed ts tree
    rcases he with rfl | rfl | rfl <;> exact h.promoted (by decide)
  | false =>
    have hatom : Yields .atom ts tree := by
      rcases he with rfl | rfl | rfl <;> exact h.promoted (by decide)
    exact ⟨rfl, hatom.promoted (by decide)⟩

theorem yields_number {t : Token} (ht : t.terminal = .number) :
    Yields .plainNumber [t] (Literal.tree ⟨false, t.terminal, t.text⟩) := by
  have hlit : Literal.ofToken? t = some ⟨false, t.terminal, t.text⟩ := by
    simp [Literal.ofToken?, ht]
  rcases Literal.derives_of_ofToken? hlit with ⟨_, hd⟩ | ⟨hs, _⟩
  · exact .of_derives hd rfl
  · cases hs

theorem yields_constant {t : Token} {tree : Tree} (h : constant? t = some tree) :
    Yields .constant [t] tree := by
  unfold constant? at h
  split at h
  · rename_i ht
    cases h
    have hd : Derives .constant [t] (.node .e (operand? t).toList) :=
      .lone (x := .e) (by decide) ht
    exact .of_derives (by simpa [operand?, ht] using hd) rfl
  · rename_i ht
    cases h
    have hd : Derives .constant [t] (.node .pi (operand? t).toList) :=
      .lone (x := .pi) (by decide) ht
    exact .of_derives (by simpa [operand?, ht] using hd) rfl
  · cases h

theorem yields_function {t : Token} {f : FunctionName} {a : List Token} {tree : Tree}
    (ht : FunctionName.ofToken? t = some f) (h : Yields .argument a tree) :
    Yields .function (t :: a) (f.apply tree) := by
  unfold FunctionName.ofToken? at ht
  split at ht <;> cases ht
  all_goals
    rename_i ht
    exact h.headed (by decide) ht (by simp [operand?, ht])

/-- What stands in the innermost bracket becomes an operand when the bracket is closed. -/
def Frame.Opens (frame : Frame) (c : Category) (ts : List Token) : Prop :=
  ∀ b tree t, Yields .expr b tree → t.terminal = .rightParen →
    (frame.operand tree).Reads c (ts ++ (b ++ [t]))

theorem yields_group {a : List Token} {t t' : Token} {tree : Tree} (h : Yields .expr a tree)
    (ht : t.terminal = .leftParen) (ht' : t'.terminal = .rightParen) :
    Yields .group (t :: (a ++ [t'])) tree :=
  h.enclosed (by decide) ht (by simp [operand?, ht]) ht' (by simp [operand?, ht'])

theorem Frame.opens_group {level : Level} {j : Bool} {t : Token}
    (ht : t.terminal = .leftParen) : Frame.Opens ⟨level, none, j⟩ (placeOf j) [t] :=
  fun _ _ _ hb ht' => Operand.reads_ofTree (yields_group hb ht ht') (by decide)

theorem Frame.opens_function {level : Level} {j : Bool} {f : FunctionName} {t t' : Token}
    (ht : FunctionName.ofToken? t = some f) (ht' : t'.terminal = .leftParen) :
    Frame.Opens ⟨level, some f, j⟩ (placeOf j) [t, t'] := by
  intro b tree k hb hk
  have hgroup : Yields .argument (t' :: (b ++ [k])) tree :=
    (yields_group hb ht' hk).promoted (by decide)
  exact Operand.reads_ofTree (yields_function ht hgroup) (by decide)

/-- The tokens up to the innermost open bracket. -/
inductive FramesRead : List Frame → List Token → Prop where
  | nil : FramesRead [] []
  | cons {frame : Frame} {frames : List Frame} {c : Category} {f a b : List Token}
      (hf : FramesRead frames f) (hl : frame.level.Reads c a) (ho : frame.Opens c b) :
      FramesRead (frame :: frames) (f ++ (a ++ b))

/-! ## States -/

/-- The tokens since the last open operator, where an operand of category `c` has to stand. -/
def Progress.Reads : Progress → Category → List Token → Prop
  | .before, c, ts => c = .factor ∧ ts = []
  | .argument f j, c, ts =>
    c = placeOf j ∧ ∃ t, ts = [t] ∧ FunctionName.ofToken? t = some f
  | .behind o, c, ts => o.Reads c ts
  | .quantity l us, c, ts => ∃ t a, ts = t :: a ∧ l.At c t ∧ us.Reads a

namespace State

variable {frames : List Frame} {level : Level} {c : Category} {f a b ts : List Token} {t : Token}
  {tree : Tree} {s' : State}

/-- The tokens that led to a state. -/
def Reads : State → List Token → Prop
  | .expression frames level progress, ts => ∃ c f a b, ts = f ++ (a ++ b) ∧
      FramesRead frames f ∧ level.Reads c a ∧ progress.Reads c b
  | .conversion source us, ts => ∃ a t b, ts = a ++ t :: b ∧ t.terminal = .arrow ∧
      Yields .expr a source ∧ us.Reads b

theorem reads_start : start.Reads [] :=
  ⟨.factor, [], [], [], rfl, .nil, Level.reads_empty, rfl, rfl⟩

theorem reads_before (hf : FramesRead frames f) (hl : level.Reads .factor a) :
    (State.expression frames level .before).Reads (f ++ a) :=
  ⟨.factor, f, a, [], by simp, hf, hl, rfl, rfl⟩

theorem reads_group {j : Bool} (hf : FramesRead frames f) (hl : level.Reads (placeOf j) a)
    (ht : t.terminal = .leftParen) :
    (State.expression (⟨level, none, j⟩ :: frames) .empty .before).Reads (f ++ (a ++ [t])) := by
  simpa using reads_before (.cons hf hl (Frame.opens_group ht)) Level.reads_empty

theorem beforeOperand_reads (hf : FramesRead frames f) (hl : level.Reads .factor a)
    (h : BeforeOperand frames level t s') : s'.Reads (f ++ (a ++ [t])) := by
  cases h with
  | literal l hlit => exact ⟨.factor, f, a, [t], rfl, hf, hl, t, rfl, hlit, .inl rfl⟩
  | constant tree hconst =>
    exact ⟨.factor, f, a, [t], rfl, hf, hl,
      Operand.reads_ofTree (j := false) (yields_constant hconst) (by decide)⟩
  | function fn hfn => exact ⟨.factor, f, a, [t], rfl, hf, hl, rfl, t, rfl, hfn⟩
  | plus ht => exact reads_before hf (hl.openFront fun _ _ hfronts => hfronts.plus ht)
  | minus ht => exact reads_before hf (hl.openFront fun _ _ hfronts => hfronts.minus ht)
  | group ht => exact reads_group (j := false) hf hl ht

theorem beforeArgument_reads {fn : FunctionName} {j : Bool} {t' : Token}
    (hf : FramesRead frames f) (hl : level.Reads (placeOf j) a)
    (ht' : FunctionName.ofToken? t' = some fn) (h : BeforeArgument frames level fn j t s') :
    s'.Reads (f ++ (a ++ [t', t])) := by
  cases h with
  | operand tree htree =>
    have hy : Yields .argument [t] tree := by
      rcases htree with ⟨ht, rfl⟩ | hconst
      · exact (yields_number ht).promoted (by decide)
      · exact (yields_constant hconst).promoted (by decide)
    exact ⟨placeOf j, f, a, [t', t], rfl, hf, hl,
      Operand.reads_ofTree (yields_function ht' hy) (by decide)⟩
  | group ht =>
    have hframe : Frame.Opens ⟨level, some fn, j⟩ (placeOf j) [t', t] :=
      Frame.opens_function ht' ht
    simpa using reads_before (.cons hf hl hframe) Level.reads_empty

/-- The state that an open sum, product, bracket or conversion leads to. -/
theorem behindFactor_reads (hf : FramesRead frames f) (hb : level.Behind tree a)
    (h : BehindFactor level tree t frames s') : s'.Reads (f ++ (a ++ [t])) := by
  cases h with
  | product _ p hp => exact reads_before hf (hb.openProduct hp)
  | sum _ p hp => exact reads_before hf (hb.openSum hp)
  | group _ ht => exact reads_group (j := true) hf hb.juxtapose ht
  | close frame frames ht =>
    cases hf with
    | cons hf hl ho => exact ⟨_, _, _, _, by simp, hf, hl, ho _ _ t hb.expression ht⟩
  | conversion ht =>
    cases hf
    exact ⟨a, t, [], by simp, ht, hb.expression, rfl⟩
  | signed _ l hlit hs =>
    exact ⟨.signedFactor, f, a, [t], rfl, hf, hb.openSum_signed, t, rfl, hlit, .inr ⟨rfl, hs⟩⟩
  | constant _ tree hconst =>
    exact ⟨.juxtaposed, f, a, [t], rfl, hf, hb.juxtapose,
      Operand.reads_ofTree (j := true) (yields_constant hconst) (by decide)⟩
  | function _ fn hfn =>
    exact ⟨.juxtaposed, f, a, [t], rfl, hf, hb.juxtapose, rfl, t, rfl, hfn⟩

theorem behindOperand_reads {o : Operand} (hf : FramesRead frames f) (hl : level.Reads c a)
    (ho : o.Reads c b) (h : BehindOperand frames level t o s') :
    s'.Reads (f ++ (a ++ (b ++ [t]))) := by
  cases h with
  | literalFactorial l ht =>
    obtain ⟨k, rfl, hk⟩ := ho
    have hfact := hk.factorial ht
    cases hs : l.signed with
    | true =>
      simp only [hs, if_true] at hfact
      exact ⟨c, f, a, [k, t], rfl, hf, hl, hfact⟩
    | false =>
      simp only [hs, Bool.false_eq_true, if_false] at hfact
      exact ⟨c, f, a, [k, t], rfl, hf, hl, hfact⟩
  | literalPower l ht =>
    obtain ⟨k, rfl, hk⟩ := ho
    exact reads_before hf (hl.openFront fun _ _ hfronts => hfronts.literalPower hk ht)
  | units l ht =>
    obtain ⟨k, rfl, hk⟩ := ho
    exact ⟨c, f, a, [k, t], rfl, hf, hl, k, [t], rfl, hk, [], [t], rfl,
      UnitRun.opens_nothing, UnitRun.yields_unit ht⟩
  | factorial tree ht =>
    obtain ⟨rfl, hy⟩ := ho
    exact ⟨.factor, f, a, b ++ [t], rfl, hf, hl, rfl,
      hy.ended (by decide) ht (by simp [operand?, ht])⟩
  | power tree ht =>
    obtain ⟨rfl, hy⟩ := ho
    exact reads_before hf (hl.openFront fun _ _ hfronts => hfronts.power hy ht)
  | factor _ _ hfactor => simpa using behindFactor_reads hf (hl.behind ho.yields) hfactor

/-- Where the units end, a product sign read last belongs to the expression. -/
theorem behindUnits_reads {l : Literal} {us : UnitRun} {k : Token} (hf : FramesRead frames f)
    (hl : level.Reads c a) (hk : l.At c k) (hu : us.Reads b)
    (h : BehindUnits frames level l t us s') : s'.Reads (f ++ (a ++ (k :: b ++ [t]))) := by
  cases h with
  | units _ us' hus =>
    exact ⟨c, f, a, k :: (b ++ [t]), by simp, hf, hl, k, b ++ [t], rfl, hk, hu.step hus⟩
  | joined p run _ _ hbefore =>
    obtain ⟨b, x, rfl, hrun, hp⟩ := hu
    have hbehind := hl.behind_quantity hk hrun
    have hproduct : (productOfUnits p, x.terminal) ∈ productSigns := by
      rcases mem_unitSigns.mp hp with ⟨rfl, hx⟩ | ⟨rfl, hx⟩ <;> simp [productOfUnits, hx]
    simpa using beforeOperand_reads hf (hbehind.openProduct hproduct) hbefore
  | factor _ run _ _ hrun hfactor =>
    simpa using behindFactor_reads hf (hl.behind_quantity hk (hu.tree? hrun)) hfactor

/-- One token further, the state stands for one token more. -/
theorem Reads.step {s : State} (hs : s.Reads ts) (h : s.step t = some s') :
    s'.Reads (ts ++ [t]) := by
  cases step_cases h with
  | before frames level _ h =>
    obtain ⟨c, f, a, b, rfl, hf, hl, rfl, rfl⟩ := hs
    simpa using beforeOperand_reads hf hl h
  | argument frames level fn j _ h =>
    obtain ⟨c, f, a, b, rfl, hf, hl, rfl, t', rfl, ht'⟩ := hs
    simpa using beforeArgument_reads hf hl ht' h
  | behind frames level o _ h =>
    obtain ⟨c, f, a, b, rfl, hf, hl, ho⟩ := hs
    simpa using behindOperand_reads hf hl ho h
  | quantity frames level l us _ h =>
    obtain ⟨c, f, a, b, rfl, hf, hl, k, b, rfl, hk, hu⟩ := hs
    simpa using behindUnits_reads hf hl hk hu h
  | conversion source us us' hus =>
    obtain ⟨a, k, b, rfl, hk, hy, hu⟩ := hs
    exact ⟨a, k, b ++ [t], by simp, hk, hy, hu.step hus⟩

theorem Reads.run {s : State} (hs : s.Reads ts) {us : List Token} (h : s.run us = .ok s') :
    s'.Reads (ts ++ us) := by
  induction us generalizing s ts with
  | nil =>
    cases h
    simpa using hs
  | cons t us ih =>
    simp only [State.run] at h
    split at h
    · rename_i s₁ hstep
      simpa using ih (hs.step hstep) h
    · cases h

/-- Where the input may end, all of it yields the tree. -/
theorem Reads.finish? {s : State} (hs : s.Reads ts) (h : s.finish? = some tree) :
    Yields .equation ts tree := by
  unfold State.finish? at h
  split at h
  · cases h
    obtain ⟨c, f, a, b, rfl, hf, hl, ho⟩ := hs
    cases hf
    exact (hl.behind ho.yields).expression.promoted (by decide)
  · obtain ⟨c, f, a, b, rfl, hf, hl, k, b, rfl, hk, hu⟩ := hs
    cases hf
    obtain ⟨run, hrun, rfl⟩ := Option.map_eq_some_iff.mp h
    exact (hl.behind_quantity hk (hu.tree? hrun)).expression.promoted (by decide)
  · obtain ⟨a, k, b, rfl, hk, hy, hu⟩ := hs
    obtain ⟨run, hrun, rfl⟩ := Option.map_eq_some_iff.mp h
    exact hy.between (hu.tree? hrun) (by decide) hk (by simp [operand?, hk])
  · cases h

end State

/-- The tree of a parse is yielded by the tokens. -/
theorem yields_of_parse {tokens : List Token} {tree : Tree} (h : parse tokens = .ok tree) :
    Yields .equation tokens tree := by
  obtain ⟨s, hrun, hfinish⟩ := parse_eq_ok_iff.mp h
  have hreads : s.Reads ([] ++ tokens) := State.reads_start.run hrun
  exact hreads.finish? hfinish

end UnitCalc.Expr
