import UnitCalc.Proofs.Evaluator.Calculus
import UnitCalc.Proofs.Parser.Language

/-!
# The calculus of contexts

The units of a result are dictated by the expression: numbers are in SI units, a unit of length,
mass or time is in itself, and every production hands on the context of one of its operands or,
where units are multiplied or divided, joins two. Which one is kept on an axis depends on the
dimensions of the two, and so on exponents of units, but on no magnitude.

Conversion leaves a quantity as it is if the contexts are equal, and equal units can still differ
in the last digits of their factors. The grammar has conversions only at the root of a tree, so
no other result inherits such a context.
-/

namespace UnitCalc

/-! ## Contexts of operands and results -/

namespace Context

variable {K : Type} [Scalar K]

/-- The units of two joined operands: on each axis that of the left one, unless only the right one
has the axis. -/
def joined (c c' : Context K) (d d' : Dimension K) : Context K :=
  let unit (a : Axis) : Unit K :=
    if Scalar.isZero (d.get a) = true ∧ Scalar.isZero (d'.get a) = false then c'.get a
    else c.get a
  ⟨unit .length, unit .mass, unit .time⟩

@[simp] theorem get_joined (c c' : Context K) (d d' : Dimension K) (a : Axis) :
    (c.joined c' d d').get a =
      if Scalar.isZero (d.get a) = true ∧ Scalar.isZero (d'.get a) = false then c'.get a
      else c.get a := by
  cases a <;> rfl

theorem merge_eq_joined (c c' : Context K) (d d' : Dimension K) :
    c.merge c' d d' = c.joined c' d d' := by
  refine PerAxis.ext_get fun a => ?_
  rw [get_merge, get_joined, pick]
  cases Scalar.isZero (d.get a) <;> cases Scalar.isZero (d'.get a) <;> simp

/-- SI units, with a unit of length, mass or time on its own axis. -/
def ofUnit (u : Unit K) : Context K :=
  match u.axis? with
  | some axis => PerAxis.set Context.si u axis
  | none => .si

end Context

theorem Unit.units_quantity {K : Type} [Scalar K] (u : Unit K) :
    u.quantity.units = .ofUnit u := by
  unfold Unit.quantity Context.ofUnit
  cases u.axis? <;> rfl

/-- A conversion ends in the context it is to, or finds the units equal and does nothing. -/
theorem Quantity.units_toUnits {K : Type} [Scalar K] {q s : Quantity K} {c : Context K}
    (h : q.toUnits c = .ok s) : s.units = c ∨ c.eq q.units = true ∧ s = q := by
  by_cases heq : c.eq q.units = true
  · rw [toUnits_of_eq heq] at h
    cases h
    exact .inr ⟨heq, rfl⟩
  · have hcomputed : Outcome (fun s : Quantity K => s.units = c) (q.toUnits c) := by
      unfold toUnits
      rw [if_neg heq]
      refine (factorOf_outcome _ _).bind fun source _ => ?_
      refine (factorOf_outcome _ _).bind fun target _ => ?_
      exact (divideBy_outcome _ _).bind fun value _ =>
        (finite_outcome _ _ _ _).imp fun s hs => hs.units
    rw [h] at hcomputed
    exact .inl hcomputed

namespace Expr

variable {K : Type} [Scalar K]

/-! ## The rules -/

namespace Production

/-- The context that a production gives for those of its operands. Only products and quotients of
units need dimensions, too. -/
def resultContext? (p : Production) (contexts : List (Context K))
    (dims? : Option (List (Dimension K))) : Option (Context K) :=
  match p, contexts, dims? with
  | .factorial, _, _ => some .si
  | .signedFactorial, _, _ => some .si
  | .log, _, _ => some .si
  | .ln, _, _ => some .si
  | .e, _, _ => some .si
  | .pi, _, _ => some .si
  | .convert, [_, c], _ => some c
  | .quantity, [_, c], _ => some c
  | .signedQuantity, [_, c], _ => some c
  | .unitMul, [c, c'], some [d, d'] => some (c.joined c' d d')
  | .unitMul, _, _ => none
  | .unitDiv, [c, c'], some [d, d'] => some (c.joined c' d d')
  | .unitDiv, _, _ => none
  | _, c :: _, _ => some c
  | _, [], _ => none

/-- Whether a production is one of units. -/
def makesUnits : Production → Bool
  | .unit | .unitMul | .unitDiv | .unitPow => true
  | _ => false

/-- Dimensions count where units are made. -/
theorem resultContext?_congr {p : Production} (hp : p.makesUnits = false)
    (contexts : List (Context K)) (dims? dims?' : Option (List (Dimension K))) :
    p.resultContext? contexts dims? = p.resultContext? contexts dims?' := by
  match contexts with
  | [] | [_] | [_, _] | _ :: _ :: _ :: _ => cases p <;> first | rfl | cases hp

end Production

/-- The context of a leaf: that of a unit, or SI units. -/
def leafContext? (r : Registry K) (terminal : Terminal) (text : String) : Option (Context K) :=
  if terminal = .unit then (r.find? text).map .ofUnit else some .si

mutual

/-- The context of a tree. -/
def Tree.context? (r : Registry K) : Tree → Option (Context K)
  | .leaf terminal text => leafContext? r terminal text
  | .node p children => do
    let contexts ← Tree.contexts? r children
    p.resultContext? contexts (Tree.dimensions? r children)
  | .choice _ => none

/-- The contexts of some trees in a row. -/
def Tree.contexts? (r : Registry K) : List Tree → Option (List (Context K))
  | [] => some []
  | tree :: trees => do
    let context ← Tree.context? r tree
    let contexts ← Tree.contexts? r trees
    some (context :: contexts)

end

/-! ## Reductions follow the rules -/

section Reductions

variable {p : Production} {q s : Quantity K}

/-- The result of a production has the context that its rule gives. A conversion can leave its
operand as it is instead. -/
theorem Production.reduce_units {qs : List (Quantity K)} (harity : p.arity? = some qs.length)
    (hp : p ≠ .convert) :
    Outcome (fun s => p.resultContext? (qs.map (·.units)) (some (qs.map (·.dim))) = some s.units)
      (p.reduce qs) := by
  have hcomputed {x : Except (Fault K) (Quantity K)} {dim? : Option (Dimension K)}
      {c : Context K} (h : Outcome (Quantity.Computed dim? c) x) :
      Outcome (fun s => some c = some s.units) x := h.imp fun _ hs => congrArg some hs.units.symm
  have hplain (f : PlainFunction) (q : Quantity K) :
      Outcome (fun s => some .si = some s.units) (applyPlain f q) :=
    (applyPlain_outcome f q).imp fun _ ⟨_, hs⟩ => hs ▸ rfl
  match qs with
  | [] =>
    cases p <;> simp only [arity?, List.length_nil, reduceCtorEq, Option.some.injEq,
      OfNat.ofNat_ne_zero, one_ne_zero] at harity
    case e | pi => exact rfl
  | [q] =>
    cases p <;> simp [arity?] at harity
    case neg | number | signedNumber | unit => exact rfl
    case factorial => exact hplain .factorial q
    case signedFactorial => exact applySigned_outcome _ (fun _ => id) (hplain .factorial q.abs)
    case sqrt => exact hcomputed (q.powScalar_outcome _)
    case log => exact hplain .log q
    case ln => exact hplain .ln q
  | [q, r] =>
    cases p <;> simp [arity?] at harity
    case convert => exact absurd rfl hp
    case add => exact hcomputed (q.add_outcome r)
    case sub => exact hcomputed (q.sub_outcome r)
    case mul => exact hcomputed (q.mul_outcome r)
    case div => exact hcomputed (q.div_outcome r)
    case mod => exact hcomputed (q.mod_outcome r)
    case pow | scaled | unitPow => exact hcomputed (q.pow_outcome r)
    case signedPow | signedScaled =>
      exact applySigned_outcome (·.pow r) (fun _ => id) (hcomputed (q.abs.pow_outcome r))
    case quantity | signedQuantity => exact hcomputed (attach_outcome q r)
    case unitMul =>
      have h := hcomputed (q.compoundMul_outcome r)
      rw [Context.merge_eq_joined] at h
      exact h
    case unitDiv =>
      have h := hcomputed (q.compoundDiv_outcome r)
      rw [Context.merge_eq_joined] at h
      exact h
  | _ :: _ :: _ :: _ => cases p <;> simp [arity?] at harity

theorem Production.resultContext?_of_reduce {qs : List (Quantity K)} (hp : p ≠ .convert)
    (h : p.reduce qs = .ok s) :
    p.resultContext? (qs.map (·.units)) (some (qs.map (·.dim))) = some s.units := by
  by_cases harity : p.arity? = some qs.length
  · have houtcome := reduce_units harity hp
    rw [h] at houtcome
    exact houtcome
  · obtain ⟨text, herror⟩ := reduce_of_arity_ne harity
    rw [h] at herror
    cases herror

end Reductions

/-! ## Trees follow the rules -/

section Trees

variable {records : List (UnitRecord K)} {r : Registry K} {t : Tree}

theorem leafContext?_of_leafValue {terminal : Terminal} {text : String} {q : Quantity K}
    (h : leafValue r terminal text = .ok q) : leafContext? r terminal text = some q.units := by
  unfold leafValue at h
  unfold leafContext?
  by_cases hunit : terminal = .unit
  · rw [if_pos hunit] at h ⊢
    cases hu : r.find? text with
    | none => simp [Registry.quantity?, hu] at h
    | some u =>
      have hq : u.quantity = q := by
        simpa [Registry.quantity?, hu] using h
      rw [← hq, Option.map_some, Unit.units_quantity]
  · rw [if_neg hunit] at h ⊢
    cases hx : (numeralValue text : Except (Fault K) K) with
    | error f =>
      rw [hx] at h
      cases h
    | ok x =>
      rw [hx] at h
      cases h
      rfl

theorem contexts?_of_evaluate {ts : List Tree} {qs : List (Quantity K)}
    (h : List.Forall₂ (fun t q => evaluate r t = .ok q) ts qs)
    (hcontext : ∀ t ∈ ts, ∀ q, evaluate r t = .ok q → t.context? r = some q.units) :
    Tree.contexts? r ts = some (qs.map (·.units)) := by
  induction h with
  | nil => rw [Tree.contexts?, List.map_nil]
  | @cons t q ts qs hq _ ih =>
    have hrest := ih fun u hu => hcontext u (List.mem_cons_of_mem t hu)
    simp [Tree.contexts?, hcontext t List.mem_cons_self q hq, hrest]

/-- A tree without conversions. -/
def Tree.Unconverted (t : Tree) : Prop := ∀ children, .node .convert children ∉ t.nodes

theorem Tree.unconverted_node_iff {p : Production} {children : List Tree} :
    (node p children).Unconverted ↔ p ≠ .convert ∧ ∀ t ∈ children, t.Unconverted := by
  unfold Unconverted
  simp only [nodes, List.mem_cons, mem_nodesOfAll, node.injEq]
  constructor
  · intro h
    exact ⟨fun hp => h children (.inl ⟨hp.symm, rfl⟩),
      fun t ht children' hmem => h children' (.inr ⟨t, ht, hmem⟩)⟩
  · rintro ⟨hp, h⟩ children' (⟨hp', _⟩ | ⟨t, ht, hmem⟩)
    · exact hp hp'.symm
    · exact h t ht children' hmem

/-- The context of a value is that of its tree. -/
theorem context?_of_evaluate (hr : Registry.ofRecords records = .ok r) (h : t.choices = [])
    (hplain : t.Unconverted) : ∀ q, evaluate r t = .ok q → t.context? r = some q.units := by
  induction t, h using Tree.induction_of_choices with
  | leaf terminal text =>
    intro q hq
    rw [evaluate_leaf] at hq
    rw [Tree.context?]
    exact leafContext?_of_leafValue hq
  | node p children _ hchildren ih =>
    intro q hq
    obtain ⟨hp, hplain⟩ := Tree.unconverted_node_iff.mp hplain
    obtain ⟨qs, hqs, hreduce⟩ := exists_operands_of_evaluate hchildren hq
    have hvalues := mapM_evaluate_eq_ok hqs
    have hdims := dimensions?_of_evaluate hvalues fun t ht =>
      dimension?_of_evaluate hr (hchildren t ht)
    have hcontexts := contexts?_of_evaluate hvalues fun t ht => ih t ht (hplain t ht)
    rw [Tree.context?, hcontexts, hdims]
    exact Production.resultContext?_of_reduce hp hreduce

/-- A conversion ends in the context of its right operand, or in an equal one. -/
theorem context?_of_evaluate_convert (hr : Registry.ofRecords records = .ok r)
    {children : List Tree} (h : ∀ u ∈ children, u.choices = [] ∧ u.Unconverted) {q : Quantity K}
    (hq : evaluate r (.node .convert children) = .ok q) :
    ∃ left right c, children = [left, right] ∧ (Tree.node .convert children).context? r = some c ∧
      (q.units = c ∨ c.eq q.units = true ∧ evaluate r left = .ok q) := by
  obtain ⟨qs, hqs, hreduce⟩ := exists_operands_of_evaluate (fun u hu => (h u hu).1) hq
  have hvalues := mapM_evaluate_eq_ok hqs
  have hcontexts := contexts?_of_evaluate hvalues fun u hu =>
    context?_of_evaluate hr (h u hu).1 (h u hu).2
  have harity : Production.convert.arity? = some qs.length := by
    by_contra harity
    obtain ⟨text, herror⟩ := Production.reduce_of_arity_ne harity
    rw [hreduce] at herror
    cases herror
  match qs, harity, hvalues, hcontexts with
  | [p, units], _, .cons hleft (.cons _ .nil), hcontexts =>
    refine ⟨_, _, units.units, rfl, ?_, ?_⟩
    · rw [Tree.context?, hcontexts]
      rfl
    · rcases Quantity.units_toUnits hreduce with hunits | ⟨heq, rfl⟩
      · exact .inl hunits
      · exact .inr ⟨heq, hleft⟩

end Trees

/-! ## Trees of the grammar -/

section Grammar

open Grammar

/-- Whether a rule makes conversions of whole expressions only, and has these in no place. -/
def convertsLast (rule : Grammar.Rule) : Bool :=
  (rule.production != some .convert || rule.category == .equation) &&
    !rule.symbols.contains (.category .equation)

theorem convertsLast_of_mem : ∀ rule ∈ rules, convertsLast rule = true := by
  decide

/-- A tree that can be a conversion in one category only, and has none in it. -/
def Tree.ConvertsLast (c : Category) (t : Tree) : Prop :=
  t.Unconverted ∨ c = .equation ∧
    ∃ children, t = .node .convert children ∧ ∀ u ∈ children, u.Unconverted

namespace Tree.ConvertsLast

variable {c : Category} {symbols : List Symbol} {p : Production} {production? : Option Production}

/-- No place in a rule is for a whole expression. -/
theorem unconverted {d : Category} {t : Tree} (rule : ⟨c, symbols, production?⟩ ∈ rules)
    (hd : .category d ∈ symbols) (h : t.ConvertsLast d) : t.Unconverted := by
  refine h.resolve_right ?_
  rintro ⟨rfl, _⟩
  have hrule := convertsLast_of_mem _ rule
  simp [convertsLast, hd] at hrule

theorem node {children : List Tree} (rule : ⟨c, symbols, some p⟩ ∈ rules)
    (h : ∀ t ∈ children, t.Unconverted) : (Tree.node p children).ConvertsLast c := by
  by_cases hp : p = .convert
  · subst hp
    have hrule := convertsLast_of_mem _ rule
    simp only [convertsLast, Bool.and_eq_true] at hrule
    exact .inr ⟨by simpa using hrule.1, children, rfl, h⟩
  · exact .inl (unconverted_node_iff.mpr ⟨hp, h⟩)

end Tree.ConvertsLast

theorem unconverted_leaf (terminal : Terminal) (text : String) :
    (Tree.leaf terminal text).Unconverted := by
  simp [Tree.Unconverted, Tree.nodes]

/-- The grammar has conversions only at the root of a tree. -/
theorem convertsLast_of_derives {c : Category} {tokens : List Token} {t : Tree}
    (h : Derives c tokens t) : t.ConvertsLast c := by
  refine h.shapeInduction ?promoted ?between ?beside ?ended ?headed ?unsigned ?enclosed ?lone
  case promoted => exact fun rule _ hl => .inl (hl.unconverted rule (by simp))
  case unsigned => exact fun rule _ _ hl => .inl (hl.unconverted rule (by simp))
  case enclosed => exact fun rule _ _ _ hl => .inl (hl.unconverted rule (by simp))
  case between =>
    intro c d d' x p a b l r k rule _ _ hl _ hr
    have hleft := hl.unconverted rule (by simp)
    have hright := hr.unconverted rule (by simp)
    exact .node rule (by simp [hleft, hright])
  case beside =>
    intro c d d' p a b l r rule _ hl _ hr
    have hleft := hl.unconverted rule (by simp)
    have hright := hr.unconverted rule (by simp)
    exact .node rule (by simp [hleft, hright])
  case ended =>
    intro c d x p a l k rule _ _ hl
    have hleft := hl.unconverted rule (by simp)
    exact .node rule (by simp [hleft])
  case headed =>
    intro c d x p a l k rule _ _ hl
    have hleft := hl.unconverted rule (by simp)
    exact .node rule (by simp [hleft])
  case lone =>
    intro c x p k rule _
    refine .node rule fun t ht => ?_
    unfold operand? at ht
    split at ht <;> simp only [Option.toList, List.mem_singleton, List.not_mem_nil] at ht
    all_goals
      rw [ht]
      exact unconverted_leaf _ _

end Grammar

/-! ## Magnitudes do not matter -/

mutual

/-- The shape of a tree with its units and the exponents of these: all other numerals are
erased. -/
def Tree.outline : Tree → Tree
  | .leaf terminal text => .leaf terminal (if terminal = .unit then text else "")
  | .node p children =>
    if p.makesUnits then .node p children else .node p (Tree.outlines children)
  | .choice trees => .choice (Tree.outlines trees)

/-- The outlines of some trees. -/
def Tree.outlines : List Tree → List Tree
  | [] => []
  | tree :: trees => Tree.outline tree :: Tree.outlines trees

end

section Outlines

variable {r : Registry K}

mutual

/-- A tree and its outline have one context. -/
theorem context?_outline : ∀ t : Tree, t.outline.context? r = t.context? r
  | .leaf terminal text => by
    unfold Tree.outline Tree.context? leafContext?
    by_cases hunit : terminal = .unit
    · simp only [if_pos hunit]
    · simp only [if_neg hunit]
  | .node p children => by
    unfold Tree.outline
    cases hp : p.makesUnits with
    | true => rw [if_pos rfl]
    | false =>
      rw [if_neg (by decide), Tree.context?, Tree.context?, contexts?_outlines children]
      exact congrArg _ (funext fun contexts => Production.resultContext?_congr hp contexts _ _)
  | .choice trees => by rw [Tree.outline, Tree.context?, Tree.context?]

theorem contexts?_outlines : ∀ ts : List Tree,
    Tree.contexts? r (Tree.outlines ts) = Tree.contexts? r ts
  | [] => by rw [Tree.outlines]
  | t :: ts => by
    rw [Tree.outlines, Tree.contexts?, Tree.contexts?, context?_outline t, contexts?_outlines ts]

end

end Outlines

/-! ## The units of results -/

/-- For every constructed registry and every reading of a parse tree: if it has a value, the
calculus gives the context of the value, exactly unless a conversion between equal contexts has
left its operand as it is. And trees with one outline have one context: only their shape, their
units and the exponents of these count, and no magnitude does. -/
theorem evaluate_follows_context {records : List (UnitRecord K)} {r : Registry K}
    {tokens : List Token} {tree t : Tree} (hr : Registry.ofRecords records = .ok r)
    (hparse : parse tokens = .ok tree) (ht : t ∈ tree.readings) :
    (∀ q, evaluate r t = .ok q → ∃ c, t.context? r = some c ∧
      (q.units = c ∨ c.eq q.units = true ∧
        ∃ left right, t = .node .convert [left, right] ∧ evaluate r left = .ok q)) ∧
    ∀ t' : Tree, t'.outline = t.outline → t'.context? r = t.context? r := by
  have hderives := (mem_readings_of_parse hparse t).mp ht
  have hchoices := Tree.choices_of_derives hderives
  refine ⟨?_, ?_⟩
  · intro q hq
    rcases convertsLast_of_derives hderives with hplain | ⟨_, children, rfl, hplain⟩
    · exact ⟨_, context?_of_evaluate hr hchoices hplain q hq, .inl rfl⟩
    · have hchildren := Tree.choices_node_eq_nil_iff.mp hchoices
      obtain ⟨left, right, c, rfl, hcontext, hunits⟩ :=
        context?_of_evaluate_convert hr (fun u hu => ⟨hchildren u hu, hplain u hu⟩) hq
      refine ⟨c, hcontext, hunits.imp_right ?_⟩
      rintro ⟨heq, hleft⟩
      exact ⟨heq, left, right, rfl, hleft⟩
  · intro t' houtline
    rw [← context?_outline t', houtline, context?_outline t]

/-! ## A speed and a time -/

/-- Units of length and of time that are not those of SI. -/
def mileAndHour : List (UnitRecord Float) := [
  ⟨.length, "mile", "mi", "mi", 1609.344, false, []⟩,
  ⟨.time, "hour", "h", "h", 3600, false, []⟩,
  ⟨.time, "second", "s", "s", 1, false, []⟩]

/-- In `3 mi/h*h/s` the hours cancel, and the seconds take their axis. -/
theorem evaluate_follows_seconds :
    ∃ r tree q, Registry.ofRecords mileAndHour = .ok r ∧
      parse (Token.scan r "3 mi/h*h/s") = .ok tree ∧ tree ∈ tree.readings ∧
      evaluate r tree = .ok q ∧ tree.context? r = some q.units ∧
      q.units.length.name = "mile" ∧ q.units.time.name = "second" := by
  have hcheck : returns (Registry.ofRecords mileAndHour) (fun r =>
      returns (UnitCalc.parse r "3 mi/h*h/s") fun tree =>
        tree.choices.isEmpty && !(tree matches .node .convert _) && returns (evaluate r tree)
          (fun q => q.units.length.name == "mile" && q.units.time.name == "second")) = true := by
    decide +kernel
  obtain ⟨r, hrecords, hcheck⟩ := exists_of_returns hcheck
  obtain ⟨tree, htree, hcheck⟩ := exists_of_returns hcheck
  simp only [Bool.and_eq_true, List.isEmpty_iff, Bool.not_eq_true'] at hcheck
  obtain ⟨⟨hchoices, hplain⟩, hcheck⟩ := hcheck
  obtain ⟨q, hq, hunits⟩ := exists_of_returns hcheck
  simp only [Bool.and_eq_true, beq_iff_eq] at hunits
  have hparse := parse_text_eq_ok_iff.mp htree
  have hmem : tree ∈ tree.readings := by
    rw [Tree.readings_of_choices_eq_nil tree hchoices]
    exact List.mem_singleton_self tree
  obtain ⟨c, hcontext, rfl | ⟨_, _, _, rfl, _⟩⟩ :=
    (evaluate_follows_context hrecords hparse hmem).1 q hq
  · exact ⟨r, tree, q, hrecords, hparse, hmem, hq, hcontext, hunits⟩
  · cases hplain

end Expr

end UnitCalc
