import UnitCalc.Number.Double
import UnitCalc.Proofs.Lexeme.Terminal
import UnitCalc.Proofs.Parser.Brackets
import UnitCalc.Proofs.Parser.Climbing

/-!
# Precedence and grouping of operators

Between operands that are numerals without a sign or groups, the open operators of a level are
where precedence climbing stands: the powers in front, the open product and the open sum are the
three trees that it grows, and `Level.grown` is what becomes of them. Every operator keeps this
tree, so the parse of a chain is the tree of precedence climbing over the parses of its operands.
-/

namespace UnitCalc.Expr

open Grammar

/-! ## Operators and operands -/

namespace BinaryOperator

/-- The terminal of an operator. -/
def terminal : BinaryOperator → Terminal
  | .plus => .plus
  | .minus => .minus
  | .star => .star
  | .slash => .slash
  | .percent => .percent
  | .caret => .caret

theorem terminal_ofLexeme {K : Type} [Scalar K] (r : Registry K) {op : BinaryOperator}
    {lexeme : Lexeme} (h : lexeme.text = op.text) :
    (Token.ofLexeme r lexeme).terminal = op.terminal := by
  show (Terminal.ofText? r lexeme.text).getD .unknown = op.terminal
  rw [h]
  cases op <;> rfl

end BinaryOperator

/-- Operands that every operator may follow, with the tree that they are in a power. -/
inductive Operand.Plain : Operand → Prop where
  | literal (l : Literal) (h : l.signed = false) : Plain (.literal l)
  | primary (tree : Tree) : Plain (.primary tree)

/-- Tokens that are read as an operand, wherever one has to start. -/
def RunsTo (ts : List Token) (tree : Tree) : Prop :=
  ∀ frames level, ∃ o : Operand, o.Plain ∧ o.tree = tree ∧
    (State.expression frames level .before).run ts = .ok (.expression frames level (.behind o))

/-- Operators and operands that some tokens are. -/
inductive Linked : List (BinaryOperator × Tree) → List Token → Prop where
  | nil : Linked [] []
  | cons {op : BinaryOperator} {t : Token} {a ts : List Token} {tree : Tree}
      {links : List (BinaryOperator × Tree)} (hop : t.terminal = op.terminal) (ha : RunsTo a tree)
      (hts : Linked links ts) : Linked ((op, tree) :: links) (t :: (a ++ ts))

/-! ## Levels and climbing -/

namespace Level

/-- The tree of a level with a complete term and operators behind it. -/
def grownSum (level : Level) (term : Tree) (links : List (BinaryOperator × Tree)) : Tree :=
  (climb 0 (.closeOver level.sum term) links).tree

/-- The tree of a level with a complete factor and operators behind it: products are grown, then
sums. -/
def grownTerm (level : Level) (factor : Tree) (links : List (BinaryOperator × Tree)) : Tree :=
  level.grownSum (climb 1 (level.term factor) links).tree (climb 1 (level.term factor) links).rest

/-- The tree of a level with an operand and operators behind it: powers are grown first. -/
def grown (level : Level) (operand : Tree) (links : List (BinaryOperator × Tree)) : Tree :=
  level.grownTerm (level.factor (climb 2 operand links).tree) (climb 2 operand links).rest

theorem grown_nil (level : Level) (operand : Tree) :
    level.grown operand [] = level.expression (level.factor operand) := by
  rw [grown, climb_nil_tree, climb_nil_rest, grownTerm, climb_nil_tree, climb_nil_rest, grownSum,
    climb_nil_tree, expression]

/-- Where nothing is open, the three steps are one. -/
theorem grown_empty (operand : Tree) (links : List (BinaryOperator × Tree)) :
    empty.grown operand links = climbing operand links := by
  obtain ⟨hproduct, hbehind⟩ := climb_climb (show 1 ≤ 2 by decide) operand links
  have hsum := (climb_climb (show 0 ≤ 1 by decide) operand links).1
  rw [climbing, hsum, hproduct, hbehind]
  rfl

/-- How an operator behind an operand changes a level. -/
inductive Opens (level : Level) (operand : Tree) : BinaryOperator → Level → Prop where
  | power (o : OpenPrefix) (h : ∀ t, o.close t = .node .pow [operand, t]) :
      Opens level operand .caret (level.openPrefix o)
  | product (op : BinaryOperator) (h : op.precedence = 1) :
      Opens level operand op (level.openProduct op.production (level.factor operand))
  | sum (op : BinaryOperator) (h : op.precedence = 0) :
      Opens level operand op (level.openSum op.production (level.factor operand))

/-- Opening an operator keeps the tree that climbing is going to grow. -/
theorem Opens.grown {level level' : Level} {op : BinaryOperator} {operand next : Tree}
    (h : level.Opens operand op level') (links : List (BinaryOperator × Tree)) :
    level'.grown next links = level.grown operand ((op, next) :: links) := by
  have hloose (least : Nat) (left : Tree) (hop : op.precedence < least) :=
    climb_of_lt hop left next links
  have htight (least : Nat) (left : Tree) (hop : least ≤ op.precedence) :=
    climb_of_le hop left next links
  cases h with
  | power o ho =>
    -- The exponent leaves nothing that would make the power grow.
    obtain ⟨htree, hrest⟩ := htight 2 operand (Nat.le_refl 2)
    obtain ⟨hwhole, hbehind⟩ : (climb 2 operand ((.caret, next) :: links)).tree =
          .node .pow [operand, (climb 2 next links).tree] ∧
        (climb 2 operand ((.caret, next) :: links)).rest = (climb 2 next links).rest := by
      rw [htree, hrest]
      exact climb_rest (.node .pow [operand, (climb 2 next links).tree]) next links
    have hfactor : (level.openPrefix o).factor (climb 2 next links).tree =
        level.factor (.node .pow [operand, (climb 2 next links).tree]) := by
      rw [← ho]
      rfl
    rw [Level.grown, hfactor, Level.grown, hwhole, hbehind]
    rfl
  | product op hop =>
    obtain ⟨hoperand, hlinks⟩ := hloose 2 operand (by omega)
    obtain ⟨htree, hrest⟩ := htight 1 (level.term (level.factor operand)) (by omega)
    have hleast : op.least = 2 := by
      cases op <;> first | rfl | cases hop
    rw [hleast] at htree hrest
    rw [Level.grown, Level.grown, hoperand, hlinks, grownTerm, grownTerm, htree, hrest]
    rfl
  | sum op hop =>
    obtain ⟨hoperand, hlinks⟩ := hloose 2 operand (by omega)
    obtain ⟨hterm, hbehind⟩ := hloose 1 (level.term (level.factor operand)) (by omega)
    obtain ⟨htree, _⟩ := htight 0 (level.expression (level.factor operand)) (Nat.zero_le _)
    have hleast : op.least = 1 := by
      cases op <;> first | rfl | cases hop
    obtain ⟨hnext, hrest⟩ := climb_climb (show 1 ≤ 2 by decide) next links
    rw [hleast] at htree
    rw [Level.grown, Level.grown, hoperand, hlinks, grownTerm, grownTerm, hterm, hbehind]
    refine Eq.trans ?_ htree.symm
    rw [hnext, hrest]
    rfl

end Level

/-! ## Chains -/

section Chains

variable {o : Operand} {t : Token} {ts : List Token}

/-- Behind an operand, the sign of an operator opens it. -/
theorem step_operator (ho : o.Plain) {op : BinaryOperator} (ht : t.terminal = op.terminal)
    (frames : List Frame) (level : Level) :
    ∃ level', level.Opens o.tree op level' ∧
      (State.expression frames level (.behind o)).step t =
        some (.expression frames level' .before) := by
  have hfactor (s : State) (h : State.BehindFactor level (level.factor o.tree) t frames s) :
      (State.expression frames level (.behind o)).step t = some s :=
    (State.Steps.behind frames level o s (.factor o s h)).eq_some
  have hproduct (hop : op.precedence = 1) (hp : (op.production, t.terminal) ∈ productSigns) :
      ∃ level', level.Opens o.tree op level' ∧
        (State.expression frames level (.behind o)).step t =
          some (.expression frames level' .before) :=
    ⟨_, .product op hop, hfactor _ (.product frames op.production hp)⟩
  have hsum (hop : op.precedence = 0) (hp : (op.production, t.terminal) ∈ sumSigns) :
      ∃ level', level.Opens o.tree op level' ∧
        (State.expression frames level (.behind o)).step t =
          some (.expression frames level' .before) :=
    ⟨_, .sum op hop, hfactor _ (.sum frames op.production hp)⟩
  cases op with
  | plus | minus => exact hsum rfl (by rw [ht]; decide)
  | star | slash | percent => exact hproduct rfl (by rw [ht]; decide)
  | caret =>
    cases ho with
    | literal l hl =>
      refine ⟨_, .power (.literalPower l) fun t => ?_,
        (State.Steps.behind frames level _ _ (.literalPower l ht)).eq_some⟩
      simp [OpenPrefix.close, Literal.power, Operand.tree, hl]
    | primary tree =>
      exact ⟨_, .power (.power tree) fun t => rfl,
        (State.Steps.behind frames level _ _ (.power tree ht)).eq_some⟩

/-- Operators and operands behind an operand lead to the tree that climbing grows. -/
theorem run_linked {links : List (BinaryOperator × Tree)} (h : Linked links ts) (ho : o.Plain)
    (frames : List Frame) (level : Level) :
    ∃ level' o', (State.expression frames level (.behind o)).run ts =
        .ok (.expression frames level' (.behind o')) ∧
      level'.expression (level'.factor o'.tree) = level.grown o.tree links := by
  induction h generalizing level o with
  | nil => exact ⟨level, o, rfl, (level.grown_nil o.tree).symm⟩
  | cons hop ha _ ih =>
    obtain ⟨level₁, hopens, hstep⟩ := step_operator ho hop frames level
    obtain ⟨o₁, ho₁, rfl, hrun⟩ := ha frames level₁
    obtain ⟨level', o', hrest, htree⟩ := ih ho₁ level₁
    refine ⟨level', o', ?_, htree.trans (hopens.grown _)⟩
    rw [State.run_cons hstep, State.run_append_ok hrun, hrest]

/-- A chain is parsed as the tree of precedence climbing. -/
theorem parse_linked {a : List Token} {first : Tree} {links : List (BinaryOperator × Tree)}
    (ha : RunsTo a first) (h : Linked links ts) : parse (a ++ ts) = .ok (climbing first links) := by
  obtain ⟨o, ho, rfl, hrun⟩ := ha [] .empty
  obtain ⟨level', o', hrest, htree⟩ := run_linked h ho [] .empty
  rw [Level.grown_empty] at htree
  refine parse_eq_ok_iff.mpr ⟨_, (State.run_append_ok hrun).trans hrest, ?_⟩
  rw [← htree]
  rfl

end Chains

/-! ## Chains of lexemes -/

/-- An operand of a chain: a numeral without a sign, or an expression in brackets. -/
inductive ChainOperand where
  | numeral (lexeme : Lexeme)
  | group (left : Lexeme) (inner : List Lexeme) (right : Lexeme)

namespace ChainOperand

/-- The lexemes of an operand. -/
def lexemes : ChainOperand → List Lexeme
  | .numeral lexeme => [lexeme]
  | .group left inner right => left :: (inner ++ [right])

variable {K : Type} [Scalar K]

/-- Whether the lexemes are what the operand says: a numeral without a sign, or brackets around
an expression that the grammar accepts. -/
def IsValid (r : Registry K) : ChainOperand → Prop
  | .numeral lexeme => Number.Numeral.isNumeral lexeme.text.toList = true ∧
      Terminal.ofNumeral lexeme.text.toList = .number
  | .group left inner right => left.text = "(" ∧ right.text = ")" ∧
      ∃ t, Derives .expr (inner.map (Token.ofLexeme r)) t

/-- The readings of an operand. -/
def Reads (r : Registry K) : ChainOperand → Tree → Prop
  | .numeral lexeme, t => t = .node .number [.leaf .number lexeme.text]
  | .group _ inner _, t => Derives .expr (inner.map (Token.ofLexeme r)) t

/-- A valid operand is read as a tree of its readings, and in brackets this is the parse of what
they enclose. -/
theorem exists_runsTo {r : Registry K} {operand : ChainOperand} (h : operand.IsValid r) :
    ∃ tree, RunsTo (operand.lexemes.map (Token.ofLexeme r)) tree ∧
      (∀ t, t ∈ tree.readings ↔ operand.Reads r t) ∧
      ∀ left inner right, operand = .group left inner right →
        parse (inner.map (Token.ofLexeme r)) = .ok tree := by
  cases operand with
  | numeral lexeme =>
    obtain ⟨hnumeral, hnumber⟩ := h
    have ht : (Token.ofLexeme r lexeme).terminal = .number :=
      (terminal_of_isNumeral r hnumeral).trans hnumber
    refine ⟨Literal.tree ⟨false, .number, lexeme.text⟩, ?_, fun t => List.mem_singleton, nofun⟩
    intro frames level
    have hstep := step_literal (ofToken?_of_number ht) frames level
    exact ⟨_, .literal _ rfl, rfl, State.run_cons hstep⟩
  | group left inner right =>
    obtain ⟨hleft, hright, haccepted⟩ := h
    have hl : (Token.ofLexeme r left).terminal = .leftParen := by
      show (Terminal.ofText? r left.text).getD .unknown = _
      rw [hleft]
      rfl
    have hr : (Token.ofLexeme r right).terminal = .rightParen := by
      show (Terminal.ofText? r right.text).getD .unknown = _
      rw [hright]
      rfl
    obtain ⟨tree, hparse, hreadings, hrun⟩ := exists_run_group haccepted hl hr
    refine ⟨tree, fun frames level => ⟨_, .primary tree, rfl, ?_⟩, hreadings, ?_⟩
    · simpa [lexemes] using hrun frames level
    · intro left' inner' right' heq
      cases heq
      exact hparse

end ChainOperand

/-- An operator of a chain, with its lexeme and the operand behind it. -/
structure ChainLink where
  operator : BinaryOperator
  sign : Lexeme
  operand : ChainOperand

namespace ChainLink

/-- The lexemes of an operator and its right operand. -/
def lexemes (link : ChainLink) : List Lexeme := link.sign :: link.operand.lexemes

variable {K : Type} [Scalar K]

/-- Whether the lexemes are what the link says. -/
def IsValid (r : Registry K) (link : ChainLink) : Prop :=
  link.sign.text = link.operator.text ∧ link.operand.IsValid r

/-- The readings of a link: the operator with a reading of the operand. -/
def Reads (r : Registry K) (link : ChainLink) (reading : BinaryOperator × Tree) : Prop :=
  reading.1 = link.operator ∧ link.operand.Reads r reading.2

/-- Valid links are read as operators with trees of the readings of their operands. -/
theorem exists_linked {r : Registry K} {links : List ChainLink}
    (h : ∀ link ∈ links, link.IsValid r) :
    ∃ trees, Linked trees ((links.flatMap lexemes).map (Token.ofLexeme r)) ∧
      ∀ readings, List.Forall₂ ReadsLink readings trees ↔
        List.Forall₂ (Reads r) links readings := by
  induction links with
  | nil => exact ⟨[], .nil, fun readings => by simp⟩
  | cons link links ih =>
    obtain ⟨⟨hsign, hoperand⟩, hlinks⟩ := List.forall_mem_cons.mp h
    obtain ⟨trees, hlinked, hreadings⟩ := ih hlinks
    obtain ⟨tree, hruns, htree, _⟩ := ChainOperand.exists_runsTo hoperand
    refine ⟨(link.operator, tree) :: trees, ?_, ?_⟩
    · have hcons := Linked.cons (BinaryOperator.terminal_ofLexeme r hsign) hruns hlinked
      simpa [lexemes] using hcons
    · intro readings
      rw [List.forall₂_cons_right_iff, List.forall₂_cons_left_iff]
      simp only [ReadsLink, Reads, htree, hreadings]

end ChainLink

/-- Precedence and grouping of operators: operands with operators between them are accepted, and
their readings are the trees that precedence climbing makes of readings of the operands. An
expression in brackets is parsed as the same tree as without them. -/
theorem parse_chain {K : Type} [Scalar K] (r : Registry K) (first : ChainOperand)
    (links : List ChainLink) (hfirst : first.IsValid r) (hlinks : ∀ link ∈ links, link.IsValid r) :
    ∃ tree, parse ((first.lexemes ++ links.flatMap ChainLink.lexemes).map (Token.ofLexeme r)) =
        .ok tree ∧
      (∀ t, t ∈ tree.readings ↔ ∃ a readings, first.Reads r a ∧
        List.Forall₂ (ChainLink.Reads r) links readings ∧ t = climbing a readings) ∧
      ∀ left inner right, first = .group left inner right → links = [] →
        parse (inner.map (Token.ofLexeme r)) = .ok tree := by
  obtain ⟨tree, hruns, htree, hinner⟩ := ChainOperand.exists_runsTo hfirst
  obtain ⟨trees, hlinked, hreadings⟩ := ChainLink.exists_linked hlinks
  refine ⟨climbing tree trees, ?_, ?_, ?_⟩
  · rw [List.map_append]
    exact parse_linked hruns hlinked
  · intro t
    simp only [mem_readings_climbing, htree, hreadings]
  · rintro left inner right hgroup rfl
    cases hlinked
    rw [hinner left inner right hgroup, climbing, climb_nil_tree]

/-- The lexeme of a text, at the start. -/
def Lexeme.atStart (text : String) : Lexeme := ⟨text, 0⟩

/-- The operators and operands behind the first operand of `8 - (3) ^ 2`. -/
def minusSquare : List ChainLink :=
  [⟨.minus, .atStart "-", .group (.atStart "(") [.atStart "3"] (.atStart ")")⟩,
    ⟨.caret, .atStart "^", .numeral (.atStart "2")⟩]

theorem parse_minusSquare :
    let r : Registry Float := .empty
    let numeral (text : String) : Tree := .node .number [.leaf .number text]
    let lexemes := ["8", "-", "(", "3", ")", "^", "2"].map Lexeme.atStart
    ∃ tree, parse (lexemes.map (Token.ofLexeme r)) = .ok tree ∧
      .node .sub [numeral "8", .node .pow [numeral "3", numeral "2"]] ∈ tree.readings := by
  intro r numeral lexemes
  have hvalid : ∀ text ∈ ["8", "2", "3"],
      Number.Numeral.isNumeral text.toList = true ∧ Terminal.ofNumeral text.toList = .number := by
    decide
  have hexpr (t : Token) (ht : t.terminal = .number) :
      Derives .expr [t] (.node .number [.leaf .number t.text]) := by
    have hplain := yields_number ht
    rw [ht] at hplain
    have hfactor := Literal.factor_of_postfixed (Literal.postfixed_of_plainNumber hplain)
    have hterm : Yields .term [t] _ := hfactor.promoted (by decide)
    exact (hterm.promoted (by decide)).2 _ (List.mem_singleton_self _)
  have hthree : (Token.ofLexeme r (.atStart "3")).terminal = .number :=
    terminal_of_isNumeral r (hvalid "3" (by decide)).1
  have hinner : Derives .expr ([.atStart "3"].map (Token.ofLexeme r)) (numeral "3") :=
    hexpr _ hthree
  have hgroup : (ChainOperand.group (.atStart "(") [.atStart "3"] (.atStart ")")).IsValid r :=
    ⟨rfl, rfl, _, hinner⟩
  have hlexemes : (ChainOperand.numeral (.atStart "8")).lexemes ++
      minusSquare.flatMap ChainLink.lexemes = lexemes := rfl
  obtain ⟨tree, hparse, hreadings, _⟩ := parse_chain r (.numeral (.atStart "8")) minusSquare
    (hvalid "8" (by decide))
    (List.forall_mem_cons.mpr ⟨⟨rfl, hgroup⟩,
      List.forall_mem_singleton.mpr ⟨rfl, hvalid "2" (by decide)⟩⟩)
  rw [hlexemes] at hparse
  have hlinks : List.Forall₂ (ChainLink.Reads r) minusSquare
      [(.minus, numeral "3"), (.caret, numeral "2")] :=
    .cons ⟨rfl, hinner⟩ (.cons ⟨rfl, rfl⟩ .nil)
  refine ⟨tree, hparse, (hreadings _).mpr ⟨numeral "8", _, rfl, hlinks, ?_⟩⟩
  cbv

end UnitCalc.Expr
