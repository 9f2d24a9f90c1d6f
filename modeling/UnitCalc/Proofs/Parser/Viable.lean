import UnitCalc.Number.Double
import UnitCalc.Proofs.Alike
import UnitCalc.Proofs.Lexeme.Cut
import UnitCalc.Proofs.Parser.Language

/-!
# Where a syntax error is

A list of terminals is *viable* if some sentence of the grammar begins with it. The parser
takes as many tokens as are viable and no more: from each of its states tokens lead to the end
of an expression, so what it has taken is the beginning of a sentence, and what it refuses is
the first token that no sentence goes on with. An error therefore has the place of that lexeme,
and no place where the whole text could still become an expression.
-/

namespace UnitCalc.Expr

open Grammar

/-! ## Beginnings of sentences -/

/-- Some sentence of the grammar begins with these terminals. -/
def Viable (terminals : List Terminal) : Prop :=
  ∃ rest, terminals ++ rest ∈ contextFreeGrammar.language

theorem Viable.of_append {a b : List Terminal} (h : Viable (a ++ b)) : Viable a := by
  obtain ⟨rest, h⟩ := h
  exact ⟨b ++ rest, by rwa [← List.append_assoc]⟩

theorem Viable.take {a : List Terminal} (h : Viable a) (n : Nat) : Viable (a.take n) := by
  rw [← List.take_append_drop n a] at h
  exact h.of_append

/-! ## Ways to the end -/

/-- A token with a given terminal. -/
def Token.ofTerminal (x : Terminal) : Token := ⟨⟨"", 0⟩, x⟩

@[simp] theorem Token.terminal_ofTerminal (x : Terminal) : (ofTerminal x).terminal = x := rfl

theorem map_terminal_ofTerminal (terminals : List Terminal) :
    (terminals.map Token.ofTerminal).map (·.terminal) = terminals := by
  simp [Function.comp_def]

/-- Behind any beginning of units, one token at most makes them complete. -/
theorem UnitRun.exists_run_tree? (us : UnitRun) :
    ∃ ts us' u, us.run ts = some us' ∧ us'.tree? = some u := by
  cases us with
  | start => exact ⟨[.ofTerminal .unit], _, _, rfl, rfl⟩
  | joined => exact ⟨[.ofTerminal .unit], _, _, rfl, rfl⟩
  | raised => exact ⟨[.ofTerminal .number], _, _, rfl, rfl⟩
  | named => exact ⟨[], _, _, rfl, rfl⟩
  | whole => exact ⟨[], _, _, rfl, rfl⟩

namespace State

/-- Inside an expression, some tokens complete the factor that is being read. -/
theorem exists_run_completes (frames : List Frame) (level : Level) (progress : Progress) :
    ∃ ts s sum product factor, (State.expression frames level progress).run ts = .ok s ∧
      Completes s frames sum product factor := by
  cases progress with
  | before =>
    exact ⟨[.ofTerminal .number], _, _, _, _, rfl, .operand level (.literal ⟨false, .number, ""⟩)⟩
  | argument f juxtaposed => exact ⟨[.ofTerminal .number], _, _, _, _, rfl, .operand level _⟩
  | behind o => exact ⟨[], _, _, _, _, rfl, .operand level o⟩
  | quantity l us =>
    obtain ⟨ts, us', u, hrun, hu⟩ := us.exists_run_tree?
    exact ⟨ts, _, _, _, _, run_quantity hrun, .quantity level l us' u hu⟩

/-- Behind a complete factor, one bracket for each open one leads to the end. -/
theorem exists_run_finish?_of_completes {frames : List Frame} {s : State}
    {sum product : Option (Production × Tree)} {factor : Tree}
    (h : Completes s frames sum product factor) :
    ∃ ts s' tree, s.run ts = .ok s' ∧ s'.finish? = some tree := by
  induction frames generalizing s sum product factor with
  | nil => exact ⟨[], s, _, rfl, h.finish?⟩
  | cons frame frames ih =>
    have hstep : s.step (.ofTerminal .rightParen) = some (.expression frames frame.level
        (.behind (frame.operand (Level.expression ⟨sum, product, []⟩ factor)))) := by
      rw [h.step (by simp)]
      rfl
    obtain ⟨ts, s', tree, hrun, htree⟩ := ih (.operand frame.level _)
    exact ⟨_ :: ts, s', tree, (run_cons hstep).trans hrun, htree⟩

/-- From every state some tokens lead to the end of an expression. -/
theorem exists_run_finish? (s : State) :
    ∃ ts s' tree, s.run ts = .ok s' ∧ s'.finish? = some tree := by
  cases s with
  | expression frames level progress =>
    obtain ⟨a, s, sum, product, factor, ha, hs⟩ := exists_run_completes frames level progress
    obtain ⟨b, s', tree, hb, htree⟩ := exists_run_finish?_of_completes hs
    exact ⟨a ++ b, s', tree, (run_append_ok ha).trans hb, htree⟩
  | conversion source us =>
    obtain ⟨ts, us', u, hrun, hu⟩ := us.exists_run_tree?
    exact ⟨ts, _, .node .convert [source, u], run_conversion hrun, by simp [finish?, hu]⟩

/-- A run that is refused has taken all tokens in front of the refused one. -/
theorem run_eq_error {s : State} {tokens rest : List Token} (h : s.run tokens = .error rest) :
    ∃ taken t behind s', tokens = taken ++ t :: behind ∧ rest = t :: behind ∧
      s.run taken = .ok s' ∧ s'.step t = none := by
  induction tokens generalizing s with
  | nil => cases h
  | cons t tokens ih =>
    simp only [run] at h
    split at h
    · rename_i s₁ hstep
      obtain ⟨taken, t', behind, s', rfl, hrest, hrun, hnone⟩ := ih h
      exact ⟨t :: taken, t', behind, s', rfl, hrest, (run_cons hstep).trans hrun, hnone⟩
    · rename_i hnone
      cases h
      exact ⟨[], t, tokens, s, rfl, rfl, rfl, hnone⟩

end State

/-! ## The parser takes what is viable -/

/-- The parser takes tokens exactly if their terminals begin a sentence. -/
theorem viable_iff_run {tokens : List Token} :
    Viable (tokens.map (·.terminal)) ↔ ∃ s, State.start.run tokens = .ok s := by
  constructor
  · rintro ⟨rest, h⟩
    rw [← map_terminal_ofTerminal rest, ← List.map_append, mem_language_iff,
      ← parse_ok_iff] at h
    obtain ⟨tree, h⟩ := h
    obtain ⟨s, hrun, _⟩ := parse_eq_ok_iff.mp h
    rw [State.run_append] at hrun
    split at hrun
    · exact ⟨_, ‹_›⟩
    · cases hrun
  · rintro ⟨s, hrun⟩
    obtain ⟨ts, s', tree, hend, htree⟩ := s.exists_run_finish?
    have hparse : parse (tokens ++ ts) = .ok tree :=
      parse_eq_ok_iff.mpr ⟨s', (State.run_append_ok hrun).trans hend, htree⟩
    refine ⟨ts.map (·.terminal), ?_⟩
    rw [← List.map_append, mem_language_iff, ← parse_ok_iff]
    exact ⟨tree, hparse⟩

/-- A refused token is the first with which the terminals are no longer viable. -/
theorem isLeast_refused {taken behind : List Token} {t : Token} {s : State}
    (hrun : State.start.run taken = .ok s) (hstep : s.step t = none) :
    IsLeast {j | j < (taken ++ t :: behind).length ∧
        ¬ Viable (((taken ++ t :: behind).map (·.terminal)).take (j + 1))} taken.length := by
  constructor
  · refine ⟨by simp, ?_⟩
    have htake : ((taken ++ t :: behind).map (·.terminal)).take (taken.length + 1) =
        (taken ++ [t]).map (·.terminal) := by
      rw [← List.map_take, List.take_length_add_append]
      rfl
    rw [htake, viable_iff_run, State.run_append_ok hrun]
    rintro ⟨s', h⟩
    simp [State.run, hstep] at h
  · rintro j ⟨_, hj⟩
    by_contra hlt
    have hle : j + 1 ≤ taken.length := by omega
    rw [← List.map_take, List.take_append_of_le_length hle, List.map_take] at hj
    exact hj (Viable.take (viable_iff_run.mpr ⟨s, hrun⟩) _)

/-- The token of an error is the first with which the terminals are no longer viable. -/
theorem parse_eq_error_some {tokens : List Token} {t : Token}
    (h : parse tokens = .error (some t)) :
    ∃ j, tokens[j]? = some t ∧
      IsLeast {j | j < tokens.length ∧ ¬ Viable ((tokens.map (·.terminal)).take (j + 1))} j := by
  unfold parse at h
  split at h
  · split at h <;> cases h
  · rename_i rest hrun
    obtain ⟨taken, t', behind, s, rfl, rfl, htaken, hstep⟩ := State.run_eq_error hrun
    cases h
    exact ⟨taken.length, by simp, isLeast_refused htaken hstep⟩

/-- In an error without a token all terminals are viable, but they are no sentence. -/
theorem parse_eq_error_none {tokens : List Token} (h : parse tokens = .error none) :
    Viable (tokens.map (·.terminal)) ∧
      tokens.map (·.terminal) ∉ contextFreeGrammar.language := by
  constructor
  · rw [viable_iff_run]
    unfold parse at h
    split at h
    · exact ⟨_, ‹_›⟩
    · rename_i rest hrun
      obtain ⟨_, _, _, _, _, rfl, _, _⟩ := State.run_eq_error hrun
      cases h
  · rw [mem_language_iff, ← parse_ok_iff]
    rintro ⟨tree, htree⟩
    rw [h] at htree
    cases htree

/-! ## Errors of texts -/

section Text

variable {K : Type} [Scalar K]

/-- What an error of the parser on tokens is for the text. -/
theorem parse_text_eq_error {r : Registry K} {text : String} {f : Fault K}
    (h : UnitCalc.parse r text = .error f) :
    (∃ t, parse (Token.scan r text) = .error (some t) ∧
        f = .unexpected t.text t.position text) ∨
      parse (Token.scan r text) = .error none ∧ f = .unexpectedEnd text := by
  unfold UnitCalc.parse at h
  split at h <;> cases h
  · exact .inl ⟨_, ‹_›, rfl⟩
  · exact .inr ⟨‹_›, rfl⟩

/-- For every registry and every text that does not parse: either there is a first lexeme with
which the terminals no longer begin a sentence, and the error has its text and the position
where the text has it, or the terminals are the beginning of a sentence that is longer, and the
error is the end of the text. -/
theorem parse_error_place (r : Registry K) (text : String) (f : Fault K)
    (h : UnitCalc.parse r text = .error f) :
    let terminals := (Token.scan r text).map (·.terminal)
    (∃ j lexeme,
        IsLeast {j | j < terminals.length ∧ ¬ Viable (terminals.take (j + 1))} j ∧
        (Lexeme.scan r text)[j]? = some lexeme ∧
        (text.toList.drop lexeme.position).take lexeme.text.length = lexeme.text.toList ∧
        f = .unexpected lexeme.text lexeme.position text) ∨
      (∀ j < terminals.length, Viable (terminals.take (j + 1))) ∧
        Viable terminals ∧ terminals ∉ contextFreeGrammar.language ∧
        f = .unexpectedEnd text := by
  intro terminals
  rcases parse_text_eq_error h with ⟨t, hparse, rfl⟩ | ⟨hparse, rfl⟩
  · left
    obtain ⟨j, hget, hleast⟩ := parse_eq_error_some hparse
    -- The refused token is that of the lexeme at its place.
    rw [Token.scan, List.getElem?_map, Option.map_eq_some_iff] at hget
    obtain ⟨lexeme, hlexeme, rfl⟩ := hget
    refine ⟨j, lexeme, by simpa [terminals] using hleast, hlexeme, ?_, rfl⟩
    exact (Lexeme.cut_scanFrom (Nat.le_refl _)).tiles.slice lexeme (List.mem_of_getElem? hlexeme)
  · right
    obtain ⟨hviable, hlanguage⟩ := parse_eq_error_none hparse
    exact ⟨fun j _ => hviable.take _, hviable, hlanguage, rfl⟩

end Text

/-- In `2 + * 3` the star is the lexeme with which no expression begins. -/
theorem parse_error_star :
    ∃ f, UnitCalc.parse (.empty : Registry Float) "2 + * 3" = .error f ∧
      f = .unexpected "*" 4 "2 + * 3" ∧
      ∃ j : Nat, (Lexeme.scan (.empty : Registry Float) "2 + * 3")[j]? = some ⟨"*", 4⟩ ∧
        ¬ Viable (((Token.scan (.empty : Registry Float) "2 + * 3").map
          (·.terminal)).take (j + 1)) := by
  have hcheck : throws (parse (Token.scan (.empty : Registry Float) "2 + * 3"))
      (· == some ⟨⟨"*", 4⟩, .star⟩) = true := by
    decide +kernel
  obtain ⟨place, hparse, hplace⟩ := exists_of_throws hcheck
  obtain rfl := beq_iff_eq.mp hplace
  have h : UnitCalc.parse (.empty : Registry Float) "2 + * 3" =
      .error (.unexpected "*" 4 "2 + * 3") := by
    unfold UnitCalc.parse
    rw [hparse]
  refine ⟨_, h, rfl, ?_⟩
  rcases parse_error_place .empty _ _ h with ⟨j, lexeme, hleast, hlexeme, _, hf⟩ | ⟨_, _, _, hf⟩
  · obtain ⟨text, position⟩ := lexeme
    injection hf with htext hposition
    subst htext hposition
    exact ⟨j, hlexeme, hleast.1.2⟩
  · cases hf

end UnitCalc.Expr
