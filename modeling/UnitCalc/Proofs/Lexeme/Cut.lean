import Mathlib.Data.List.TakeWhile
import UnitCalc.Expr.Lexeme

/-!
# How a text is cut

Whatever the spellings of a registry are, the lexemes of a text and the blanks around them
make up the text: no character is read twice, and only blanks are left out. `Cut` says so of
the rest of a text, one lexeme at a time, and the facts about positions follow from it.
-/

namespace UnitCalc.Expr.Lexeme

open UnitCalc.Text

variable {K : Type} {r : Registry K}

/-- The position behind a lexeme. -/
def stop (l : Lexeme) : Nat := l.position + l.text.length

/-- The text from a position on, and the lexemes that it is cut into: blanks, a lexeme that
does not begin with one, and so on, until only blanks are left. -/
inductive Cut : Nat → List Char → List Lexeme → Prop
  | blanks {position : Nat} {cs : List Char} (h : ∀ c ∈ cs, isBlank c = true) :
      Cut position cs []
  | lexeme {position : Nat} {cs blanks word rest : List Char} {c : Char} {l : Lexeme}
      {lexemes : List Lexeme} (hsplit : blanks ++ (l.text.toList ++ rest) = cs)
      (hblanks : ∀ c ∈ blanks, isBlank c = true)
      (hposition : l.position = position + blanks.length)
      (htext : l.text.toList = c :: word) (hc : isBlank c = false)
      (hrest : Cut l.stop rest lexemes) : Cut position cs (l :: lexemes)

/-! ## Scanning cuts -/

/-- The first character that `dropWhile` leaves. -/
theorem not_isBlank_of_dropWhile {cs rest : List Char} {c : Char}
    (h : cs.dropWhile isBlank = c :: rest) : isBlank c = false := by
  have hhead := List.head?_dropWhile_not isBlank cs
  rwa [h] at hhead

/-- One step: the blanks, the next lexeme and what is behind it are the text. -/
theorem cut_step {position : Nat} {cs word behind rest : List Char} {c : Char}
    {lexemes : List Lexeme} (h : cs.dropWhile isBlank = c :: rest)
    (happend : word ++ behind = c :: rest) (hne : word ≠ [])
    (hbehind : Cut (position + (cs.takeWhile isBlank).length + word.length) behind lexemes) :
    Cut position cs
      (⟨String.ofList word, position + (cs.takeWhile isBlank).length⟩ :: lexemes) := by
  have hblanks : ∀ c ∈ cs.takeWhile isBlank, isBlank c = true :=
    fun c hc => List.all_eq_true.mp List.all_takeWhile c hc
  have htext : (String.ofList word).toList = c :: word.tail := by
    rw [String.toList_ofList]
    cases word with
    | nil => exact absurd rfl hne
    | cons first others => rw [(List.cons.inj happend).1, List.tail_cons]
  have hsplit : cs.takeWhile isBlank ++ ((String.ofList word).toList ++ behind) = cs := by
    rw [String.toList_ofList, happend, ← h, List.takeWhile_append_dropWhile]
  have hlength : (String.ofList word).length = word.length := String.length_ofList
  rw [← hlength] at hbehind
  exact Cut.lexeme hsplit hblanks rfl htext (not_isBlank_of_dropWhile h) hbehind

/-- What is left behind a lexeme is shorter than the text. -/
theorem length_rest_lt (r : Registry K) (afterOperand : Bool) {cs rest : List Char} {c : Char}
    (h : cs.dropWhile isBlank = c :: rest) :
    (takeNext r afterOperand c rest).2.length < cs.length := by
  obtain ⟨happend, hne⟩ := takeNext_append r afterOperand c rest
  have hlength := congrArg List.length happend
  have hpositive := List.length_pos_iff.mpr hne
  have hdrop := (List.dropWhile_suffix isBlank (l := cs)).length_le
  rw [h] at hdrop
  rw [List.length_append] at hlength
  omega

/-- Enough fuel cuts the whole text. -/
theorem cut_scanFrom {fuel : Nat} {afterOperand : Bool} {position : Nat} {cs : List Char}
    (hfuel : cs.length ≤ fuel) : Cut position cs (scanFrom r fuel afterOperand position cs) := by
  induction fuel generalizing afterOperand position cs with
  | zero =>
    rw [List.length_eq_zero_iff.mp (Nat.le_zero.mp hfuel)]
    exact .blanks (by simp)
  | succ fuel ih =>
    unfold scanFrom
    split
    · rename_i hnil
      exact .blanks fun c hc => List.dropWhile_eq_nil_iff.mp hnil c hc
    · rename_i c rest hcons
      obtain ⟨happend, hne⟩ := takeNext_append r afterOperand c rest
      have hlt := length_rest_lt r afterOperand hcons
      exact cut_step hcons happend hne (ih (by omega))

/-- More fuel than characters changes nothing: the scan has come to its end. -/
theorem scanFrom_eq_of_le {fuel more : Nat} {afterOperand : Bool} {position : Nat}
    {cs : List Char} (hfuel : cs.length ≤ fuel) (hmore : cs.length ≤ more) :
    scanFrom r fuel afterOperand position cs = scanFrom r more afterOperand position cs := by
  induction fuel generalizing afterOperand position cs more with
  | zero =>
    rw [List.length_eq_zero_iff.mp (Nat.le_zero.mp hfuel)]
    cases more <;> rfl
  | succ fuel ih =>
    cases more with
    | zero =>
      rw [List.length_eq_zero_iff.mp (Nat.le_zero.mp hmore)]
      rfl
    | succ more =>
      simp only [scanFrom]
      split
      · rfl
      · rename_i c rest hcons
        have hlt := length_rest_lt r afterOperand hcons
        congr 1
        exact ih (by omega) (by omega)

/-! ## Positions -/

section Positions

variable {position : Nat} {cs : List Char} {lexemes : List Lexeme}

theorem Cut.length_le (h : Cut position cs lexemes) : lexemes.length ≤ cs.length := by
  induction h with
  | blanks => exact Nat.zero_le _
  | lexeme hsplit _ _ htext _ _ ih =>
    rw [← hsplit, htext]
    simp only [List.length_cons, List.length_append]
    omega

theorem Cut.position_le (h : Cut position cs lexemes) :
    ∀ l ∈ lexemes, position ≤ l.position := by
  induction h with
  | blanks => simp
  | lexeme _ _ hposition _ _ _ ih =>
    intro l' hl'
    rcases List.mem_cons.mp hl' with rfl | hl'
    · omega
    · have hlater := ih l' hl'
      unfold stop at hlater
      omega

/-- Every lexeme starts behind those before it. -/
theorem Cut.pairwise (h : Cut position cs lexemes) :
    lexemes.Pairwise fun l l' => l.stop ≤ l'.position := by
  induction h with
  | blanks => exact .nil
  | lexeme _ _ _ _ _ hrest ih => exact .cons hrest.position_le ih

theorem Cut.not_isBlank (h : Cut position cs lexemes) :
    ∀ l ∈ lexemes, ∃ c, l.text.toList.head? = some c ∧ isBlank c = false := by
  induction h with
  | blanks => simp
  | lexeme _ _ _ htext hc _ ih =>
    intro l' hl'
    rcases List.mem_cons.mp hl' with rfl | hl'
    · exact ⟨_, by rw [htext]; rfl, hc⟩
    · exact ih l' hl'

/-- Behind any beginning of that length, a lexeme is the slice of the text at its position. -/
theorem Cut.slice (h : Cut position cs lexemes) (before : List Char)
    (hbefore : before.length = position) :
    ∀ l ∈ lexemes, ((before ++ cs).drop l.position).take l.text.length = l.text.toList := by
  induction h generalizing before with
  | blanks => simp
  | @lexeme position cs blanks word rest c l lexemes hsplit _ hposition _ _ _ ih =>
    intro l' hl'
    have hstart : (before ++ blanks).length = l.position := by
      rw [List.length_append, hbefore, hposition]
    rw [← hsplit, ← List.append_assoc]
    rcases List.mem_cons.mp hl' with rfl | hl'
    · rw [← hstart, List.drop_left, ← String.length_toList, List.take_left]
    · have hstop : (before ++ blanks ++ l.text.toList).length = l.stop := by
        rw [List.length_append, hstart, String.length_toList, stop]
      rw [← List.append_assoc]
      exact ih _ hstop l' hl'

/-- A character outside all lexemes is a blank. -/
theorem Cut.isBlank_of_outside (h : Cut position cs lexemes) {i : Nat} {c : Char}
    (hc : cs[i]? = some c)
    (houtside : ∀ l ∈ lexemes, position + i < l.position ∨ l.stop ≤ position + i) :
    isBlank c = true := by
  induction h generalizing i with
  | blanks hblanks => exact hblanks c (List.mem_of_getElem? hc)
  | @lexeme position cs blanks word rest first l lexemes hsplit hblanks hposition _ _ _ ih =>
    have hfirst := houtside l List.mem_cons_self
    have hlength : l.text.toList.length = l.text.length := String.length_toList
    rw [stop] at hfirst
    rw [← hsplit] at hc
    by_cases hi : i < blanks.length
    · rw [List.getElem?_append_left hi] at hc
      exact hblanks c (List.mem_of_getElem? hc)
    -- Behind the blanks it cannot be in the lexeme, so it is in the rest.
    · rw [List.getElem?_append_right (by omega), List.getElem?_append_right (by omega)] at hc
      refine ih hc ?_
      intro l' hl'
      have hlater := houtside l' (List.mem_cons_of_mem _ hl')
      simp only [stop] at hlater ⊢
      omega

end Positions

/-! ## The lexemes of a text -/

/-- The lexemes are pieces of a text, and everything between them is blank. -/
structure Tiles (text : List Char) (lexemes : List Lexeme) : Prop where
  /-- There are no more lexemes than characters. -/
  length_le : lexemes.length ≤ text.length
  /-- A lexeme is not empty and does not begin with a blank. -/
  not_isBlank : ∀ l ∈ lexemes, ∃ c, l.text.toList.head? = some c ∧ isBlank c = false
  /-- A lexeme is the slice of the text at its position. -/
  slice : ∀ l ∈ lexemes, (text.drop l.position).take l.text.length = l.text.toList
  /-- Every lexeme starts at the end of those before it or later. -/
  pairwise : lexemes.Pairwise fun l l' => l.stop ≤ l'.position
  /-- A character outside all lexemes is a blank. -/
  isBlank_of_outside : ∀ i c, text[i]? = some c →
    (∀ l ∈ lexemes, i < l.position ∨ l.stop ≤ i) → isBlank c = true

theorem Cut.tiles {text : List Char} {lexemes : List Lexeme} (h : Cut 0 text lexemes) :
    Tiles text lexemes where
  length_le := h.length_le
  not_isBlank := h.not_isBlank
  slice := h.slice [] rfl
  pairwise := h.pairwise
  isBlank_of_outside i c hc houtside := by
    refine h.isBlank_of_outside hc ?_
    simpa using houtside

/-- For every registry and every text: the scan comes to its end after as many steps as the
text has characters, and its lexemes with the blanks between them are the text. -/
theorem scan_lossless (r : Registry K) (text : String) :
    (∀ fuel, text.length ≤ fuel → scanFrom r fuel false 0 text.toList = scan r text) ∧
      Tiles text.toList (scan r text) := by
  refine ⟨?_, (cut_scanFrom (Nat.le_refl _)).tiles⟩
  intro fuel hfuel
  rw [← String.length_toList] at hfuel
  exact scanFrom_eq_of_le hfuel (Nat.le_refl _)

end UnitCalc.Expr.Lexeme
