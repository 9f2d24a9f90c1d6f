import UnitCalc.Proofs.Text.NormalForm

/-!
# Texts below the marks

The marks begin at U+0300. A text of characters below them is its own normal form, and to leave
it alone gives what decomposing and composing it would give: a character below the marks is a
letter and the marks that join it one after the other, and no letter joins what stands before it.
-/

namespace UnitCalc.Text

variable {n : Nat} {cs : List Char}

/-- The first of the marks. -/
def firstMark : Nat := 0x300

/-! ## What the tables hold below the marks -/

/-- How the tables take a character below the marks apart: into another one and a mark that
settles, and these are composed again. Where the other one has a mark itself, no class is
higher than that of the second mark. -/
def isMarkStep (step : Nat × List Nat) : Bool :=
  match step.2 with
  | [first, second] =>
    first < firstMark && !(slower 0).testBit second && !decide (IsSyllable second) &&
    composePair? first second == some step.1 &&
    combiningClass second != 0 && combiningClass second ≤ 230 &&
    (!(slower 0).testBit first || combiningClass second == 230)
  | _ => false

theorem isMarkStep_of_mem : ∀ step ∈ steps, step.1 < firstMark → isMarkStep step = true := by
  decide +kernel

theorem combiningClass_below (h : n < firstMark) : combiningClass n = 0 := by
  have hmarks : ∀ range ∈ combiningClasses, firstMark ≤ range.1 := by
    decide +kernel
  have hnone : (combiningClasses.find? fun range =>
      decide (range.1 ≤ n) && decide (n ≤ range.2.1)) = none := by
    rw [List.find?_eq_none]
    intro range hrange hbounds
    have hle := hmarks range hrange
    simp only [Bool.and_eq_true, decide_eq_true_eq] at hbounds
    omega
  rw [combiningClass, hnone]

/-- Nothing below the marks joins what stands before it. -/
theorem composePair?_below (h : n < firstMark) (first : Nat) : composePair? first n = none := by
  have hseconds : ∀ pair ∈ compositePairs, firstMark ≤ pair.2.2 := by
    decide +kernel
  refine Option.eq_none_iff_forall_ne_some.mpr fun composite hcomposite => ?_
  rcases mem_of_composePair? hcomposite with hhangul | hpair
  · unfold firstMark at h
    unfold composeHangul? hangulVowel hangulTail at hhangul
    split at hhangul
    · omega
    · split at hhangul
      · omega
      · cases hhangul
  · exact absurd h (Nat.not_lt.mpr (hseconds _ hpair))

/-! ## One character -/

/-- The decomposition of a character into a letter and marks that join it one by one. -/
structure Marked (n base : Nat) (marks : List Nat) : Prop where
  decomposed : decomposed n = base :: marks
  below : base < firstMark
  classes : ∀ m ∈ marks, combiningClass m ≠ 0 ∧ combiningClass m ≤ 230
  ordered : MarksOrdered (base :: marks)
  joined : marks.foldlM composePair? base = some n

theorem not_isSyllable_below (h : n < firstMark) : ¬ IsSyllable n := by
  unfold firstMark at h
  unfold IsSyllable hangulFirst
  omega

theorem settled_of_testBit (hsyllable : ¬ IsSyllable n) (hbit : (slower 0).testBit n = false) :
    Settled n :=
  settled_of_slower hsyllable hbit n List.mem_cons_self

theorem marked_of_settled (h : n < firstMark) (hsettled : Settled n) : Marked n n [] where
  decomposed := decomposed_of_settled hsettled
  below := h
  classes := by simp
  ordered := .singleton n
  joined := rfl

/-- Another mark joins a character. -/
theorem Marked.snoc {first second base : Nat} {marks : List Nat} (h : Marked first base marks)
    (hmark : isMarkStep (n, [first, second]) = true) : Marked n base (marks ++ [second]) := by
  simp only [isMarkStep, Bool.and_eq_true, decide_eq_true_eq, Bool.not_eq_true',
    decide_eq_false_iff_not, beq_iff_eq, bne_iff_ne, Bool.or_eq_true] at hmark
  obtain ⟨⟨⟨⟨⟨⟨hlt, hbit⟩, hsyllable⟩, hcompose⟩, hne⟩, hle⟩, hlast⟩ := hmark
  have hbase := combiningClass_below h.below
  refine ⟨?_, h.below, ?_, ?_, ?_⟩
  · rw [decomposed_of_composePair? hcompose, h.decomposed,
      decomposed_of_settled (settled_of_testBit hsyllable hbit)]
    rfl
  · intro m hm
    rcases List.mem_append.mp hm with hm | hm
    · exact h.classes m hm
    · rw [List.mem_singleton.mp hm]
      exact ⟨hne, hle⟩
  · refine List.isChain_append.mpr ⟨h.ordered, .singleton second, ?_⟩
    intro last hlastMem m hm
    obtain rfl := Option.some.inj hm
    right
    rcases hlast with hsettled | htop
    · -- the other character is a letter, with nothing behind it
      have hself := h.decomposed
      rw [decomposed_of_settled (settled_of_testBit (not_isSyllable_below hlt) hsettled)] at hself
      cases hself
      obtain rfl := Option.some.inj hlastMem
      exact hbase ▸ Nat.zero_le _
    · rw [htop]
      rcases List.mem_cons.mp (List.mem_of_getLast? hlastMem) with rfl | hm
      · exact hbase ▸ Nat.zero_le _
      · exact (h.classes last hm).2
  · rw [List.foldlM_append, h.joined]
    simpa using hcompose

theorem marked_of_slower {depth : Nat} (h : n < firstMark)
    (hslower : (slower depth).testBit n = false) : ∃ base marks, Marked n base marks := by
  induction depth generalizing n with
  | zero => exact ⟨n, [], marked_of_settled h (settled_of_testBit (not_isSyllable_below h) hslower)⟩
  | succ depth ih =>
    cases hparts : decomposeOnce? n with
    | none => exact ⟨n, [], marked_of_settled h hparts⟩
    | some parts =>
      have hstep : (n, parts) ∈ steps :=
        (decomposeOnce?_cases hparts).resolve_left fun hhangul => not_isSyllable_below h hhangul.1
      have hmark := isMarkStep_of_mem _ hstep h
      obtain ⟨first, second, rfl⟩ : ∃ first second, parts = [first, second] := by
        unfold isMarkStep at hmark
        split at hmark
        · exact ⟨_, _, by assumption⟩
        · cases hmark
      have hbelow : first < firstMark := by
        simp only [isMarkStep, Bool.and_eq_true, decide_eq_true_eq] at hmark
        exact hmark.1.1.1.1.1.1
      have hfirst : (slower depth).testBit first = false :=
        slower_of_mem_parts hstep List.mem_cons_self hslower
      obtain ⟨base, marks, hmarked⟩ := ih hbelow hfirst
      exact ⟨base, marks ++ [second], hmarked.snoc hmark⟩

/-- Every character below the marks is of that kind. -/
theorem marked_of_below (h : n < firstMark) : ∃ base marks, Marked n base marks :=
  marked_of_slower h (by rw [slower_three, Nat.zero_testBit])

/-! ## Whole texts -/

/-- Marks that join a letter one by one are composed with it. -/
theorem composeBehind_of_joined {base : Nat} {marks : List Nat}
    (h : marks.foldlM composePair? base = some n) (rest : List Nat) :
    composeBehind base [] 0 (marks ++ rest) = composeBehind n [] 0 rest := by
  induction marks generalizing base with
  | nil =>
    obtain rfl := Option.some.inj h
    rfl
  | cons m marks ih =>
    rw [List.foldlM_cons] at h
    obtain ⟨composite, hcomposite, hrest⟩ := Option.bind_eq_some_iff.mp h
    rw [List.cons_append, composeBehind, if_pos (.inl rfl), hcomposite]
    exact ih hrest

/-- A letter that does not join begins anew. -/
theorem composeBehind_letter {letter : Nat} (h : letter < firstMark) (rest : List Nat) :
    composeBehind n [] 0 (letter :: rest) = n :: composeBehind letter [] 0 rest := by
  rw [composeBehind, if_pos (.inl rfl), composePair?_below h, if_pos (combiningClass_below h)]
  rfl

theorem ordered_flatMap_decomposed (h : ∀ c ∈ cs, c.toNat < firstMark) :
    MarksOrdered (cs.flatMap fun c => decomposed c.toNat) := by
  induction cs with
  | nil => exact .nil
  | cons c rest ih =>
    obtain ⟨hc, hrest⟩ := List.forall_mem_cons.mp h
    obtain ⟨base, marks, hmarked⟩ := marked_of_below hc
    rw [List.flatMap_cons, hmarked.decomposed]
    refine List.isChain_append.mpr ⟨hmarked.ordered, ih hrest, ?_⟩
    rintro _ _ m hm
    cases rest with
    | nil => cases hm
    | cons next rest =>
      obtain ⟨base, marks, hnext⟩ := marked_of_below (hrest next List.mem_cons_self)
      rw [List.flatMap_cons, hnext.decomposed] at hm
      obtain rfl := Option.some.inj hm
      exact .inl (combiningClass_below hnext.below)

theorem composeBehind_flatMap_decomposed (h : ∀ c ∈ cs, c.toNat < firstMark) (n : Nat) :
    composeBehind n [] 0 (cs.flatMap fun c => decomposed c.toNat) = n :: cs.map Char.toNat := by
  induction cs generalizing n with
  | nil => rfl
  | cons c rest ih =>
    obtain ⟨hc, hrest⟩ := List.forall_mem_cons.mp h
    obtain ⟨base, marks, hmarked⟩ := marked_of_below hc
    rw [List.flatMap_cons, hmarked.decomposed, List.cons_append, composeBehind_letter hmarked.below,
      composeBehind_of_joined hmarked.joined, ih hrest, List.map_cons]

/-- A text below the marks is composed to itself. -/
theorem compose_decomposition_below (h : ∀ c ∈ cs, c.toNat < firstMark) :
    compose (decomposition cs) = cs.map Char.toNat := by
  rw [decomposition, orderMarks_of_ordered (ordered_flatMap_decomposed h)]
  cases cs with
  | nil => rfl
  | cons c rest =>
    obtain ⟨hc, hrest⟩ := List.forall_mem_cons.mp h
    obtain ⟨base, marks, hmarked⟩ := marked_of_below hc
    rw [List.flatMap_cons, hmarked.decomposed, List.cons_append, compose,
      if_pos (combiningClass_below hmarked.below), composeBehind_of_joined hmarked.joined,
      composeBehind_flatMap_decomposed hrest, List.map_cons]

/-- The normal form is what is composed of the decomposition, for every text. -/
theorem normalForm_eq_compose (cs : List Char) :
    normalForm cs = (compose (decomposition cs)).map Char.ofNat := by
  rw [normalForm_eq]
  split
  · rename_i hlow
    have hbelow : ∀ c ∈ cs, c.toNat < firstMark := by simpa [firstMark] using hlow
    rw [compose_decomposition_below hbelow, List.map_map]
    exact (List.map_id' cs).symm.trans (List.map_congr_left fun c _ => (Char.ofNat_toNat c).symm)
  · rfl

end UnitCalc.Text
