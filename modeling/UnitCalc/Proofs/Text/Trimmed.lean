import UnitCalc.Proofs.Text.NormalForm

/-!
# Blanks at the ends of a text

The normal form neither makes nor removes blanks at the ends of a text: a blank stands for a
blank, nothing else does, and no mark moves past one. So a text that has been trimmed stays so.
-/

namespace UnitCalc.Text

variable {n m w depth : Nat} {ns : List Nat} {cs : List Char}

/-! ## Blanks and their decompositions -/

/-- The code points of the blanks. -/
def blankCodes : List Nat :=
  blankRanges.flatMap fun range => List.range' range.1 (range.2 + 1 - range.1)

theorem isBlank_iff {c : Char} : isBlank c = true ↔ c.toNat ∈ blankCodes := by
  simp only [isBlank, Ranges.contains, List.any_eq_true, Bool.and_eq_true, decide_eq_true_eq,
    blankCodes, List.mem_flatMap, List.mem_range'_1]
  refine exists_congr fun range => and_congr_right fun _ => ?_
  omega

/-- Two of the blanks stand for another one, and blanks are in no other decomposition. -/
def blankSteps : List (Nat × List Nat) := [(0x2000, [0x2002]), (0x2001, [0x2003])]

theorem mem_blankSteps_of_testBit : ∀ step ∈ steps, ∀ n ∈ step.1 :: step.2,
    (bitSet blankCodes).testBit n = true → step ∈ blankSteps := by
  decide +kernel

theorem mem_blankSteps {step : Nat × List Nat} (hstep : step ∈ steps) (hn : n ∈ step.1 :: step.2)
    (hblank : n ∈ blankCodes) : step ∈ blankSteps :=
  mem_blankSteps_of_testBit step hstep n hn (testBit_bitSet.mpr hblank)

theorem combiningClass_of_blank : ∀ n ∈ blankCodes, combiningClass n = 0 := by
  decide +kernel

theorem not_isLetterBlock_of_blank : ∀ n ∈ blankCodes, ¬ IsLetterBlock n := by
  decide +kernel

theorem not_isSyllable_of_blank : ∀ n ∈ blankCodes, ¬ IsSyllable n := by
  decide +kernel

/-- A blank settles, or it is one of the two that stand for a blank that settles. -/
theorem decomposed_of_blank (h : n ∈ blankCodes) : ∃ m ∈ blankCodes, decomposed n = [m] := by
  have hstep {n : Nat} {parts : List Nat} (hn : n ∈ blankCodes)
      (hparts : decomposeOnce? n = some parts) : (n, parts) ∈ blankSteps := by
    rcases decomposeOnce?_cases hparts with ⟨hsyllable, _⟩ | hstep
    · exact absurd hsyllable (not_isSyllable_of_blank n hn)
    · exact mem_blankSteps hstep List.mem_cons_self hn
  have hsettled : ∀ step ∈ blankSteps, ∀ m ∈ step.2, m ∈ blankCodes ∧ ∀ other ∈ blankSteps,
      m ≠ other.1 := by
    decide +kernel
  cases hparts : decomposeOnce? n with
  | none => exact ⟨n, h, decomposed_of_settled hparts⟩
  | some parts =>
    have hmem := hstep h hparts
    obtain ⟨m, rfl⟩ : ∃ m, parts = [m] := by
      simp only [blankSteps, List.mem_cons, Prod.mk.injEq, List.not_mem_nil, or_false] at hmem
      rcases hmem with ⟨_, rfl⟩ | ⟨_, rfl⟩
      · exact ⟨_, rfl⟩
      · exact ⟨_, rfl⟩
    obtain ⟨hm, hlast⟩ := hsettled _ hmem m List.mem_cons_self
    refine ⟨m, hm, ?_⟩
    rw [decomposed_of_step hparts, List.flatMap_singleton]
    refine decomposed_of_settled ?_
    cases hagain : decomposeOnce? m with
    | none => exact hagain
    | some parts => exact absurd rfl (hlast _ (hstep hm hagain))

/-- Only a blank has a blank in its decomposition. -/
theorem blank_of_mem_decompose (hm : m ∈ decompose depth n) (hblank : m ∈ blankCodes) :
    n ∈ blankCodes := by
  induction depth generalizing n with
  | zero =>
    rw [decompose, List.mem_singleton] at hm
    rwa [← hm]
  | succ depth ih =>
    rw [decompose] at hm
    split at hm
    · rename_i parts hparts
      obtain ⟨part, hpart, hm⟩ := List.mem_flatMap.mp hm
      have hpartBlank := ih hm
      rcases decomposeOnce?_cases hparts with ⟨hsyllable, hletters⟩ | hstep
      · rw [hletters] at hpart
        exact absurd (isLetterBlock_of_mem hsyllable.index_lt hpart)
          (not_isLetterBlock_of_blank part hpartBlank)
      · have hall : ∀ step ∈ blankSteps, step.1 ∈ blankCodes := by
          decide +kernel
        exact hall _ (mem_blankSteps hstep (List.mem_cons_of_mem _ hpart) hpartBlank)
    · rwa [← List.mem_singleton.mp hm]

theorem decomposed_ne_nil (n : Nat) : decomposed n ≠ [] := by
  have hparts : ∀ step ∈ steps, step.2 ≠ [] := by
    simp only [steps, singletonSteps, List.mem_append, List.mem_flatMap, List.mem_map]
    rintro step (⟨run, _, _, _, rfl⟩ | ⟨_, _, rfl⟩)
    · exact List.cons_ne_nil _ _
    · exact List.cons_ne_nil _ _
  have hdepth (depth : Nat) : decompose depth n ≠ [] := by
    induction depth generalizing n with
    | zero => exact List.cons_ne_nil _ _
    | succ depth ih =>
      rw [decompose]
      split
      · rename_i parts hsome
        have hne : parts ≠ [] := by
          rcases decomposeOnce?_cases hsome with ⟨_, hletters⟩ | hstep
          · rw [hletters, hangulLetters]
            split <;> exact List.cons_ne_nil _ _
          · exact hparts _ hstep
        obtain ⟨part, rest, rfl⟩ := List.exists_cons_of_ne_nil hne
        rw [List.flatMap_cons]
        exact List.append_ne_nil_of_left_ne_nil (ih part) _
      · exact List.cons_ne_nil _ _
  exact hdepth 4

/-! ## The ends of a text in order -/

/-- Only what is first stays first. -/
theorem head?_orderMarks (h : combiningClass w = 0) :
    (orderMarks ns).head? = some w ↔ ns.head? = some w := by
  cases ns with
  | nil => rfl
  | cons n rest =>
    show (insertMark n (orderMarks rest)).head? = some w ↔ some n = some w
    unfold insertMark
    split
    · rfl
    · rename_i m rest hrest
      split
      · rename_i hmoves
        simp only [List.head?_cons, Option.some.injEq]
        constructor
        · rintro rfl
          exact absurd h hmoves.1
        · rintro rfl
          omega
      · rfl

theorem getLast?_insertMark (h : combiningClass w = 0) :
    (insertMark n ns).getLast? = some w ↔ (n :: ns).getLast? = some w := by
  induction ns with
  | nil => rfl
  | cons m rest ih =>
    unfold insertMark
    split
    · rename_i hmoves
      have hne : insertMark n rest ≠ [] := by
        intro hnil
        simpa [hnil] using (insertMark_perm n rest).length_eq
      obtain ⟨k, ks, hks⟩ := List.exists_cons_of_ne_nil hne
      rw [hks] at ih ⊢
      rw [List.getLast?_cons_cons, ih]
      cases rest with
      | nil =>
        simp only [List.getLast?_singleton, List.getLast?_cons_cons, Option.some.injEq]
        constructor
        · rintro rfl
          omega
        · rintro rfl
          exact absurd h hmoves.1
      | cons j rest => simp only [List.getLast?_cons_cons]
    · rfl

/-- Only what is last stays last. -/
theorem getLast?_orderMarks (h : combiningClass w = 0) :
    (orderMarks ns).getLast? = some w ↔ ns.getLast? = some w := by
  induction ns with
  | nil => rfl
  | cons n rest ih =>
    show (insertMark n (orderMarks rest)).getLast? = some w ↔ _
    rw [getLast?_insertMark h]
    cases rest with
    | nil => rfl
    | cons m ms =>
      have hne : orderMarks (m :: ms) ≠ [] := by
        intro hnil
        simpa [hnil] using (orderMarks_perm (m :: ms)).length_eq
      obtain ⟨k, ks, hks⟩ := List.exists_cons_of_ne_nil hne
      rw [hks] at ih ⊢
      rw [List.getLast?_cons_cons, ih, List.getLast?_cons_cons]

/-! ## Trimmed texts -/

/-- A text without blanks at its ends. -/
structure Trimmed (cs : List Char) : Prop where
  head : ∀ c, cs.head? = some c → isBlank c = false
  last : ∀ c, cs.getLast? = some c → isBlank c = false

/-- A blank at the head of a text is at the head of its decomposition, and conversely. -/
theorem head?_decomposition :
    (∃ w ∈ blankCodes, (decomposition cs).head? = some w) ↔
      ∃ c, cs.head? = some c ∧ isBlank c = true := by
  cases cs with
  | nil => simp [decomposition, orderMarks]
  | cons c rest =>
    have hhead : ((c :: rest).flatMap fun c => decomposed c.toNat).head? =
        (decomposed c.toNat).head? := by
      rw [List.flatMap_cons]
      exact List.head?_append_of_ne_nil _ (decomposed_ne_nil _)
    constructor
    · rintro ⟨w, hw, hfirst⟩
      rw [decomposition, head?_orderMarks (combiningClass_of_blank w hw), hhead] at hfirst
      exact ⟨c, rfl, isBlank_iff.mpr (blank_of_mem_decompose (List.mem_of_head? hfirst) hw)⟩
    · rintro ⟨c', hc', hblank⟩
      obtain rfl := Option.some.inj hc'
      obtain ⟨w, hw, hone⟩ := decomposed_of_blank (isBlank_iff.mp hblank)
      refine ⟨w, hw, ?_⟩
      rw [decomposition, head?_orderMarks (combiningClass_of_blank w hw), hhead, hone]
      rfl

/-- A blank at the end of a text is at the end of its decomposition, and conversely. -/
theorem getLast?_decomposition :
    (∃ w ∈ blankCodes, (decomposition cs).getLast? = some w) ↔
      ∃ c, cs.getLast? = some c ∧ isBlank c = true := by
  induction cs using List.reverseRecOn with
  | nil => simp [decomposition, orderMarks]
  | append_singleton before c _ =>
    have hlast : ((before ++ [c]).flatMap fun c => decomposed c.toNat).getLast? =
        (decomposed c.toNat).getLast? := by
      rw [List.flatMap_append, List.flatMap_singleton]
      exact List.getLast?_append_of_ne_nil _ (decomposed_ne_nil _)
    constructor
    · rintro ⟨w, hw, hfound⟩
      rw [decomposition, getLast?_orderMarks (combiningClass_of_blank w hw), hlast] at hfound
      refine ⟨c, List.getLast?_concat, isBlank_iff.mpr ?_⟩
      exact blank_of_mem_decompose (List.mem_of_getLast? hfound) hw
    · rintro ⟨c', hc', hblank⟩
      rw [List.getLast?_concat] at hc'
      obtain rfl := Option.some.inj hc'
      obtain ⟨w, hw, hone⟩ := decomposed_of_blank (isBlank_iff.mp hblank)
      refine ⟨w, hw, ?_⟩
      rw [decomposition, getLast?_orderMarks (combiningClass_of_blank w hw), hlast, hone]
      rfl

/-- The normal form of a trimmed text is trimmed. -/
theorem Trimmed.normalForm (h : Trimmed cs) : Trimmed (normalForm cs) where
  head c hc := by
    by_contra hblank
    have hboth := head?_decomposition.mpr ⟨c, hc, Bool.of_not_eq_false hblank⟩
    rw [decomposition_normalForm] at hboth
    obtain ⟨c', hc', hblank'⟩ := head?_decomposition.mp hboth
    rw [h.head c' hc'] at hblank'
    cases hblank'
  last c hc := by
    by_contra hblank
    have hboth := getLast?_decomposition.mpr ⟨c, hc, Bool.of_not_eq_false hblank⟩
    rw [decomposition_normalForm] at hboth
    obtain ⟨c', hc', hblank'⟩ := getLast?_decomposition.mp hboth
    rw [h.last c' hc'] at hblank'
    cases hblank'

theorem trimLeft_eq_self (h : ∀ c, cs.head? = some c → isBlank c = false) :
    trimLeft cs = cs := by
  cases cs with
  | nil => rfl
  | cons c rest => exact List.dropWhile_cons_of_neg (by rw [h c rfl]; exact Bool.false_ne_true)

theorem Trimmed.trim_eq (h : Trimmed cs) : trim cs = cs := by
  have hlast : ∀ c, cs.reverse.head? = some c → isBlank c = false := by
    intro c hc
    rw [List.head?_reverse] at hc
    exact h.last c hc
  rw [trim, trimLeft_eq_self h.head, trimRight, trimLeft_eq_self hlast, List.reverse_reverse]

theorem head?_trimLeft {c : Char} (h : (trimLeft cs).head? = some c) : isBlank c = false := by
  have hfalse := List.head?_dropWhile_not isBlank cs
  rw [← trimLeft, h] at hfalse
  simpa using hfalse

/-- What has been trimmed has no blanks at its ends. -/
theorem trimmed_trim (cs : List Char) : Trimmed (trim cs) where
  last c hc := by
    rw [trim, trimRight, List.getLast?_reverse] at hc
    exact head?_trimLeft hc
  head c hc := by
    -- what is cut off at the end leaves the head where it was
    have hcut : trim cs <+: trimLeft cs := by
      rw [trim, trimRight, ← List.reverse_suffix, List.reverse_reverse]
      exact List.dropWhile_suffix _
    obtain ⟨behind, hbehind⟩ := hcut
    obtain ⟨rest, hrest⟩ := List.head?_eq_some_iff.mp hc
    have hfirst : (trimLeft cs).head? = some c := by
      rw [← hbehind, hrest]
      rfl
    exact head?_trimLeft hfirst

end UnitCalc.Text
