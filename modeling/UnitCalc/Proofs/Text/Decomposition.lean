import Mathlib.Data.List.Chain
import Mathlib.Data.List.Flatten
import UnitCalc.Text.Blank
import UnitCalc.Text.Normal

/-!
# Full decompositions

A character is decomposed as far as it goes in four steps or fewer: nothing that is left
decomposes further. So what a composite stands for is what its two parts stand for, one after the
other. The facts about the tables that this rests on are checked on the tables as a whole, where
sets of code points are held as bits of one number.
-/

namespace UnitCalc.Text

/-! ## Sets of numbers -/

/-- The set of some numbers: the number that has these bits. -/
def bitSet (ns : List Nat) : Nat :=
  ns.foldr (fun n set => set ||| 1 <<< n) 0

theorem testBit_bitSet {ns : List Nat} {n : Nat} : (bitSet ns).testBit n = true ↔ n ∈ ns := by
  induction ns with
  | nil => simp [bitSet]
  | cons m ns ih =>
    have hm : (1 <<< m).testBit n = decide (m = n) := by
      rw [Nat.one_shiftLeft, Nat.testBit_two_pow]
    rw [bitSet, List.foldr_cons, ← bitSet, Nat.testBit_or, Bool.or_eq_true, ih, hm,
      decide_eq_true_iff, List.mem_cons, or_comm, eq_comm]

theorem not_mem_of_testBit {ns : List Nat} {n : Nat} (h : (bitSet ns).testBit n = false) :
    n ∉ ns := by
  intro hn
  rw [testBit_bitSet.mpr hn] at h
  cases h

/-! ## One step -/

/-- Whether a code point is a Hangul syllable. -/
def IsSyllable (n : Nat) : Prop := hangulFirst ≤ n ∧ n < hangulFirst + hangulCount

instance (n : Nat) : Decidable (IsSyllable n) := inferInstanceAs (Decidable (_ ∧ _))

theorem IsSyllable.index_lt {n : Nat} (h : IsSyllable n) : n - hangulFirst < hangulCount := by
  obtain ⟨hle, hlt⟩ := h
  omega

/-- Whether a code point lies in the block of the Hangul letters. -/
def IsLetterBlock (n : Nat) : Prop := 0x1100 ≤ n ∧ n < 0x1200

instance (n : Nat) : Decidable (IsLetterBlock n) := inferInstanceAs (Decidable (_ ∧ _))

/-- The characters that stand for one other character. -/
def singletonSteps : List (Nat × List Nat) :=
  singletonRuns.flatMap fun run => run.2.zipIdx.map fun (m, i) => (run.1 + i, [m])

/-- The decompositions that the tables give, one step deep. -/
def steps : List (Nat × List Nat) :=
  singletonSteps ++
    (compositePairs ++ oneWayPairs).map fun (n, first, second) => (n, [first, second])

theorem mem_singletonSteps {run : Nat × List Nat} {n m : Nat} (hrun : run ∈ singletonRuns)
    (hle : run.1 ≤ n) (hm : run.2[n - run.1]? = some m) : (n, [m]) ∈ singletonSteps := by
  refine List.mem_flatMap.mpr ⟨run, hrun, List.mem_map.mpr ?_⟩
  refine ⟨(m, n - run.1), List.mem_zipIdx_iff_getElem?.mpr hm, ?_⟩
  simp only [Prod.mk.injEq, and_true]
  omega

theorem mem_steps_of_pair {n first second : Nat}
    (h : (n, first, second) ∈ compositePairs ++ oneWayPairs) : (n, [first, second]) ∈ steps :=
  List.mem_append_right _ (List.mem_map.mpr ⟨_, h, rfl⟩)

/-- A decomposition is that of a Hangul syllable, or it is in the tables. -/
theorem decomposeOnce?_cases {n : Nat} {parts : List Nat} (h : decomposeOnce? n = some parts) :
    IsSyllable n ∧ parts = hangulLetters (n - hangulFirst) ∨ (n, parts) ∈ steps := by
  unfold decomposeOnce? at h
  split at h
  · rename_i hsyllable
    exact .inl ⟨hsyllable, (Option.some.inj h).symm⟩
  · right
    split at h
    · rename_i run hrun
      obtain ⟨m, hm, rfl⟩ := Option.map_eq_some_iff.mp h
      have hbounds := List.find?_some hrun
      simp only [Bool.and_eq_true, decide_eq_true_eq] at hbounds
      exact List.mem_append_left _
        (mem_singletonSteps (List.mem_of_find?_eq_some hrun) hbounds.1 hm)
    · split at h
      · rename_i hpair
        cases h
        refine mem_steps_of_pair ?_
        rcases Option.or_eq_some_iff.mp hpair with hfirst | ⟨_, hsecond⟩
        · have hkey := List.find?_some hfirst
          rw [beq_iff_eq] at hkey
          exact List.mem_append_left _ (hkey ▸ List.mem_of_find?_eq_some hfirst)
        · have hkey := List.find?_some hsecond
          rw [beq_iff_eq] at hkey
          exact List.mem_append_right _ (hkey ▸ List.mem_of_find?_eq_some hsecond)
      · cases h

/-- Neither what is decomposed by the tables nor its parts are Hangul syllables, and nothing in
the block of the Hangul letters is decomposed. -/
theorem steps_without_hangul : ∀ step ∈ steps, ¬ IsSyllable step.1 ∧ ¬ IsLetterBlock step.1 ∧
    ∀ m ∈ step.2, ¬ IsSyllable m := by
  decide +kernel

theorem isLetterBlock_of_mem {index m : Nat} (hindex : index < hangulCount)
    (hm : m ∈ hangulLetters index) : IsLetterBlock m := by
  unfold hangulCount at hindex
  unfold hangulLetters at hm
  unfold IsLetterBlock
  split at hm <;>
    simp only [hangulLead, hangulVowel, hangulTail, List.mem_append, List.mem_cons,
      List.not_mem_nil, or_false] at hm <;>
    omega

/-! ## All steps -/

/-- A code point that stands for itself. -/
def Settled (n : Nat) : Prop := decomposeOnce? n = none

theorem settled_of_letterBlock {n : Nat} (h : IsLetterBlock n) : Settled n := by
  unfold Settled
  by_contra hsome
  obtain ⟨parts, hparts⟩ := Option.ne_none_iff_exists'.mp hsome
  rcases decomposeOnce?_cases hparts with ⟨hsyllable, _⟩ | hstep
  · unfold IsLetterBlock at h
    unfold IsSyllable hangulFirst at hsyllable
    omega
  · exact (steps_without_hangul _ hstep).2.1 h

theorem decompose_of_settled {n : Nat} (h : Settled n) (depth : Nat) : decompose depth n = [n] := by
  cases depth with
  | zero => rfl
  | succ depth =>
    unfold decompose
    rw [show decomposeOnce? n = none from h]

/-- Where everything has settled, one more step changes nothing. -/
theorem decompose_succ {depth n : Nat} (h : ∀ m ∈ decompose depth n, Settled m) :
    decompose (depth + 1) n = decompose depth n := by
  induction depth generalizing n with
  | zero => exact decompose_of_settled (h n (by simp [decompose])) 1
  | succ depth ih =>
    rw [decompose] at h ⊢
    cases hparts : decomposeOnce? n with
    | none => rw [decompose, hparts]
    | some parts =>
      rw [hparts] at h
      conv_rhs => rw [decompose, hparts]
      refine List.flatMap_congr fun part hpart => ih fun m hm => ?_
      exact h m (List.mem_flatMap.mpr ⟨part, hpart, hm⟩)

/-- The code points whose decomposition by the tables takes more than some number of steps. -/
def slower : Nat → Nat
  | 0 => bitSet (steps.map (·.1))
  | depth + 1 =>
    bitSet ((steps.filter fun step => step.2.any (slower depth).testBit).map (·.1))

/-- No decomposition takes more than three steps. -/
theorem slower_three : slower 3 = 0 := by
  decide +kernel

/-- The parts of a character take one step less than it does. -/
theorem slower_of_mem_parts {depth n part : Nat} {parts : List Nat} (hstep : (n, parts) ∈ steps)
    (hpart : part ∈ parts) (hslower : (slower (depth + 1)).testBit n = false) :
    (slower depth).testBit part = false := by
  by_contra hdeep
  rw [Bool.not_eq_false] at hdeep
  refine not_mem_of_testBit hslower (List.mem_map.mpr ⟨_, List.mem_filter.mpr ⟨hstep, ?_⟩, rfl⟩)
  exact List.any_eq_true.mpr ⟨part, hpart, hdeep⟩

theorem settled_of_slower {depth n : Nat} (hsyllable : ¬ IsSyllable n)
    (hslower : (slower depth).testBit n = false) : ∀ m ∈ decompose depth n, Settled m := by
  induction depth generalizing n with
  | zero =>
    intro m hm
    rw [decompose, List.mem_singleton] at hm
    subst hm
    unfold Settled
    by_contra hsome
    obtain ⟨parts, hparts⟩ := Option.ne_none_iff_exists'.mp hsome
    rcases decomposeOnce?_cases hparts with ⟨h, _⟩ | hstep
    · exact hsyllable h
    · exact not_mem_of_testBit hslower (List.mem_map_of_mem hstep)
  | succ depth ih =>
    cases hparts : decomposeOnce? n with
    | none =>
      intro m hm
      rw [decompose_of_settled hparts, List.mem_singleton] at hm
      rwa [hm]
    | some parts =>
      rcases decomposeOnce?_cases hparts with ⟨h, _⟩ | hstep
      · exact absurd h hsyllable
      · intro m hm
        rw [decompose, hparts] at hm
        obtain ⟨part, hpart, hm⟩ := List.mem_flatMap.mp hm
        exact ih ((steps_without_hangul _ hstep).2.2 part hpart)
          (slower_of_mem_parts hstep hpart hslower) m hm

/-- The parts of a character settle one step before it does. -/
theorem settled_of_mem_parts {n part m : Nat} {parts : List Nat}
    (h : decomposeOnce? n = some parts) (hpart : part ∈ parts) (hm : m ∈ decompose 3 part) :
    Settled m := by
  rcases decomposeOnce?_cases h with ⟨hsyllable, hletters⟩ | hstep
  · rw [hletters] at hpart
    have hblock := isLetterBlock_of_mem hsyllable.index_lt hpart
    rw [decompose_of_settled (settled_of_letterBlock hblock), List.mem_singleton] at hm
    rw [hm]
    exact settled_of_letterBlock hblock
  · refine settled_of_slower ((steps_without_hangul _ hstep).2.2 part hpart) ?_ m hm
    rw [slower_three, Nat.zero_testBit]

/-- What a character stands for, decomposed as far as it goes. -/
def decomposed (n : Nat) : List Nat := decompose 4 n

theorem decomposed_of_settled {n : Nat} (h : Settled n) : decomposed n = [n] :=
  decompose_of_settled h 4

theorem decomposed_of_step {n : Nat} {parts : List Nat} (h : decomposeOnce? n = some parts) :
    decomposed n = parts.flatMap decomposed := by
  rw [decomposed, decompose, h]
  refine List.flatMap_congr fun part hpart => ?_
  exact (decompose_succ fun m hm => settled_of_mem_parts h hpart hm).symm

theorem settled_of_mem_decomposed {n m : Nat} (h : m ∈ decomposed n) : Settled m := by
  cases hparts : decomposeOnce? n with
  | none =>
    rw [decomposed_of_settled hparts, List.mem_singleton] at h
    rwa [h]
  | some parts =>
    rw [decomposed, decompose, hparts] at h
    obtain ⟨part, hpart, hm⟩ := List.mem_flatMap.mp h
    exact settled_of_mem_parts hparts hpart hm

/-! ## Composites -/

theorem decomposeOnce?_of_syllable {n : Nat} (h : IsSyllable n) :
    decomposeOnce? n = some (hangulLetters (n - hangulFirst)) :=
  if_pos h

theorem decomposed_of_letterBlock {n : Nat} (h : IsLetterBlock n) : decomposed n = [n] :=
  decomposed_of_settled (settled_of_letterBlock h)

theorem decomposed_of_syllable {n : Nat} (h : IsSyllable n) :
    decomposed n = hangulLetters (n - hangulFirst) := by
  rw [decomposed_of_step (decomposeOnce?_of_syllable h), List.flatMap_congr fun m hm =>
    decomposed_of_letterBlock (isLetterBlock_of_mem h.index_lt hm)]
  simp

/-- An open syllable is a leading consonant and a vowel. -/
theorem decomposed_openSyllable {lead vowel : Nat} (hlead : lead < 19) (hvowel : vowel < 21) :
    decomposed (hangulFirst + (lead * 21 + vowel) * 28) =
      [hangulLead + lead, hangulVowel + vowel] := by
  have hsyllable : IsSyllable (hangulFirst + (lead * 21 + vowel) * 28) := by
    unfold IsSyllable hangulCount
    omega
  rw [decomposed_of_syllable hsyllable, Nat.add_sub_cancel_left, hangulLetters,
    if_pos (by omega), show (lead * 21 + vowel) * 28 / 588 = lead by omega,
    show (lead * 21 + vowel) * 28 % 588 / 28 = vowel by omega]

/-- A closed syllable is an open one and a trailing consonant. -/
theorem decomposed_closedSyllable {n tail : Nat} (hsyllable : IsSyllable n)
    (hopen : (n - hangulFirst) % 28 = 0) (htail : 0 < tail) (hlt : tail < 28) :
    decomposed (n + tail) = decomposed n ++ [hangulTail + tail] := by
  have hindex := hsyllable.index_lt
  have hnext : n + tail - hangulFirst = n - hangulFirst + tail := Nat.sub_add_comm hsyllable.1
  have hclosed : IsSyllable (n + tail) := by
    obtain ⟨hle, _⟩ := hsyllable
    unfold IsSyllable
    unfold hangulCount at hindex ⊢
    omega
  rw [decomposed_of_syllable hsyllable, decomposed_of_syllable hclosed, hnext]
  generalize n - hangulFirst = index at hopen
  rw [hangulLetters, hangulLetters, if_neg (by omega), if_pos hopen,
    show (index + tail) / 588 = index / 588 by omega,
    show (index + tail) % 588 / 28 = index % 588 / 28 by omega,
    show (index + tail) % 28 = tail by omega]

/-- A Hangul syllable stands for what the two characters that compose it stand for. -/
theorem decomposed_of_composeHangul? {first second n : Nat}
    (h : composeHangul? first second = some n) :
    decomposed n = decomposed first ++ decomposed second := by
  have hletter (m : Nat) (hle : 0x1100 ≤ m) (hlt : m < 0x1200) : decomposed m = [m] :=
    decomposed_of_settled (settled_of_letterBlock ⟨hle, hlt⟩)
  unfold composeHangul? at h
  split at h
  · rename_i hletters
    obtain rfl := Option.some.inj h
    obtain ⟨lead, rfl⟩ := Nat.exists_eq_add_of_le hletters.1
    obtain ⟨vowel, rfl⟩ := Nat.exists_eq_add_of_le hletters.2.2.1
    have hlead : lead < 19 := by omega
    have hvowel : vowel < 21 := by omega
    rw [Nat.add_sub_cancel_left, Nat.add_sub_cancel_left, decomposed_openSyllable hlead hvowel,
      hletter _ (by unfold hangulLead; omega) (by unfold hangulLead; omega),
      hletter _ (by unfold hangulVowel; omega) (by unfold hangulVowel; omega)]
    rfl
  · split at h
    · rename_i hsyllable
      obtain rfl := Option.some.inj h
      obtain ⟨hle, hlt, hopen, htail, hend⟩ := hsyllable
      obtain ⟨tail, rfl⟩ := Nat.exists_eq_add_of_lt htail
      rw [show hangulTail + tail + 1 - hangulTail = tail + 1 by omega,
        decomposed_closedSyllable ⟨hle, hlt⟩ hopen (by omega) (by omega), ← Nat.add_assoc,
        hletter (hangulTail + tail + 1) (by unfold hangulTail; omega)
          (by unfold hangulTail; omega)]
    · cases h

/-- The composites of the table, in increasing order. -/
theorem pairwise_compositePairs : compositePairs.Pairwise fun p q => p.1 < q.1 := by
  have hchain : compositePairs.IsChain fun p q => p.1 < q.1 := by
    decide +kernel
  have htrans : IsTrans (Nat × Nat × Nat) fun p q => p.1 < q.1 := ⟨fun _ _ _ => Nat.lt_trans⟩
  exact List.isChain_iff_pairwise.mp hchain

/-- No composite stands for a single character. -/
theorem composite_not_singleton : ∀ pair ∈ compositePairs,
    (bitSet (singletonSteps.map (·.1))).testBit pair.1 = false := by
  decide +kernel

theorem decomposeOnce?_of_mem {n first second : Nat} (h : (n, first, second) ∈ compositePairs) :
    decomposeOnce? n = some [first, second] := by
  have hsyllable : ¬ (hangulFirst ≤ n ∧ n < hangulFirst + hangulCount) :=
    (steps_without_hangul _ (mem_steps_of_pair (List.mem_append_left _ h))).1
  have hsingle : (singletonRuns.find? fun run =>
      decide (run.1 ≤ n) && decide (n < run.1 + run.2.length)) = none := by
    rw [List.find?_eq_none]
    intro run hrun hbounds
    simp only [Bool.and_eq_true, decide_eq_true_eq] at hbounds
    have hm : run.2[n - run.1]? = some run.2[n - run.1] := List.getElem?_eq_getElem (by omega)
    exact not_mem_of_testBit (composite_not_singleton _ h)
      (List.mem_map_of_mem (mem_singletonSteps hrun hbounds.1 hm))
  have hpair : compositePairs.find? (·.1 == n) = some (n, first, second) := by
    obtain ⟨before, behind, hsplit⟩ := List.append_of_mem h
    have hsorted := pairwise_compositePairs
    rw [hsplit, List.pairwise_append] at hsorted
    rw [List.find?_eq_some_iff_append]
    refine ⟨beq_self_eq_true n, before, behind, hsplit, ?_⟩
    intro pair hmem
    have hlt := hsorted.2.2 pair hmem _ List.mem_cons_self
    simpa using Nat.ne_of_lt hlt
  rw [decomposeOnce?, if_neg hsyllable, hsingle, hpair]
  rfl

theorem mem_of_composePair? {first second n : Nat} (h : composePair? first second = some n) :
    composeHangul? first second = some n ∨ (n, first, second) ∈ compositePairs := by
  rcases Option.or_eq_some_iff.mp h with hhangul | ⟨_, hpair⟩
  · exact .inl hhangul
  · right
    obtain ⟨pair, hfound, rfl⟩ := Option.map_eq_some_iff.mp hpair
    have hparts := List.find?_some hfound
    simp only [Bool.and_eq_true, beq_iff_eq] at hparts
    obtain ⟨rfl, rfl⟩ := hparts
    exact List.mem_of_find?_eq_some hfound

/-- A composite stands for what its two parts stand for. -/
theorem decomposed_of_composePair? {first second n : Nat}
    (h : composePair? first second = some n) :
    decomposed n = decomposed first ++ decomposed second := by
  rcases mem_of_composePair? h with hhangul | hpair
  · exact decomposed_of_composeHangul? hhangul
  · rw [decomposed_of_step (decomposeOnce?_of_mem hpair)]
    simp

end UnitCalc.Text
