import UnitCalc.Proofs.Registry.Answers
import UnitCalc.Proofs.Text.BelowMarks
import UnitCalc.Proofs.Text.Trimmed

/-!
# The normal form of spellings

A spelling is trimmed, composed, and its micro signs become Greek letters, each once and in this
order. Nothing has to be done again: the micro sign and the letter mu take part in no composition
and are no blanks, so each step leaves alone what the steps before it have reached. The keys of a
registry are therefore their own normal forms.
-/

namespace UnitCalc

open Text

variable {n m base last depth : Nat} {ns marks : List Nat}

/-! ## Micro signs among code points -/

/-- The code points of the micro sign and of the letter mu. -/
def microSign : Nat := 0xB5
def greekMu : Nat := 0x3BC

/-- What becomes of a code point. -/
def foldCode (n : Nat) : Nat := if n = microSign then greekMu else n

theorem foldCode_of_ne (h : n ≠ microSign) : foldCode n = n := if_neg h

theorem foldCode_microSign : foldCode microSign = greekMu := rfl

theorem toNat_foldMicro (c : Char) : (foldMicro c).toNat = foldCode c.toNat := by
  unfold foldMicro foldCode microSign
  by_cases h : c = '\u00B5'
  · rw [if_pos h, h]
    rfl
  · have hcode : c.toNat ≠ 0xB5 := fun hcode => h (Char.toNat_inj.mp hcode)
    rw [if_neg h, if_neg hcode]

theorem foldMicro_ofNat (n : Nat) : foldMicro (Char.ofNat n) = Char.ofNat (foldCode n) := by
  by_cases h : n = microSign
  · rw [h]
    rfl
  · rw [foldCode_of_ne h, foldMicro, if_neg]
    intro hmicro
    by_cases hvalid : n.isValidChar
    · have hcode := congrArg Char.toNat hmicro
      rw [toNat_ofNat hvalid] at hcode
      exact h hcode
    · rw [Char.ofNat, dif_neg hvalid] at hmicro
      cases hmicro

theorem map_foldCode_of_notMem (h : microSign ∉ ns) : ns.map foldCode = ns := by
  refine List.map_congr_left (fun n hn => foldCode_of_ne ?_) |>.trans (List.map_id' ns)
  rintro rfl
  exact h hn

/-- Neither of them is in the tables. -/
theorem not_micro_of_mem_steps : ∀ step ∈ steps, ∀ n ∈ step.1 :: step.2,
    n ≠ microSign ∧ n ≠ greekMu := by
  decide +kernel

theorem settled_of_micro (h : n = microSign ∨ n = greekMu) : Settled n := by
  unfold Settled
  by_contra hsome
  obtain ⟨parts, hparts⟩ := Option.ne_none_iff_exists'.mp hsome
  rcases decomposeOnce?_cases hparts with ⟨hsyllable, _⟩ | hstep
  · unfold microSign greekMu at h
    unfold IsSyllable hangulFirst at hsyllable
    omega
  · obtain ⟨hmicro, hmu⟩ := not_micro_of_mem_steps _ hstep n List.mem_cons_self
    exact h.elim hmicro hmu

/-- Only a micro sign is decomposed to one. -/
theorem eq_microSign_of_mem (h : microSign ∈ decompose depth n) : n = microSign := by
  induction depth generalizing n with
  | zero => exact (List.mem_singleton.mp h).symm
  | succ depth ih =>
    rw [decompose] at h
    split at h
    · rename_i parts hparts
      obtain ⟨part, hpart, h⟩ := List.mem_flatMap.mp h
      obtain rfl := ih h
      rcases decomposeOnce?_cases hparts with ⟨hsyllable, hletters⟩ | hstep
      · rw [hletters] at hpart
        obtain ⟨hle, _⟩ := isLetterBlock_of_mem hsyllable.index_lt hpart
        exact absurd hle (by decide)
      · exact absurd rfl (not_micro_of_mem_steps _ hstep _ (List.mem_cons_of_mem _ hpart)).1
    · exact (List.mem_singleton.mp h).symm

/-! ## Folding commutes with each step of the normal form -/

theorem decomposed_foldCode (n : Nat) : decomposed (foldCode n) = (decomposed n).map foldCode := by
  by_cases h : n = microSign
  · rw [h, foldCode_microSign, decomposed_of_settled (settled_of_micro (.inr rfl)),
      decomposed_of_settled (settled_of_micro (.inl rfl))]
    rfl
  · have hmem : microSign ∉ decomposed n := fun hmem => h (eq_microSign_of_mem hmem)
    rw [foldCode_of_ne h, map_foldCode_of_notMem hmem]

theorem combiningClass_foldCode (n : Nat) : combiningClass (foldCode n) = combiningClass n := by
  by_cases h : n = microSign
  · rw [h]
    decide +kernel
  · rw [foldCode_of_ne h]

theorem insertMark_map_foldCode (n : Nat) (ns : List Nat) :
    insertMark (foldCode n) (ns.map foldCode) = (insertMark n ns).map foldCode := by
  induction ns with
  | nil => rfl
  | cons m rest ih =>
    rw [List.map_cons, insertMark, insertMark, combiningClass_foldCode, combiningClass_foldCode, ih]
    split <;> rfl

theorem orderMarks_map_foldCode (ns : List Nat) :
    orderMarks (ns.map foldCode) = (orderMarks ns).map foldCode := by
  induction ns with
  | nil => rfl
  | cons n rest ih =>
    show insertMark (foldCode n) (orderMarks (rest.map foldCode)) = _
    rw [ih, insertMark_map_foldCode]
    rfl

/-- What composes, and what it gives, is not folded and nothing is folded to it. -/
theorem not_micro_of_composePair? {first second composite : Nat}
    (h : composePair? first second = some composite) :
    ∀ n ∈ [composite, first, second], n ≠ microSign ∧ n ≠ greekMu := by
  rcases mem_of_composePair? h with hhangul | hpair
  · have hbounds : ∀ n ∈ [composite, first, second], 0x1000 ≤ n := by
      unfold composeHangul? hangulFirst hangulLead hangulVowel hangulTail at hhangul
      simp only [List.mem_cons, List.not_mem_nil, or_false, forall_eq_or_imp, forall_eq]
      split at hhangul
      · obtain rfl := Option.some.inj hhangul
        omega
      · split at hhangul
        · obtain rfl := Option.some.inj hhangul
          omega
        · cases hhangul
    intro n hn
    have hle := hbounds n hn
    unfold microSign greekMu
    omega
  · exact not_micro_of_mem_steps _ (mem_steps_of_pair (List.mem_append_left _ hpair))

theorem composePair?_foldCode (first second : Nat) :
    composePair? (foldCode first) (foldCode second) = (composePair? first second).map foldCode := by
  cases hsome : composePair? first second with
  | some composite =>
    have hne := not_micro_of_composePair? hsome
    rw [foldCode_of_ne (hne first (by simp)).1, foldCode_of_ne (hne second (by simp)).1, hsome,
      Option.map_some, foldCode_of_ne (hne composite (by simp)).1]
  | none =>
    -- a fold that composes was no fold, and then nothing composes
    refine Option.eq_none_iff_forall_ne_some.mpr fun composite hcomposite => ?_
    have hne := not_micro_of_composePair? hcomposite
    have hsame {n : Nat} (hmu : foldCode n ≠ greekMu) : foldCode n = n :=
      foldCode_of_ne fun h => hmu (h ▸ foldCode_microSign)
    rw [hsame (hne _ (by simp)).2, hsame (hne _ (by simp)).2, hsome] at hcomposite
    cases hcomposite

theorem composeBehind_map_foldCode (base : Nat) (marks : List Nat) (last : Nat) (ns : List Nat) :
    composeBehind (foldCode base) (marks.map foldCode) last (ns.map foldCode) =
      (composeBehind base marks last ns).map foldCode := by
  induction ns generalizing base marks last with
  | nil => rfl
  | cons n rest ih =>
    rw [List.map_cons, composeBehind, composeBehind, combiningClass_foldCode, List.isEmpty_map,
      composePair?_foldCode]
    by_cases hfree : marks.isEmpty = true ∨ last < combiningClass n
    · rw [if_pos hfree, if_pos hfree]
      cases composePair? base n with
      | some composite => exact ih composite marks last
      | none =>
        simp only [Option.map_none]
        split
        · rw [List.map_append, List.map_cons, ← ih n [] 0]
          rfl
        · rw [← ih, List.map_append, List.map_singleton]
    · rw [if_neg hfree, if_neg hfree]
      simp only
      split
      · rw [List.map_append, List.map_cons, ← ih n [] 0]
        rfl
      · rw [← ih, List.map_append, List.map_singleton]

theorem compose_map_foldCode (ns : List Nat) :
    compose (ns.map foldCode) = (compose ns).map foldCode := by
  induction ns with
  | nil => rfl
  | cons n rest ih =>
    rw [List.map_cons, compose, compose, combiningClass_foldCode, ih]
    split
    · exact composeBehind_map_foldCode n [] 0 rest
    · rfl

theorem decomposition_map_foldMicro (cs : List Char) :
    decomposition (cs.map foldMicro) = (decomposition cs).map foldCode := by
  rw [decomposition, decomposition, ← orderMarks_map_foldCode, List.flatMap_map, List.map_flatMap]
  refine congrArg orderMarks (List.flatMap_congr fun c _ => ?_)
  rw [toNat_foldMicro, decomposed_foldCode]

theorem normalForm_map_foldMicro (cs : List Char) :
    normalForm (cs.map foldMicro) = (normalForm cs).map foldMicro := by
  rw [normalForm_eq_compose, normalForm_eq_compose, decomposition_map_foldMicro,
    compose_map_foldCode, List.map_map, List.map_map]
  exact List.map_congr_left fun n _ => (foldMicro_ofNat n).symm

/-! ## Spellings -/

theorem foldMicro_foldMicro (c : Char) : foldMicro (foldMicro c) = foldMicro c := by
  unfold foldMicro
  by_cases h : c = '\u00B5'
  · rw [if_pos h]
    rfl
  · rw [if_neg h, if_neg h]

theorem isBlank_foldMicro (c : Char) : isBlank (foldMicro c) = isBlank c := by
  unfold foldMicro
  split
  · rename_i h
    rw [h]
    decide +kernel
  · rfl

theorem trimmed_map_foldMicro {cs : List Char} (h : Trimmed cs) : Trimmed (cs.map foldMicro) where
  head c hc := by
    rw [List.head?_map] at hc
    obtain ⟨c', hc', rfl⟩ := Option.map_eq_some_iff.mp hc
    rw [isBlank_foldMicro, h.head c' hc']
  last c hc := by
    rw [List.getLast?_map] at hc
    obtain ⟨c', hc', rfl⟩ := Option.map_eq_some_iff.mp hc
    rw [isBlank_foldMicro, h.last c' hc']

/-- A spelling in normal form has no blanks at its ends. -/
theorem trimmed_normalSpelling (s : String) : Trimmed (normalSpelling s).toList := by
  rw [normalSpelling, String.toList_ofList]
  exact trimmed_map_foldMicro (trimmed_trim _).normalForm

/-- The normal form of a spelling is its own normal form. -/
theorem normalSpelling_normalSpelling (s : String) :
    normalSpelling (normalSpelling s) = normalSpelling s := by
  rw [normalSpelling, (trimmed_normalSpelling s).trim_eq, normalSpelling, String.toList_ofList,
    normalForm_map_foldMicro, normalForm_normalForm, List.map_map]
  exact congrArg String.ofList (List.map_congr_left fun c _ => foldMicro_foldMicro c)

/-- Spellings with one normal form decompose alike, apart from micro signs. -/
theorem decomposition_of_normalSpelling {s t : String} (h : normalSpelling s = normalSpelling t) :
    (decomposition (trim s.toList)).map foldCode =
      (decomposition (trim t.toList)).map foldCode := by
  have hchars := congrArg String.toList h
  rw [normalSpelling, normalSpelling, String.toList_ofList, String.toList_ofList] at hchars
  have hsame := congrArg decomposition hchars
  rwa [decomposition_map_foldMicro, decomposition_map_foldMicro, decomposition_normalForm,
    decomposition_normalForm] at hsame

/-! ## Keys -/

namespace Registry

variable {K : Type} [Scalar K] {records : List (UnitRecord K)} {r : Registry K} {key : String}

/-- The keys of a registry are their own normal forms. -/
theorem Built.normalSpelling_key (h : Built records r) (hkey : key ∈ r.keys) :
    normalSpelling key = key := by
  rw [h.mem_keys_iff, normalForms, List.mem_flatMap] at hkey
  obtain ⟨record, _, hspelling⟩ := hkey
  obtain ⟨s, _, rfl⟩ := List.mem_map.mp hspelling
  exact normalSpelling_normalSpelling s

/-- A key finds its unit. -/
theorem Built.exists_find?_key (h : Built records r) (hkey : key ∈ r.keys) :
    ∃ u, r.find? key = some u := by
  obtain ⟨⟨bound, u⟩, hmem, rfl⟩ := List.mem_map.mp hkey
  refine ⟨u, ?_⟩
  rw [find?, h.normalSpelling_key hkey]
  exact (lookup_eq_some_iff_mem h.nodup).mpr hmem

end Registry

end UnitCalc
