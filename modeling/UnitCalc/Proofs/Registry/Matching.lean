import UnitCalc.Proofs.Registry.Answers

/-!
# Matching at a position

The spellings of a registry stand in one canonical order: longer ones first, and those of one
length by their code points. The spelling that is found at a position of a text is the longest
one that the text has there, which is also the first one in that order. So what is found depends
on the set of spellings only, and not on the order in which they were registered.
-/

namespace UnitCalc.Registry

variable {K : Type}

/-! ## The canonical order -/

/-- One spelling stands before another: it is longer, or it is as long and its code points are
smaller at the first difference. -/
def ComesBefore (s t : String) : Prop :=
  t.length < s.length ∨
    s.length = t.length ∧ s.toList.map Char.toNat < t.toList.map Char.toNat

theorem comesBefore_of_spellingBefore {s t : String} (h : spellingBefore s t = true)
    (hne : s ≠ t) : ComesBefore s t := by
  rcases spellingBefore_iff.mp h with hlonger | ⟨hlength, hle⟩
  · exact .inl hlonger
  · have hlt : s < t := by
      by_contra hge
      exact hne (String.le_antisymm hle hge)
    exact .inr ⟨hlength, List.map_lt (fun _ _ hchar => hchar) (String.lt_iff.mp hlt)⟩

theorem ComesBefore.length_le {s t : String} (h : ComesBefore s t) : t.length ≤ s.length := by
  rcases h with hlonger | ⟨hlength, _⟩
  · exact Nat.le_of_lt hlonger
  · exact Nat.le_of_eq hlength.symm

theorem mem_spellings_iff_mem_keys {r : Registry K} {key : String} :
    key ∈ r.spellings ↔ key ∈ r.keys :=
  List.mem_mergeSort

theorem nodup_spellings {r : Registry K} (hnodup : r.keys.Nodup) : r.spellings.Nodup :=
  (List.mergeSort_perm r.keys spellingBefore).nodup_iff.mpr hnodup

theorem pairwise_comesBefore {r : Registry K} (hnodup : r.keys.Nodup) :
    r.spellings.Pairwise ComesBefore :=
  (pairwise_spellings r).imp₂ (fun _ _ h hne => comesBefore_of_spellingBefore h hne)
    (nodup_spellings hnodup)

/-! ## The first match -/

/-- The longest match is the first one in the canonical order. -/
theorem longestMatch?_eq_find? {r : Registry K} (hnodup : r.keys.Nodup) (cs : List Char) :
    r.longestMatch? cs = r.spellings.find? fun key => key.toList.isPrefixOf cs := by
  have hsorted := pairwise_comesBefore hnodup
  cases hfind : r.spellings.find? fun key => key.toList.isPrefixOf cs with
  | none =>
    have hnone : ∀ key ∈ r.keys, ¬ key.toList <+: cs := by
      simpa [List.find?_eq_none, mem_spellings_iff_mem_keys] using hfind
    by_contra hsome
    obtain ⟨found, hfound⟩ := Option.ne_none_iff_exists'.mp hsome
    have hlongest := longestMatch?_eq_some_iff.mp hfound
    exact hnone found hlongest.mem hlongest.isPrefix
  | some found =>
    obtain ⟨hbegins, before, behind, hsplit, hbefore⟩ := List.find?_eq_some_iff_append.mp hfind
    rw [longestMatch?_eq_some_iff]
    refine ⟨?_, List.isPrefixOf_iff_prefix.mp hbegins, ?_⟩
    · rw [← mem_spellings_iff_mem_keys, hsplit]
      simp
    · intro key hkey hmatch
      rw [← mem_spellings_iff_mem_keys, hsplit] at hkey
      rw [hsplit, List.pairwise_append, List.pairwise_cons] at hsorted
      -- A match does not stand before the first one, and what stands behind it is no longer.
      rcases List.mem_append.mp hkey with hkey | hkey
      · have hno := hbefore key hkey
        rw [List.isPrefixOf_iff_prefix.mpr hmatch] at hno
        cases hno
      · rcases List.mem_cons.mp hkey with rfl | hkey
        · exact Nat.le_refl _
        · exact (hsorted.2.1.1 key hkey).length_le

/-! ## Positions -/

/-- The number of characters before a position: a negative position counts from the end, but not
beyond the beginning. -/
def start (text : String) (position : Int) : Int :=
  if position < 0 then max 0 (position + text.length) else position

theorem start_nonneg (text : String) (position : Int) : 0 ≤ start text position := by
  unfold start
  split <;> omega

/-- A text has a key at a position: as many characters stand before it as the position says.
Beyond the end of the text it has none. -/
def HasAt (text : String) (position : Int) (key : String) : Prop :=
  ∃ before behind, text.toList = before ++ key.toList ++ behind ∧
    (before.length : Int) = start text position

/-- The longest of some keys that a text has at a position. -/
structure IsLongestAt (keys : List String) (text : String) (position : Int) (found : String) :
    Prop where
  mem : found ∈ keys
  hasAt : HasAt text position found
  longest : ∀ key ∈ keys, HasAt text position key → ¬ found.length < key.length

theorem isLongestAt_congr {keys keys' : List String} (hkeys : ∀ key, key ∈ keys ↔ key ∈ keys')
    {text found : String} {position : Int} :
    IsLongestAt keys text position found ↔ IsLongestAt keys' text position found := by
  constructor
  · exact fun h => ⟨(hkeys _).mp h.mem, h.hasAt, fun key hkey => h.longest key ((hkeys _).mpr hkey)⟩
  · exact fun h => ⟨(hkeys _).mpr h.mem, h.hasAt, fun key hkey => h.longest key ((hkeys _).mp hkey)⟩

theorem hasAt_iff {text key : String} {position : Int} :
    HasAt text position key ↔ start text position ≤ text.length ∧
      key.toList <+: text.toList.drop (start text position).toNat := by
  constructor
  · rintro ⟨before, behind, htext, hstart⟩
    rw [← hstart, Int.toNat_natCast, ← String.length_toList, htext]
    simp only [List.append_assoc, List.length_append, List.drop_left, List.prefix_append, and_true]
    omega
  · rintro ⟨hle, behind, hbehind⟩
    refine ⟨text.toList.take (start text position).toNat, behind, ?_, ?_⟩
    · rw [List.append_assoc, hbehind, List.take_append_drop]
    · have hnonneg := start_nonneg text position
      rw [List.length_take, String.length_toList]
      omega

instance {text key : String} {position : Int} : Decidable (HasAt text position key) :=
  decidable_of_iff _ hasAt_iff.symm

theorem matchAt?_eq (r : Registry K) (text : String) (position : Int) :
    r.matchAt? text position = if start text position ≤ text.length
      then r.longestMatch? (text.toList.drop (start text position).toNat) else none := by
  simp only [matchAt?, String.length_toList]
  change (if (text.length : Int) < start text position then none
    else r.longestMatch? (text.toList.drop (start text position).toNat)) = _
  by_cases hle : start text position ≤ text.length
  · rw [if_neg (Int.not_lt.mpr hle), if_pos hle]
  · rw [if_pos (Int.not_le.mp hle), if_neg hle]

theorem matchAt?_eq_some_iff {r : Registry K} {text key : String} {position : Int} :
    r.matchAt? text position = some key ↔ IsLongestAt r.keys text position key := by
  rw [matchAt?_eq]
  constructor
  · intro h
    split at h
    · rename_i hle
      have hlongest := longestMatch?_eq_some_iff.mp h
      refine ⟨hlongest.mem, hasAt_iff.mpr ⟨hle, hlongest.isPrefix⟩, ?_⟩
      intro other hother hhas
      exact Nat.not_lt.mpr (hlongest.longest other hother (hasAt_iff.mp hhas).2)
    · cases h
  · intro h
    obtain ⟨hle, hbegins⟩ := hasAt_iff.mp h.hasAt
    rw [if_pos hle, longestMatch?_eq_some_iff]
    refine ⟨h.mem, hbegins, ?_⟩
    intro other hother hmatch
    exact Nat.not_lt.mp (h.longest other hother (hasAt_iff.mpr ⟨hle, hmatch⟩))

theorem matchAt?_eq_none_iff {r : Registry K} {text : String} {position : Int} :
    r.matchAt? text position = none ↔ ∀ key ∈ r.keys, ¬ HasAt text position key := by
  have hbest := isBest_longestMatch? r (text.toList.drop (start text position).toNat)
  simp only [matchAt?_eq, hasAt_iff]
  split
  · rename_i hle
    cases hmatch : r.longestMatch? (text.toList.drop (start text position).toNat) with
    | none =>
      rw [hmatch] at hbest
      simpa [hle, IsBest] using hbest
    | some found =>
      have hlongest := longestMatch?_eq_some_iff.mp hmatch
      simpa [hle] using ⟨found, hlongest.mem, hlongest.isPrefix⟩
  · rename_i hbeyond
    simp [hbeyond]

/-- What is found at a position is the first match in the canonical order. -/
theorem matchAt?_eq_find? {r : Registry K} (hnodup : r.keys.Nodup) (text : String)
    (position : Int) :
    r.matchAt? text position = r.spellings.find? fun key => HasAt text position key := by
  rw [matchAt?_eq]
  split
  · rename_i hle
    rw [longestMatch?_eq_find? hnodup]
    congr 1
    funext key
    rw [Bool.eq_iff_iff, decide_eq_true_iff, hasAt_iff, List.isPrefixOf_iff_prefix]
    exact (and_iff_right hle).symm
  · rename_i hbeyond
    symm
    simp [List.find?_eq_none, hasAt_iff, hbeyond]

/-- Registries with the same set of spellings list them alike and find the same at every
position. -/
theorem sameMatches_of_mem_iff {r r' : Registry K} (hnodup : r.keys.Nodup)
    (hnodup' : r'.keys.Nodup) (hkeys : ∀ key, key ∈ r.spellings ↔ key ∈ r'.spellings) :
    r.spellings = r'.spellings ∧
      ∀ text position, r.matchAt? text position = r'.matchAt? text position := by
  simp only [mem_spellings_iff_mem_keys] at hkeys
  refine ⟨spellings_eq_of_perm ((List.perm_ext_iff_of_nodup hnodup hnodup').mpr hkeys), ?_⟩
  intro text position
  rw [matchAt?_eq, matchAt?_eq, longestMatch?_congr hkeys]

/-! ## Registries of doubles -/

/-- The spellings of a constructed registry are the normal forms of the spellings of its records,
each once and in the canonical order. What is found at a position is the longest of them that the
text has there, which is the first in that order, or nothing if there is none. A registry with the
same spellings, as one of the same records in another order, lists them alike and finds the same. -/
theorem matchAt_exact (records : List (UnitRecord Float)) (r : Registry Float)
    (hr : ofRecords records = .ok r) :
    r.spellings.Nodup ∧ r.spellings.Pairwise ComesBefore ∧
    (∀ key, key ∈ r.spellings ↔
      ∃ record ∈ records, ∃ s, record.IsSpelling s ∧ normalSpelling s = key) ∧
    (∀ text position,
      (∀ key, r.matchAt? text position = some key ↔
        IsLongestAt r.spellings text position key) ∧
      (r.matchAt? text position = none ↔ ∀ key ∈ r.spellings, ¬ HasAt text position key) ∧
      r.matchAt? text position = r.spellings.find? fun key => HasAt text position key) ∧
    (∀ (others : List (UnitRecord Float)) r', ofRecords others = .ok r' →
      (∀ key, key ∈ r.spellings ↔ key ∈ r'.spellings) → r.spellings = r'.spellings ∧
        ∀ text position, r.matchAt? text position = r'.matchAt? text position) ∧
    ∀ permuted, records.Perm permuted → ∃ r', ofRecords permuted = .ok r' ∧
      r.spellings = r'.spellings ∧
        ∀ text position, r.matchAt? text position = r'.matchAt? text position := by
  have hself := unitsEqualThemselves_float
  have hbuilt := built_of_ofRecords hself hr
  refine ⟨nodup_spellings hbuilt.nodup, pairwise_comesBefore hbuilt.nodup, ?_, ?_, ?_, ?_⟩
  · intro key
    rw [hbuilt.answers.spellings, normalForms]
    simp [UnitRecord.mem_spellings_iff]
  · intro text position
    have hkeys (key : String) : key ∈ r.keys ↔ key ∈ r.spellings :=
      mem_spellings_iff_mem_keys.symm
    refine ⟨fun key => ?_, ?_, matchAt?_eq_find? hbuilt.nodup text position⟩
    · rw [matchAt?_eq_some_iff, isLongestAt_congr hkeys]
    · simp only [matchAt?_eq_none_iff, hkeys]
  · intro others r' hr' hkeys
    exact sameMatches_of_mem_iff hbuilt.nodup (built_of_ofRecords hself hr').nodup hkeys
  · intro permuted hperm
    obtain ⟨r', hr'⟩ := (ofRecords_ok_iff hself).mpr (hbuilt.compatible.perm hperm)
    have hsame := hbuilt.sameAnswers (built_of_ofRecords hself hr') hperm
    exact ⟨r', hr', hsame.spellings, hsame.matchAt⟩

theorem matchAt_miles : ∃ r r', ofRecords meterAndMile = .ok r ∧
    ofRecords meterAndMile.reverse = .ok r' ∧ IsLongestAt r.spellings "3 miles" (-5) "miles" ∧
    r'.matchAt? "3 miles" (-5) = some "miles" := by
  have hfound : (ofRecords meterAndMile).toOption.bind (·.matchAt? "3 miles" (-5)) =
      some "miles" := by decide +kernel
  cases hr : ofRecords meterAndMile with
  | error f =>
    rw [hr] at hfound
    cases hfound
  | ok r =>
    rw [hr] at hfound
    obtain ⟨_, _, _, hmatch, _, hpermuted⟩ := matchAt_exact meterAndMile r hr
    obtain ⟨r', hr', _, hsame⟩ := hpermuted _ (List.reverse_perm _).symm
    exact ⟨r, r', rfl, hr', ((hmatch _ _).1 _).mp hfound, (hsame _ _).symm.trans hfound⟩

end UnitCalc.Registry
