import UnitCalc.Registry

/-!
# The longest match and the order of spellings

The longest spelling that a text begins with is found by one pass over the bindings, whatever
their order is: `IsLongest` says what is looked for without a pass, and there is at most one
such spelling. The list of all spellings is sorted by a total order, so it does not depend on
the order of registration either.
-/

namespace UnitCalc.Registry

variable {K : Type}

/-- The spellings that a registry binds, in the order of registration. -/
def keys (r : Registry K) : List String := r.bindings.map (·.1)

/-! ## The longest match -/

section Match

variable {keys keys' : List String} {cs : List Char} {key found : String}

/-- The longest of some keys that a text begins with. -/
structure IsLongest (keys : List String) (cs : List Char) (found : String) : Prop where
  mem : found ∈ keys
  isPrefix : found.toList <+: cs
  longest : ∀ key ∈ keys, key.toList <+: cs → key.length ≤ found.length

/-- Two keys that a text begins with are equal if they are equally long. -/
theorem IsLongest.unique (h : IsLongest keys cs found) (h' : IsLongest keys cs key) :
    found = key := by
  have hlength : found.toList.length = key.toList.length := by
    rw [String.length_toList, String.length_toList]
    exact Nat.le_antisymm (h'.longest _ h.mem h.isPrefix) (h.longest _ h'.mem h'.isPrefix)
  have hbegins := List.prefix_of_prefix_length_le h.isPrefix h'.isPrefix (Nat.le_of_eq hlength)
  exact String.toList_inj.mp (hbegins.eq_of_length hlength)

theorem IsLongest.congr (h : IsLongest keys cs found) (hkeys : ∀ key, key ∈ keys ↔ key ∈ keys') :
    IsLongest keys' cs found where
  mem := (hkeys found).mp h.mem
  isPrefix := h.isPrefix
  longest key hkey := h.longest key ((hkeys key).mpr hkey)

/-- The best match among the keys that have been compared. -/
def IsBest (keys : List String) (cs : List Char) : Option String → Prop
  | some found => IsLongest keys cs found
  | none => ∀ key ∈ keys, ¬ key.toList <+: cs

/-- One more key keeps the best match, or becomes it. -/
theorem isBest_longerMatch {best : Option String} (h : IsBest keys cs best) (key : String) :
    IsBest (keys ++ [key]) cs (longerMatch cs best key) := by
  unfold longerMatch
  by_cases hprefix : key.toList <+: cs
  · rw [if_pos (List.isPrefixOf_iff_prefix.mpr hprefix)]
    cases best with
    | none =>
      refine ⟨by simp, hprefix, List.forall_mem_append.mpr ⟨?_, by simp⟩⟩
      intro other hother hpre
      exact absurd hpre (h other hother)
    | some found =>
      have hlongest : IsLongest keys cs found := h
      show IsBest _ _ (if found.length < key.length then some key else some found)
      split
      · rename_i hlt
        refine ⟨by simp, hprefix, List.forall_mem_append.mpr ⟨?_, by simp⟩⟩
        intro other hother hpre
        exact Nat.le_of_lt (Nat.lt_of_le_of_lt (hlongest.longest other hother hpre) hlt)
      · rename_i hle
        refine ⟨by simp [hlongest.mem], hlongest.isPrefix,
          List.forall_mem_append.mpr ⟨hlongest.longest, ?_⟩⟩
        simpa using fun _ => Nat.le_of_not_lt hle
  · rw [if_neg (fun hpre => hprefix (List.isPrefixOf_iff_prefix.mp hpre))]
    cases best with
    | none => exact List.forall_mem_append.mpr ⟨h, by simpa using hprefix⟩
    | some found =>
      have hlongest : IsLongest keys cs found := h
      refine ⟨by simp [hlongest.mem], hlongest.isPrefix,
        List.forall_mem_append.mpr ⟨hlongest.longest, ?_⟩⟩
      simpa using fun hpre => absurd hpre hprefix

/-- The whole pass over the bindings. -/
theorem isBest_foldl {bindings : List (String × Unit K)} {best : Option String}
    (h : IsBest keys cs best) :
    IsBest (keys ++ bindings.map (·.1)) cs
      (bindings.foldl (fun best binding => longerMatch cs best binding.1) best) := by
  induction bindings generalizing keys best with
  | nil => simpa using h
  | cons binding bindings ih => simpa using ih (isBest_longerMatch h binding.1)

theorem isBest_longestMatch? (r : Registry K) (cs : List Char) :
    IsBest r.keys cs (r.longestMatch? cs) := by
  have hnone : IsBest [] cs none := by
    intro key hkey
    cases hkey
  exact isBest_foldl hnone

theorem longestMatch?_eq_some_iff {r : Registry K} :
    r.longestMatch? cs = some found ↔ IsLongest r.keys cs found := by
  have hbest := isBest_longestMatch? r cs
  constructor
  · intro h
    rwa [h] at hbest
  · intro h
    cases hmatch : r.longestMatch? cs with
    | none =>
      rw [hmatch] at hbest
      exact absurd h.isPrefix (hbest found h.mem)
    | some other =>
      rw [hmatch] at hbest
      rw [IsLongest.unique h hbest]

/-- The match depends on the set of spellings only. -/
theorem longestMatch?_congr {r r' : Registry K} (h : ∀ key, key ∈ r.keys ↔ key ∈ r'.keys)
    (cs : List Char) : r.longestMatch? cs = r'.longestMatch? cs := by
  ext found
  rw [longestMatch?_eq_some_iff, longestMatch?_eq_some_iff]
  exact ⟨fun hfound => hfound.congr h, fun hfound => hfound.congr fun key => (h key).symm⟩

end Match

/-! ## The order of spellings -/

section Order

variable {s t u : String}

theorem spellingBefore_iff :
    spellingBefore s t = true ↔ t.length < s.length ∨ s.length = t.length ∧ s ≤ t := by
  simp [spellingBefore]

theorem spellingBefore_trans (h : spellingBefore s t = true) (h' : spellingBefore t u = true) :
    spellingBefore s u = true := by
  rw [spellingBefore_iff] at *
  rcases h with h | ⟨h, hle⟩ <;> rcases h' with h' | ⟨h', hle'⟩
  · exact .inl (Nat.lt_trans h' h)
  · exact .inl (h' ▸ h)
  · exact .inl (h ▸ h')
  · exact .inr ⟨h.trans h', String.le_trans hle hle'⟩

theorem spellingBefore_total (s t : String) :
    (spellingBefore s t || spellingBefore t s) = true := by
  rw [Bool.or_eq_true, spellingBefore_iff, spellingBefore_iff]
  rcases Nat.lt_trichotomy s.length t.length with h | h | h
  · exact .inr (.inl h)
  · rcases String.le_total s t with hle | hle
    · exact .inl (.inr ⟨h, hle⟩)
    · exact .inr (.inr ⟨h.symm, hle⟩)
  · exact .inl (.inl h)

theorem spellingBefore_antisymm (h : spellingBefore s t = true)
    (h' : spellingBefore t s = true) : s = t := by
  rw [spellingBefore_iff] at *
  rcases h with h | ⟨_, hle⟩
  · rcases h' with h' | ⟨h', _⟩ <;> omega
  · rcases h' with h' | ⟨_, hle'⟩
    · omega
    · exact String.le_antisymm hle hle'

theorem pairwise_spellings (r : Registry K) :
    r.spellings.Pairwise fun s t => spellingBefore s t = true :=
  @List.pairwise_mergeSort _ spellingBefore (fun _ _ _ => spellingBefore_trans)
    spellingBefore_total r.keys

/-- The sorted list depends on the bound spellings only, not on their order. -/
theorem spellings_eq_of_perm {r r' : Registry K} (h : r.keys.Perm r'.keys) :
    r.spellings = r'.spellings := by
  refine List.Perm.eq_of_pairwise ?_ (pairwise_spellings r) (pairwise_spellings r') ?_
  · intro s t _ _ hst hts
    exact spellingBefore_antisymm hst hts
  · exact ((List.mergeSort_perm _ _).trans h).trans (List.mergeSort_perm _ _).symm

end Order

end UnitCalc.Registry
