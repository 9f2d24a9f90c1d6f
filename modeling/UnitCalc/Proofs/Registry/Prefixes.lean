import UnitCalc.Proofs.Number.Nearest
import UnitCalc.Proofs.Registry.NormalSpelling

/-!
# Units with prefixes

A record that takes prefixes comes with twenty more units, and a registry of the expanded records
answers to the spellings of all of them. One spelling is not generated: micro has two short forms,
and its Greek one is put in front of the symbol of a unit only, not in front of the abbreviation.
Where the two differ, the text is not a spelling of the unit.
-/

namespace UnitCalc

open Text

/-! ## The first character of a spelling -/

namespace Text

variable {c d : Char} {cs ds : List Char}

/-- Trimming keeps a first character that is not blank. -/
theorem head?_trim (h : isBlank c = false) (cs : List Char) :
    (trim (c :: cs)).head? = some c := by
  have hhead : trimLeft (c :: cs) = c :: cs := trimLeft_eq_self fun d hd => by
    rw [← Option.some.inj hd, h]
  have hkeep : [c].dropWhile isBlank = [c] := by
    rw [List.dropWhile_cons_of_neg (by simp [h])]
  rw [trim, hhead, trimRight, trimLeft, List.reverse_cons, List.dropWhile_append, hkeep]
  split <;> simp

/-- Characters that stay in front of whatever follows them: no blanks, not decomposed, no marks. -/
def Leads (c : Char) : Prop :=
  isBlank c = false ∧ decomposeOnce? c.toNat = none ∧ combiningClass c.toNat = 0

instance : Decidable (Leads c) :=
  inferInstanceAs (Decidable (isBlank c = false ∧ decomposeOnce? c.toNat = none ∧
    combiningClass c.toNat = 0))

theorem Leads.head?_decomposition (h : Leads c) :
    (decomposition (trim (c :: cs))).head? = some c.toNat := by
  obtain ⟨hblank, hsettled, hclass⟩ := h
  obtain ⟨rest, hrest⟩ := List.head?_eq_some_iff.mp (head?_trim hblank cs)
  rw [hrest, decomposition, head?_orderMarks hclass, List.flatMap_cons,
    decomposed_of_settled hsettled]
  rfl

end Text

/-- Spellings that begin with different leading characters have different normal forms. -/
theorem normalSpelling_ne {c d : Char} {s t : String} (hc : Leads c) (hd : Leads d)
    (hne : foldCode c.toNat ≠ foldCode d.toNat) (hs : s.toList.head? = some c)
    (ht : t.toList.head? = some d) : normalSpelling s ≠ normalSpelling t := by
  intro h
  obtain ⟨cs, hcs⟩ := List.head?_eq_some_iff.mp hs
  obtain ⟨ds, hds⟩ := List.head?_eq_some_iff.mp ht
  have hheads := congrArg List.head? (decomposition_of_normalSpelling h)
  rw [List.head?_map, List.head?_map, hcs, hds, hc.head?_decomposition, hd.head?_decomposition]
    at hheads
  exact hne (Option.some.inj hheads)

/-! ## Spellings with a prefix -/

/-- The prefix with a Greek symbol. -/
def MetricPrefix.micro : MetricPrefix := ⟨"micro", "u", "μ", -6⟩

namespace UnitRecord

variable {K : Type} [Scalar K] {record : UnitRecord K} {p : MetricPrefix} {s : String}

/-- What a unit with a prefix is expected to be called: the long prefix goes with the name and the
word aliases that are longer than the abbreviation, and the short ones go with the short forms. -/
inductive PrefixedSpelling (record : UnitRecord K) (p : MetricPrefix) : String → Prop where
  | name : PrefixedSpelling record p (p.name ++ record.name)
  | word {a : String} (hmem : a ∈ record.aliases) (hword : isWord a = true)
      (hlonger : record.short.length < a.length) : PrefixedSpelling record p (p.name ++ a)
  | short {x y : String} (hx : x = p.short ∨ x = p.symbol)
      (hy : y = record.short ∨ y = record.symbol) : PrefixedSpelling record p (x ++ y)

/-- The spelling that is missing: the symbol of a prefix, if it is not its abbreviation, in front
of an abbreviation that is not read like the symbol. -/
def IsMissing (record : UnitRecord K) (p : MetricPrefix) (s : String) : Prop :=
  p.symbol ≠ p.short ∧ s = p.symbol ++ record.short ∧
    normalSpelling s ≠ normalSpelling (p.symbol ++ record.symbol)

/-- How a spelling of a prefixed record begins. -/
theorem IsSpelling.beginning (h : (record.prefixed p).IsSpelling s) :
    (∃ t, s = p.name ++ t) ∨ (∃ t, s = p.short ++ t) ∨ s = p.symbol ++ record.symbol := by
  rcases h with hname | hshort | hsymbol | halias
  · exact .inl ⟨_, hname⟩
  · exact .inr (.inl ⟨_, hshort⟩)
  · exact .inr (.inr hsymbol)
  · rcases List.mem_append.mp halias with hword | hextra
    · obtain ⟨a, _, rfl⟩ := List.mem_map.mp hword
      exact .inl ⟨a, rfl⟩
    · split at hextra
      · cases hextra
      · exact .inr (.inl ⟨_, List.mem_singleton.mp hextra⟩)

/-- A prefixed record has all spellings that are expected of it, but for one. -/
theorem PrefixedSpelling.spells (h : record.PrefixedSpelling p s)
    (hmissing : ¬ record.IsMissing p s) : (record.prefixed p).Spells s := by
  cases h with
  | name => exact ⟨_, .inl rfl, rfl⟩
  | word hmem hword hlonger =>
    refine ⟨_, .inr (.inr (.inr (List.mem_append_left _ ?_))), rfl⟩
    exact List.mem_map_of_mem (List.mem_filter.mpr ⟨hmem, by simp [hword, hlonger]⟩)
  | @short x y hx hy =>
    by_cases hsame : p.symbol = p.short
    · obtain rfl : x = p.short := hx.elim id fun hx => hx.trans hsame
      rcases hy with rfl | rfl
      · exact ⟨_, .inr (.inl rfl), rfl⟩
      · exact ⟨_, .inr (.inr (.inl (hsame ▸ rfl))), rfl⟩
    · rcases hx with rfl | rfl <;> rcases hy with rfl | rfl
      · exact ⟨_, .inr (.inl rfl), rfl⟩
      · refine ⟨_, .inr (.inr (.inr (List.mem_append_right _ ?_))), rfl⟩
        rw [if_neg hsame]
        exact List.mem_singleton_self _
      · refine ⟨_, .inr (.inr (.inl rfl)), ?_⟩
        by_contra hdiffers
        exact hmissing ⟨hsame, rfl, hdiffers⟩
      · exact ⟨_, .inr (.inr (.inl rfl)), rfl⟩

/-- Only micro has two short forms. -/
theorem micro_of_symbol_ne (hp : p ∈ MetricPrefix.all) (h : p.symbol ≠ p.short) : p = .micro := by
  have hall : MetricPrefix.all.all
      (fun p => p.symbol == p.short || p == MetricPrefix.micro) = true := by
    decide
  have hone := List.all_eq_true.mp hall p hp
  simpa [h] using hone

/-- The missing spelling is not read like any that there is, for it begins with another letter. -/
theorem not_spells_of_isMissing (hp : p ∈ MetricPrefix.all) (h : record.IsMissing p s) :
    ¬ (record.prefixed p).Spells s := by
  obtain ⟨hsymbol, rfl, hdiffers⟩ := h
  obtain rfl := micro_of_symbol_ne hp hsymbol
  rintro ⟨t, ht, hsame⟩
  have hmu : ("μ" ++ record.short).toList.head? = some 'μ' := by
    rw [String.toList_append]
    rfl
  rcases ht.beginning with ⟨rest, rfl⟩ | ⟨rest, rfl⟩ | rfl
  · refine normalSpelling_ne (c := 'μ') (d := 'm') (by decide +kernel) (by decide +kernel)
      (by decide) hmu ?_ hsame
    rw [String.toList_append]
    rfl
  · refine normalSpelling_ne (c := 'μ') (d := 'u') (by decide +kernel) (by decide +kernel)
      (by decide) hmu ?_ hsame
    rw [String.toList_append]
    rfl
  · exact hdiffers hsame

/-! ## Expanded records -/

theorem mem_expandAll_self {records : List (UnitRecord K)} (h : record ∈ records) :
    record ∈ expandAll records := by
  refine List.mem_flatMap.mpr ⟨record, h, ?_⟩
  unfold expand
  split
  · exact List.mem_cons_self
  · exact List.mem_singleton_self _

theorem mem_expandAll_prefixed {records : List (UnitRecord K)} (h : record ∈ records)
    (hprefixable : record.prefixable = true) (hp : p ∈ MetricPrefix.all) :
    record.prefixed p ∈ expandAll records := by
  refine List.mem_flatMap.mpr ⟨record, h, ?_⟩
  rw [expand, if_pos hprefixable]
  exact List.mem_cons_of_mem _ (List.mem_map_of_mem hp)

/-- The names of the units that a record stands for. -/
def expandedNames (record : UnitRecord K) : List String :=
  record.name :: if record.prefixable then MetricPrefix.all.map (·.name ++ record.name) else []

theorem map_name_expandAll (records : List (UnitRecord K)) :
    (expandAll records).map (·.name) = records.flatMap expandedNames := by
  rw [expandAll, List.map_flatMap]
  refine List.flatMap_congr fun record _ => ?_
  unfold expand expandedNames
  split
  · rw [List.map_cons, List.map_map]
    rfl
  · rfl

end UnitRecord

/-- The factor of a metric prefix is the double that is nearest to its power of ten. -/
theorem MetricPrefix.isNearest_power {p : MetricPrefix} (hp : p ∈ all) :
    Number.IsNearest (Scalar.ofDecimal 1 p.power) (10 ^ p.power) := by
  have hall : all.all (fun p => (Number.Binary.ofFloat? (Scalar.ofDecimal 1 p.power)).any
      fun b => decide (b.IsWithinHalf (10 ^ p.power))) = true := by
    decide +kernel
  have hone := List.all_eq_true.mp hall p hp
  obtain ⟨b, hb, hhalf⟩ := (Option.any_eq_true _ _).mp hone
  exact Number.isNearest_of_isWithinHalf hb (of_decide_eq_true hhalf)

namespace Registry

open UnitCalc.UnitRecord

/-- In a registry of expanded records, every record keeps its spellings. A record that takes
prefixes has one more unit for each prefix, of its family and with its factor scaled, and an
expected spelling finds this unit unless it is the missing one. There are no other units. -/
theorem expanded_exact {records : List (UnitRecord Float)} {r : Registry Float}
    (hr : ofRecords (expandAll records) = .ok r) :
    (∀ record ∈ records, ∀ s, record.IsSpelling s → r.get s = .ok record.unit) ∧
    (∀ record ∈ records, record.prefixable = true → ∀ p ∈ MetricPrefix.all, ∃ u : Unit Float,
      u.family = record.family.name ∧ u.dim = record.family.dim ∧
      (∃ x, Number.IsNearest x (10 ^ p.power) ∧ u.factor = Scalar.mul record.factor x) ∧
      ∀ s, record.PrefixedSpelling p s → (r.get s = .ok u ↔ ¬ record.IsMissing p s)) ∧
    r.units.map (·.1) = records.flatMap expandedNames := by
  have hanswers := (built_of_ofRecords unitsEqualThemselves_float hr).answers
  refine ⟨fun record hmem s hs => ?_, fun record hmem hprefixable p hp => ?_, ?_⟩
  · exact (hanswers.get_ok record (mem_expandAll_self hmem) s).mpr ⟨s, hs, rfl⟩
  · refine ⟨(record.prefixed p).unit, rfl, rfl, ⟨_, MetricPrefix.isNearest_power hp, rfl⟩, ?_⟩
    intro s hs
    rw [hanswers.get_ok _ (mem_expandAll_prefixed hmem hprefixable hp)]
    exact ⟨fun hspells hmissing => not_spells_of_isMissing hp hmissing hspells, hs.spells⟩
  · rw [hanswers.units, List.map_map, ← map_name_expandAll]
    rfl

/-- An hour that takes prefixes: its abbreviation is not its symbol. -/
def prefixableHour : UnitRecord Float := ⟨.time, "hour", "hr", "h", 3600, true, ["hours"]⟩

/-- It makes a registry, which does not know the Greek symbol with the abbreviation. -/
theorem exists_of_prefixableHour : ∃ r, ofRecords (expandAll [prefixableHour]) = .ok r ∧
    r.has "μhr" = false := by
  have hrun : (match ofRecords (expandAll [prefixableHour]) with
      | .ok r => !r.has "μhr"
      | .error _ => false) = true := by
    decide +kernel
  cases hr : ofRecords (expandAll [prefixableHour]) with
  | error f =>
    rw [hr] at hrun
    cases hrun
  | ok r =>
    rw [hr] at hrun
    exact ⟨r, rfl, by simpa using hrun⟩

/-- All spellings find a thousand hours, and all but one find a millionth of an hour. -/
theorem expanded_prefixableHour : ∃ r, ofRecords (expandAll [prefixableHour]) = .ok r ∧
    r.get "hours" = .ok prefixableHour.unit ∧
    (∃ u, r.get "kilohours" = .ok u ∧ r.get "khr" = .ok u ∧ r.get "kh" = .ok u) ∧
    ∃ u, r.get "microhour" = .ok u ∧ r.get "μh" = .ok u ∧ r.get "μhr" ≠ .ok u := by
  have hdiffers : normalSpelling "μhr" ≠ normalSpelling "μh" := by
    decide +kernel
  obtain ⟨r, hr, _⟩ := exists_of_prefixableHour
  obtain ⟨hown, hprefixed, _⟩ := expanded_exact hr
  have hmem := List.mem_singleton_self prefixableHour
  have hshort {p : MetricPrefix} {x y : String} (hx : x = p.short ∨ x = p.symbol)
      (hy : y = "hr" ∨ y = "h") : prefixableHour.PrefixedSpelling p (x ++ y) := .short hx hy
  obtain ⟨kilo, _, _, _, hkilo⟩ := hprefixed _ hmem rfl ⟨"kilo", "k", "k", 3⟩ (by decide)
  obtain ⟨millionth, _, _, _, hmicro⟩ := hprefixed _ hmem rfl .micro (by decide)
  have hsame {s : String} : ¬ prefixableHour.IsMissing ⟨"kilo", "k", "k", 3⟩ s :=
    fun h => h.1 rfl
  refine ⟨r, hr, hown _ hmem _ (.inr (.inr (.inr (by decide)))), ⟨kilo, ?_, ?_, ?_⟩,
    millionth, ?_, ?_, ?_⟩
  · exact (hkilo _ (.word (a := "hours") (by decide) (by decide +kernel) (by decide))).mpr hsame
  · exact (hkilo _ (hshort (x := "k") (y := "hr") (.inl rfl) (.inl rfl))).mpr hsame
  · exact (hkilo _ (hshort (x := "k") (y := "h") (.inl rfl) (.inr rfl))).mpr hsame
  · exact (hmicro _ .name).mpr fun h => absurd h.2.1 (by decide)
  · exact (hmicro _ (hshort (x := "μ") (y := "h") (.inr rfl) (.inr rfl))).mpr
      fun h => absurd h.2.1 (by decide)
  · intro hfound
    exact (hmicro _ (hshort (x := "μ") (y := "hr") (.inr rfl) (.inl rfl))).mp hfound
      ⟨by decide, rfl, hdiffers⟩

/-- No unit has all the spellings that are expected of a millionth of an hour: one of them is
unknown. -/
theorem unknown_microHour : ∃ r, ofRecords (expandAll [prefixableHour]) = .ok r ∧
    prefixableHour.prefixable = true ∧ MetricPrefix.micro ∈ MetricPrefix.all ∧
    prefixableHour.PrefixedSpelling .micro "μhr" ∧
    r.get "μhr" = .error (.unknownUnit "μhr") ∧
    ¬ ∃ u, ∀ s, prefixableHour.PrefixedSpelling .micro s → r.get s = .ok u := by
  obtain ⟨r, hr, hhas⟩ := exists_of_prefixableHour
  have hspelling : prefixableHour.PrefixedSpelling .micro "μhr" :=
    .short (x := "μ") (y := "hr") (.inr rfl) (.inl rfl)
  have hunknown : r.get "μhr" = .error (.unknownUnit "μhr") :=
    get_eq_error_iff.mpr ⟨by simpa [has] using hhas, rfl⟩
  refine ⟨r, hr, rfl, by decide, hspelling, hunknown, ?_⟩
  rintro ⟨u, hall⟩
  have hfound := hall _ hspelling
  rw [hunknown] at hfound
  cases hfound

end Registry

end UnitCalc
