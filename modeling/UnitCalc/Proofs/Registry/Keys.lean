import UnitCalc.Proofs.Registry.Matching
import UnitCalc.Proofs.Registry.NormalSpelling

/-!
# Keys and their normal forms

A spelling is its own normal form exactly if there is nothing to do: no blanks at its ends, nothing
to compose, and no micro sign. Normalizing once leaves nothing to do. So what a registry holds can be
looked up as it is held, and a text gets the answers that its normal form gets.
-/

namespace UnitCalc

open Text

/-! ## Spellings in normal form -/

/-- A spelling with nothing left to normalize. -/
structure IsNormalSpelling (s : String) : Prop where
  trimmed : Trimmed s.toList
  composed : normalForm s.toList = s.toList
  folded : '\u00B5' ∉ s.toList

section Spellings

variable {s : String}

theorem foldMicro_ne (c : Char) : foldMicro c ≠ '\u00B5' := by
  unfold foldMicro
  by_cases h : c = '\u00B5'
  · rw [if_pos h]
    decide
  · rwa [if_neg h]

theorem isNormalSpelling_normalSpelling (s : String) : IsNormalSpelling (normalSpelling s) where
  trimmed := trimmed_normalSpelling s
  composed := by
    rw [normalSpelling, String.toList_ofList, normalForm_map_foldMicro, normalForm_normalForm]
  folded := by
    rw [normalSpelling, String.toList_ofList, List.mem_map]
    rintro ⟨c, _, hc⟩
    exact foldMicro_ne c hc

theorem map_foldMicro_of_notMem {cs : List Char} (h : '\u00B5' ∉ cs) : cs.map foldMicro = cs := by
  refine (List.map_congr_left fun c hc => ?_).trans (List.map_id' cs)
  exact if_neg fun hmicro => h (by rwa [hmicro] at hc)

theorem IsNormalSpelling.normalSpelling_eq (h : IsNormalSpelling s) : normalSpelling s = s := by
  rw [normalSpelling, h.trimmed.trim_eq, h.composed, map_foldMicro_of_notMem h.folded,
    String.ofList_toList]

/-- Normalizing leaves alone exactly the spellings with nothing left to normalize. -/
theorem normalSpelling_eq_self_iff : normalSpelling s = s ↔ IsNormalSpelling s := by
  refine ⟨fun h => ?_, IsNormalSpelling.normalSpelling_eq⟩
  rw [← h]
  exact isNormalSpelling_normalSpelling s

end Spellings

/-! ## Answers -/

namespace Registry

section Answers

variable {K : Type} {r : Registry K} {text : String}

theorem find?_normalSpelling (r : Registry K) (text : String) :
    r.find? (normalSpelling text) = r.find? text := by
  rw [find?, normalSpelling_normalSpelling, find?]

variable [Scalar K] {records : List (UnitRecord K)} {known : Option (Unit K)}

/-- What a text is known as, whichever way it is asked for: as a unit, or as none. The fault that
there is none names the text. -/
def KnownAs (r : Registry K) (text : String) : Option (Unit K) → Prop
  | some u => r.get text = .ok u ∧ r.has text = true ∧ r.quantity? text = some u.quantity
  | none => r.get text = .error (.unknownUnit text) ∧ r.has text = false ∧ r.quantity? text = none

theorem knownAs_iff : r.KnownAs text known ↔ r.find? text = known := by
  constructor
  · intro h
    cases known with
    | some u => exact get_eq_ok_iff.mp h.1
    | none => exact (get_eq_error_iff.mp h.1).1
  · rintro rfl
    unfold KnownAs get has quantity?
    cases r.find? text with
    | some u => exact ⟨rfl, rfl, rfl⟩
    | none => exact ⟨rfl, rfl, rfl⟩

/-- A key is bound to one unit, and known as this unit. -/
theorem Built.knownAs_key (h : Built records r) {key : String} (hkey : key ∈ r.keys) :
    ∃ u, (∀ v, (key, v) ∈ r.bindings ↔ v = u) ∧ r.KnownAs key (some u) := by
  obtain ⟨u, hu⟩ := h.exists_find?_key hkey
  refine ⟨u, fun v => ?_, knownAs_iff.mpr hu⟩
  rw [find?, h.normalSpelling_key hkey] at hu
  rw [← lookup_eq_some_iff_mem h.nodup, hu, Option.some.injEq, eq_comm]

end Answers

/-! ## Registries of doubles -/

/-- The normal form of a text is its own normal form, with nothing left to do, and exactly the texts
with nothing left to do are their own normal forms. For every constructed registry: the spellings it
lists, and what it finds in a text is one of them, are their own normal forms, and each is known as
the one unit that is bound to it. Every text is known as what its normal form is known as. -/
theorem keys_are_normal :
    (∀ s, normalSpelling (normalSpelling s) = normalSpelling s ∧
      IsNormalSpelling (normalSpelling s) ∧ (normalSpelling s = s ↔ IsNormalSpelling s)) ∧
    ∀ (records : List (UnitRecord Float)) (r : Registry Float), ofRecords records = .ok r →
      (∀ key ∈ r.spellings, normalSpelling key = key ∧
        ∃ u, (∀ v, (key, v) ∈ r.bindings ↔ v = u) ∧ r.KnownAs key (some u)) ∧
      (∀ text position key, r.matchAt? text position = some key → key ∈ r.spellings) ∧
      ∀ text, ∃ known, r.KnownAs text known ∧ r.KnownAs (normalSpelling text) known := by
  refine ⟨fun s => ⟨normalSpelling_normalSpelling s, isNormalSpelling_normalSpelling s,
    normalSpelling_eq_self_iff⟩, ?_⟩
  intro records r hr
  have hbuilt := built_of_ofRecords unitsEqualThemselves_float hr
  refine ⟨fun key hkey => ?_, fun text position key hmatch => ?_, fun text => ?_⟩
  · have hmem := mem_spellings_iff_mem_keys.mp hkey
    exact ⟨hbuilt.normalSpelling_key hmem, hbuilt.knownAs_key hmem⟩
  · exact mem_spellings_iff_mem_keys.mpr (matchAt?_eq_some_iff.mp hmatch).mem
  · exact ⟨r.find? text, knownAs_iff.mpr rfl, knownAs_iff.mpr (find?_normalSpelling r text)⟩

/-- Units whose spellings are not in normal form: with the micro sign, with the sign of the
angstrom, which is decomposed, and with a blank behind. -/
def micrometerAndAngstrom : List (UnitRecord Float) :=
  [⟨.length, "micrometer", "\u00B5m", "\u00B5m", Scalar.ofDecimal 1 (-6), false, ["micron "]⟩,
    ⟨.length, "angstrom", "\u212B", "\u212B", Scalar.ofDecimal 1 (-10), false, []⟩]

/-- Their keys are found in a text and known as units, which other spellings of the same normal form
are known as, too. -/
theorem keys_of_micrometerAndAngstrom : ∃ r u v, ofRecords micrometerAndAngstrom = .ok r ∧
    r.matchAt? "3 micron" 2 = some "micron" ∧ "\u00C5" ∈ r.spellings ∧
    r.KnownAs "micron" (some u) ∧ r.KnownAs "micron\t" (some u) ∧
    r.KnownAs "\u00C5" (some v) ∧ r.KnownAs " A\u030A" (some v) := by
  have hmicron : normalSpelling "micron\t" = "micron" := by decide +kernel
  have hring : normalSpelling " A\u030A" = "\u00C5" := by decide +kernel
  have hrun : (ofRecords micrometerAndAngstrom).toOption.any (fun r =>
      r.matchAt? "3 micron" 2 == some "micron" && "\u00C5" ∈ r.keys) = true := by
    decide +kernel
  cases hr : ofRecords micrometerAndAngstrom with
  | error f =>
    rw [hr] at hrun
    cases hrun
  | ok r =>
    rw [hr] at hrun
    simp only [Except.toOption, Option.any_some, Bool.and_eq_true, beq_iff_eq, decide_eq_true_eq,
      ← mem_spellings_iff_mem_keys] at hrun
    obtain ⟨hkeys, hmatch, hsame⟩ := keys_are_normal.2 _ r hr
    have hother {text key : String} {u : Unit Float} (htext : normalSpelling text = key)
        (hkey : r.KnownAs key (some u)) : r.KnownAs text (some u) := by
      obtain ⟨known, hknown, hnormal⟩ := hsame text
      rw [htext, knownAs_iff, knownAs_iff.mp hkey] at hnormal
      rwa [← hnormal] at hknown
    obtain ⟨_, u, _, hu⟩ := hkeys _ (hmatch _ _ _ hrun.1)
    obtain ⟨_, v, _, hv⟩ := hkeys _ hrun.2
    exact ⟨r, u, v, rfl, hrun.1, hrun.2, hu, hother hmicron hu, hv, hother hring hv⟩

end Registry

end UnitCalc
