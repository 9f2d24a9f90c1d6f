import Mathlib.Data.Finset.Card
import UnitCalc.Proofs.Evaluator.Finite
import UnitCalc.Proofs.Registry.Construction

/-!
# What a registry answers

Whatever is asked of a registry is decided by the spellings of its records: a text names a unit
exactly if it has the normal form of one of the unit's spellings. Nothing is lost or
overwritten, and the order of the records does not matter.

Building a registry compares units, and a unit has to equal itself for that to work. For doubles
this is so because the factors and the exponents of dimensions are finite.
-/

namespace UnitCalc

/-! ## Units equal themselves -/

section Self

variable {K : Type} [Scalar K]

theorem Dimension.eq_self {d : Dimension K}
    (hrefl : ∀ x : K, Scalar.isFinite x = true → Scalar.eq x x = true) (hd : d.IsFinite) :
    d.eq d = true :=
  PerAxis.all_iff.mpr fun a => by
    rw [PerAxis.get_zipWith]
    exact hrefl _ (hd a)

/-- Units equal themselves where finite numbers do. -/
theorem Registry.unitsEqualThemselves (laws : Scalar.ExponentLaws K)
    (hrefl : ∀ x : K, Scalar.isFinite x = true → Scalar.eq x x = true) :
    UnitsEqualThemselves K := by
  intro record hfactor
  have hdim : record.unit.dim.eq record.unit.dim = true :=
    Dimension.eq_self hrefl (record.family.isFinite_dim laws)
  have hclose : Scalar.isClose Unit.tolerance Scalar.zero record.factor record.factor = true := by
    simp [Scalar.isClose, hrefl _ (validFactor_iff.mp hfactor).2]
  simp [Unit.eq, hdim, hclose]

end Self

/-- A finite double equals itself. -/
theorem Number.beq_self {x : Float} (h : x.isFinite = true) : (x == x) = true := by
  have hfits := fits_of_isFinite h
  show x.toModel.unpack.beq x.toModel.unpack = true
  cases hx : x.toModel.unpack with
  | infinity | notANumber =>
    rw [hx] at hfits
    exact hfits.elim
  | zero s => cases s <;> rfl
  | finite s m e hm =>
    have hsame : (compare e e).then (compare m m) = .eq := by simp
    cases s with
    | positive =>
      show (some ((compare e e).then (compare m m)) == some .eq) = true
      rw [hsame]
      rfl
    | negative =>
      show (some ((compare e e).then (compare m m)).swap == some .eq) = true
      rw [hsame]
      rfl

namespace Registry

/-! ## Answers -/

section Answers

variable {K : Type} [Scalar K] {records : List (UnitRecord K)} {r r' : Registry K}

/-- The normal forms of all spellings of some records. -/
def normalForms (records : List (UnitRecord K)) : List String :=
  records.flatMap fun record => record.spellings.map normalSpelling

/-- What a registry of some records answers, whatever text it is asked about. -/
structure Answers (records : List (UnitRecord K)) (r : Registry K) : Prop where
  get_ok : ∀ record ∈ records, ∀ text, r.get text = .ok record.unit ↔ record.Spells text
  get_unknown : ∀ text,
    r.get text = .error (.unknownUnit text) ↔ ¬ ∃ record ∈ records, record.Spells text
  has : ∀ text, r.has text = true ↔ ∃ record ∈ records, record.Spells text
  quantity : ∀ text q, r.quantity? text = some q ↔
    ∃ record ∈ records, record.Spells text ∧ q = record.unit.quantity
  size : r.size = (normalForms records).toFinset.card
  spellings : ∀ key, key ∈ r.spellings ↔ key ∈ normalForms records
  units : r.units = records.map fun record => (record.name, record.unit)

/-- Two registries that cannot be told apart by asking. Only the order in which they list their
units may differ. -/
structure SameAnswers (r r' : Registry K) : Prop where
  get : ∀ text, r.get text = r'.get text
  has : ∀ text, r.has text = r'.has text
  quantity : ∀ text, r.quantity? text = r'.quantity? text
  size : r.size = r'.size
  spellings : r.spellings = r'.spellings
  matchAt : ∀ text position, r.matchAt? text position = r'.matchAt? text position
  units : r.units.Perm r'.units

/-- A text finds the unit of the record that it spells. -/
theorem Built.find?_eq_some_iff (h : Built records r) {text : String} {u : Unit K} :
    r.find? text = some u ↔ ∃ record ∈ records, u = record.unit ∧ record.Spells text := by
  rw [find?, lookup_eq_some_iff_mem h.nodup, h.mem_iff]
  simp only [UnitRecord.Spells, eq_comm]

theorem Built.mem_keys_iff (h : Built records r) {key : String} :
    key ∈ r.keys ↔ key ∈ normalForms records := by
  simp only [keys, List.mem_map, Prod.exists, exists_and_right, exists_eq_right, h.mem_iff,
    normalForms, List.mem_flatMap, UnitRecord.mem_spellings_iff]
  constructor
  · rintro ⟨_, record, hmem, rfl, hspelling⟩
    exact ⟨record, hmem, hspelling⟩
  · rintro ⟨record, hmem, hspelling⟩
    exact ⟨record.unit, record, hmem, rfl, hspelling⟩

/-- Records that go together are told apart by the names of their units. -/
theorem Built.record_unique (h : Built records r) {a b : UnitRecord K} (ha : a ∈ records)
    (hb : b ∈ records) (hunit : a.unit = b.unit) : a = b :=
  List.inj_on_of_nodup_map h.compatible.names ha hb (congrArg Unit.name hunit)

theorem Built.answers (h : Built records r) : Answers records r where
  get_ok record hmem text := by
    rw [get_eq_ok_iff, h.find?_eq_some_iff]
    constructor
    · rintro ⟨other, hother, hunit, hspells⟩
      rwa [h.record_unique hmem hother hunit]
    · exact fun hspells => ⟨record, hmem, rfl, hspells⟩
  get_unknown text := by
    rw [get_eq_error_iff, Option.eq_none_iff_forall_ne_some]
    simp only [ne_eq, h.find?_eq_some_iff, and_true]
    constructor
    · rintro hnone ⟨record, hmem, hspells⟩
      exact hnone record.unit ⟨record, hmem, rfl, hspells⟩
    · rintro hnone u ⟨record, hmem, _, hspells⟩
      exact hnone ⟨record, hmem, hspells⟩
  has text := by
    simp only [has_iff, h.find?_eq_some_iff]
    constructor
    · rintro ⟨u, record, hmem, _, hspells⟩
      exact ⟨record, hmem, hspells⟩
    · rintro ⟨record, hmem, hspells⟩
      exact ⟨record.unit, record, hmem, rfl, hspells⟩
  quantity text q := by
    simp only [quantity?, Option.map_eq_some_iff, h.find?_eq_some_iff]
    constructor
    · rintro ⟨u, ⟨record, hmem, rfl, hspells⟩, rfl⟩
      exact ⟨record, hmem, hspells, rfl⟩
    · rintro ⟨record, hmem, hspells, rfl⟩
      exact ⟨record.unit, ⟨record, hmem, rfl, hspells⟩, rfl⟩
  size := by
    have hkeys : r.keys.toFinset = (normalForms records).toFinset := by
      ext key
      rw [List.mem_toFinset, List.mem_toFinset, h.mem_keys_iff]
    rw [← hkeys, List.toFinset_card_of_nodup h.nodup, keys, List.length_map, size]
  spellings key := by
    rw [Registry.spellings, List.mem_mergeSort]
    exact h.mem_keys_iff
  units := h.units

/-- Registries of the same records in different orders cannot be told apart. -/
theorem Built.sameAnswers {permuted : List (UnitRecord K)} (h : Built records r)
    (h' : Built permuted r') (hperm : records.Perm permuted) : SameAnswers r r' := by
  have hfind (text : String) : r.find? text = r'.find? text := by
    ext u
    simp only [h.find?_eq_some_iff, h'.find?_eq_some_iff, hperm.mem_iff]
  have hmem (key : String) : key ∈ r.keys ↔ key ∈ r'.keys := by
    rw [h.mem_keys_iff, h'.mem_keys_iff]
    exact (hperm.flatMap_right _).mem_iff
  have hkeys : r.keys.Perm r'.keys := (List.perm_ext_iff_of_nodup h.nodup h'.nodup).mpr hmem
  exact {
    get := fun text => by rw [get, get, hfind]
    has := fun text => by rw [has, has, hfind]
    quantity := fun text => by rw [quantity?, quantity?, hfind]
    size := by simpa [keys, size] using hkeys.length_eq
    spellings := spellings_eq_of_perm hkeys
    matchAt := fun text position => by simp only [matchAt?, longestMatch?_congr hmem]
    units := by
      rw [h.units, h'.units]
      exact hperm.map _ }

end Answers

/-! ## Registries of doubles -/

theorem unitsEqualThemselves_float : UnitsEqualThemselves Float :=
  unitsEqualThemselves (exponentLaws Number.Platform.native) fun _ => Number.beq_self

/-- A registry comes of records exactly if they go together, and a fault that is reported instead
is true of them. The registry answers by the spellings of the records, and records in another
order give one that answers the same. -/
theorem ofRecords_exact (records : List (UnitRecord Float)) :
    ((∃ r, ofRecords records = .ok r) ↔ Compatible records) ∧
    (∀ f, ofRecords records = .error f → f.IsTrueOf records) ∧
    (∀ r, ofRecords records = .ok r → Answers records r) ∧
    ∀ permuted, records.Perm permuted →
      ((∃ r, ofRecords records = .ok r) ↔ ∃ r, ofRecords permuted = .ok r) ∧
      ∀ r r', ofRecords records = .ok r → ofRecords permuted = .ok r' → SameAnswers r r' := by
  have hself := unitsEqualThemselves_float
  refine ⟨ofRecords_ok_iff hself, ?_, fun r hr => (built_of_ofRecords hself hr).answers, ?_⟩
  · intro f hf
    rcases ofRecords_cases hself records with ⟨r, hr, _⟩ | ⟨f', hf', htrue⟩
    · rw [hf] at hr
      cases hr
    · rw [hf] at hf'
      cases hf'
      exact htrue
  · intro permuted hperm
    refine ⟨?_, fun r r' hr hr' =>
      (built_of_ofRecords hself hr).sameAnswers (built_of_ofRecords hself hr') hperm⟩
    rw [ofRecords_ok_iff hself, ofRecords_ok_iff hself]
    exact ⟨fun h => h.perm hperm, fun h => h.perm hperm.symm⟩

/-- Two records whose spellings begin alike. -/
def meterAndMile : List (UnitRecord Float) :=
  [⟨.length, "meter", "m", "m", 1, false, ["metre"]⟩,
    ⟨.length, "mile", "mi", "mi", 1609.344, false, ["miles"]⟩]

theorem ofRecords_meterAndMile : ∃ r r', ofRecords meterAndMile = .ok r ∧
    ofRecords meterAndMile.reverse = .ok r' ∧ SameAnswers r r' := by
  obtain ⟨_, _, _, hpermuted⟩ := ofRecords_exact meterAndMile
  obtain ⟨hsuccess, hsame⟩ := hpermuted _ (List.reverse_perm _).symm
  have hok : (ofRecords meterAndMile).isOk = true := by decide +kernel
  cases hr : ofRecords meterAndMile with
  | error f =>
    rw [hr] at hok
    cases hok
  | ok r =>
    obtain ⟨r', hr'⟩ := hsuccess.mp ⟨r, hr⟩
    exact ⟨r, r', rfl, hr', hsame r r' hr hr'⟩

end Registry

end UnitCalc
