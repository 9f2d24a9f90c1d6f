import Mathlib.Data.List.Nodup
import UnitCalc.Proofs.Registry.LongestMatch

/-!
# Building a registry

A registry is built record by record, and spelling by spelling. `Built` is what holds after
every record: the records so far go together, and exactly their spellings are bound, each to
the unit of its record. One record more keeps this, or is refused with a fault that is true of
the records. So a registry comes of records exactly if they go together.
-/

namespace UnitCalc

variable {K : Type}

/-! ## Records that go together -/

namespace UnitRecord

@[simp] theorem unit_name [Scalar K] (record : UnitRecord K) : record.unit.name = record.name := rfl

@[simp] theorem unit_factor [Scalar K] (record : UnitRecord K) :
    record.unit.factor = record.factor := rfl

/-- Whether a text is given as a spelling of the unit: as its name, its abbreviation, its symbol
or one of its aliases. -/
def IsSpelling (record : UnitRecord K) (s : String) : Prop :=
  s = record.name ∨ s = record.short ∨ s = record.symbol ∨ s ∈ record.aliases

theorem mem_spellings_iff {record : UnitRecord K} {s : String} :
    s ∈ record.spellings ↔ record.IsSpelling s := by
  simp [spellings, IsSpelling, List.mem_eraseDups]

/-- Whether a text has the normal form of a spelling of the unit. -/
def Spells (record : UnitRecord K) (text : String) : Prop :=
  ∃ s, record.IsSpelling s ∧ normalSpelling text = normalSpelling s

end UnitRecord

/-- Records that make a registry: their factors are positive and finite, no two have one name,
and no two have spellings with one normal form. -/
structure Compatible [Scalar K] (records : List (UnitRecord K)) : Prop where
  factors : ∀ record ∈ records,
    Scalar.lt Scalar.zero record.factor = true ∧ Scalar.isFinite record.factor = true
  names : (records.map (·.name)).Nodup
  spellings : records.Pairwise fun a b =>
    ∀ s t, a.IsSpelling s → b.IsSpelling t → normalSpelling s ≠ normalSpelling t

/-- What a fault of registration says of the records: a factor is not valid, two records have
one name, or a spelling of a record spells the unit of one before it. -/
def CatalogFault.IsTrueOf [Scalar K] (f : CatalogFault) (records : List (UnitRecord K)) : Prop :=
  match f with
  | .unknownFamily _ => False
  | .badFactor => ∃ record ∈ records,
      ¬ (Scalar.lt Scalar.zero record.factor = true ∧ Scalar.isFinite record.factor = true)
  | .nameTaken name => ∃ a b : UnitRecord K, [a, b].Sublist records ∧ a.name = name ∧ b.name = name
  | .spellingTaken spelling name owner => ∃ a b : UnitRecord K, [a, b].Sublist records ∧
      b.IsSpelling spelling ∧ a.Spells spelling ∧ b.name = name ∧ a.name = owner

section Compatible

variable [Scalar K] {records more : List (UnitRecord K)} {f : CatalogFault}

theorem validFactor_iff {x : K} : Unit.validFactor x = true ↔
    Scalar.lt Scalar.zero x = true ∧ Scalar.isFinite x = true := by
  simp [Unit.validFactor]

theorem CatalogFault.IsTrueOf.mono (h : f.IsTrueOf records) (hsub : records.Sublist more) :
    f.IsTrueOf more := by
  cases f with
  | unknownFamily => exact h
  | badFactor =>
    obtain ⟨record, hmem, hfactor⟩ := h
    exact ⟨record, hsub.subset hmem, hfactor⟩
  | nameTaken name =>
    obtain ⟨a, b, hab, hnames⟩ := h
    exact ⟨a, b, hab.trans hsub, hnames⟩
  | spellingTaken spelling name owner =>
    obtain ⟨a, b, hab, hspellings⟩ := h
    exact ⟨a, b, hab.trans hsub, hspellings⟩

/-- A fault that is true of records is a reason why they do not go together. -/
theorem CatalogFault.IsTrueOf.not_compatible (h : f.IsTrueOf records) : ¬ Compatible records := by
  intro hcompatible
  cases f with
  | unknownFamily => exact h
  | badFactor =>
    obtain ⟨record, hmem, hfactor⟩ := h
    exact hfactor (hcompatible.factors record hmem)
  | nameTaken name =>
    obtain ⟨a, b, hab, rfl, hb⟩ := h
    have hnodup := (hab.map (·.name)).nodup hcompatible.names
    simp [hb] at hnodup
  | spellingTaken spelling name owner =>
    obtain ⟨a, b, hab, hspelling, ⟨s, hs, heq⟩, _⟩ := h
    exact List.pairwise_iff_forall_sublist.mp hcompatible.spellings hab s spelling hs hspelling
      heq.symm

/-- Whether records go together does not depend on their order. -/
theorem Compatible.perm (h : Compatible records) (hperm : records.Perm more) :
    Compatible more where
  factors record hmem := h.factors record (hperm.mem_iff.mpr hmem)
  names := (hperm.map (·.name)).nodup_iff.mp h.names
  spellings := by
    refine (hperm.pairwise_iff ?_).mp h.spellings
    intro a b hab s t hs ht heq
    exact hab t s ht hs heq.symm

end Compatible

namespace Registry

/-! ## Bindings -/

section Bindings

variable {bindings : List (String × Unit K)} {key : String} {u v : Unit K}

/-- Where no key is bound twice, looking up finds what is bound. -/
theorem lookup_eq_some_iff_mem (hnodup : (bindings.map (·.1)).Nodup) :
    bindings.lookup key = some u ↔ (key, u) ∈ bindings := by
  induction bindings with
  | nil => simp
  | cons binding bindings ih =>
    obtain ⟨first, v⟩ := binding
    rw [List.map_cons, List.nodup_cons] at hnodup
    by_cases hkey : key = first
    · subst hkey
      have hfresh : (key, u) ∉ bindings := fun h => hnodup.1 (List.mem_map.mpr ⟨_, h, rfl⟩)
      simp [hfresh, eq_comm]
    · have hne : (key == first) = false := by simpa using hkey
      simp [List.lookup_cons, hne, hkey, ih hnodup.2]

theorem unit_unique (hnodup : (bindings.map (·.1)).Nodup) (hu : (key, u) ∈ bindings)
    (hv : (key, v) ∈ bindings) : u = v :=
  Option.some.inj <| ((lookup_eq_some_iff_mem hnodup).mpr hu).symm.trans
    ((lookup_eq_some_iff_mem hnodup).mpr hv)

/-- The bindings after some keys have been bound to a unit. -/
structure Binds (unit : Unit K) (keys : List String) (bindings bindings' : List (String × Unit K)) :
    Prop where
  nodup : (bindings'.map (·.1)).Nodup
  mem_iff : ∀ key u, (key, u) ∈ bindings' ↔ (key, u) ∈ bindings ∨ u = unit ∧ key ∈ keys

variable [Scalar K] {unit : Unit K} {spellings : List String}

/-- One spelling is bound to the unit, unless another unit has it. -/
theorem bind_cases (hself : unit.eq unit = true) (hnodup : (bindings.map (·.1)).Nodup)
    (hname : ∀ binding ∈ bindings, binding.2.name = unit.name → binding.2 = unit)
    (spelling : String) :
    (∃ bindings', bind unit bindings spelling = .ok bindings' ∧
      Binds unit [normalSpelling spelling] bindings bindings') ∨
    ∃ owner, bind unit bindings spelling = .error (.spellingTaken spelling unit.name owner.name) ∧
      (normalSpelling spelling, owner) ∈ bindings ∧ owner ≠ unit := by
  cases hlookup : bindings.lookup (normalSpelling spelling) with
  | none =>
    have hfresh : normalSpelling spelling ∉ bindings.map (·.1) := by
      intro hmem
      obtain ⟨⟨key, u⟩, hbinding, rfl⟩ := List.mem_map.mp hmem
      rw [(lookup_eq_some_iff_mem hnodup).mpr hbinding] at hlookup
      cases hlookup
    refine .inl ⟨bindings ++ [(normalSpelling spelling, unit)], by simp [bind, hlookup], ?_, ?_⟩
    · rw [List.map_append, List.map_singleton, ← List.concat_eq_append]
      exact hnodup.concat hfresh
    · simp [and_comm]
  | some owner =>
    have hmem := (lookup_eq_some_iff_mem hnodup).mp hlookup
    by_cases howner : owner = unit
    -- The unit has been bound under this key before.
    · subst howner
      refine .inl ⟨bindings, by simp [bind, hlookup, hself], hnodup, ?_⟩
      intro key u
      refine ⟨.inl, ?_⟩
      rintro (h | ⟨rfl, hkey⟩)
      · exact h
      · rw [List.mem_singleton.mp hkey]
        exact hmem
    · have hne : owner.eq unit = false := by
        have hnames : owner.name ≠ unit.name := fun h => howner (hname _ hmem h)
        simp [Unit.eq, hnames]
      exact .inr ⟨owner, by simp [bind, hlookup, hne], hmem, howner⟩

/-- All spellings are bound to the unit, unless another unit has one of them. -/
theorem foldlM_bind_cases (hself : unit.eq unit = true) (hnodup : (bindings.map (·.1)).Nodup)
    (hname : ∀ binding ∈ bindings, binding.2.name = unit.name → binding.2 = unit) :
    (∃ bindings', spellings.foldlM (bind unit) bindings = .ok bindings' ∧
      Binds unit (spellings.map normalSpelling) bindings bindings') ∨
    ∃ spelling ∈ spellings, ∃ owner, spellings.foldlM (bind unit) bindings =
        .error (.spellingTaken spelling unit.name owner.name) ∧
      (normalSpelling spelling, owner) ∈ bindings ∧ owner ≠ unit := by
  induction spellings generalizing bindings with
  | nil => exact .inl ⟨bindings, rfl, hnodup, by simp⟩
  | cons spelling spellings ih =>
    rw [List.foldlM_cons]
    rcases bind_cases hself hnodup hname spelling with ⟨bindings₁, hbind, hfirst⟩ |
        ⟨owner, hbind, howner⟩
    · rw [hbind]
      have hname₁ : ∀ binding ∈ bindings₁, binding.2.name = unit.name → binding.2 = unit := by
        rintro ⟨key, u⟩ hmem hu
        rcases (hfirst.mem_iff key u).mp hmem with h | ⟨rfl, _⟩
        · exact hname _ h hu
        · rfl
      rcases ih hfirst.nodup hname₁ with ⟨bindings', hrest, hbinds⟩ |
          ⟨other, hother, owner, hrest, hmem, hne⟩
      · refine .inl ⟨bindings', hrest, hbinds.nodup, ?_⟩
        intro key u
        simp only [hbinds.mem_iff, hfirst.mem_iff, List.map_cons, List.mem_cons, List.not_mem_nil,
          or_false, and_or_left, or_assoc]
      · refine .inr ⟨other, List.mem_cons_of_mem _ hother, owner, hrest, ?_, hne⟩
        exact ((hfirst.mem_iff _ _).mp hmem).resolve_right fun h => hne h.1
    · exact .inr ⟨spelling, List.mem_cons_self, owner, by rw [hbind]; rfl, howner⟩

end Bindings

/-! ## Records -/

/-- A registry of some records: they go together, and their spellings are bound, and no others,
each to the unit of its record. -/
structure Built [Scalar K] (records : List (UnitRecord K)) (r : Registry K) : Prop where
  compatible : Compatible records
  units : r.units = records.map fun record => (record.name, record.unit)
  nodup : r.keys.Nodup
  mem_iff : ∀ key u, (key, u) ∈ r.bindings ↔
    ∃ record ∈ records, u = record.unit ∧ ∃ s, record.IsSpelling s ∧ normalSpelling s = key

section Records

variable [Scalar K] {done records : List (UnitRecord K)} {r : Registry K}

theorem built_empty : Built ([] : List (UnitRecord K)) empty where
  compatible := ⟨by simp, by simp, .nil⟩
  units := rfl
  nodup := .nil
  mem_iff := by simp [empty]

theorem Built.lookup_units_eq_none_iff (h : Built done r) {name : String} :
    (r.units.lookup name).isSome = false ↔ name ∉ done.map (·.name) := by
  rw [Option.isSome_eq_false_iff, Option.isNone_iff_eq_none, List.lookup_eq_none_iff, h.units]
  constructor
  · intro hnone hmem
    obtain ⟨record, hrecord, rfl⟩ := List.mem_map.mp hmem
    simpa using hnone _ (List.mem_map_of_mem hrecord)
  · intro hfresh binding hbinding
    obtain ⟨record, hrecord, rfl⟩ := List.mem_map.mp hbinding
    simpa using fun heq : name = record.name => hfresh (heq ▸ List.mem_map_of_mem hrecord)

/-- The bindings with a new record's are those of a registry with the record. -/
theorem Built.add (h : Built done r) {record : UnitRecord K}
    (hfactor : Unit.validFactor record.factor = true) (hname : record.name ∉ done.map (·.name))
    {bindings : List (String × Unit K)}
    (hbinds : Binds record.unit (record.spellings.map normalSpelling) r.bindings bindings) :
    Built (done ++ [record]) ⟨bindings, r.units ++ [(record.name, record.unit)]⟩ := by
  have hmem (key : String) (u : Unit K) : (key, u) ∈ bindings ↔ ∃ other ∈ done ++ [record],
      u = other.unit ∧ ∃ s, other.IsSpelling s ∧ normalSpelling s = key := by
    rw [hbinds.mem_iff, h.mem_iff, List.mem_map]
    simp only [UnitRecord.mem_spellings_iff, List.mem_append, List.mem_singleton,
      or_and_right, exists_or, exists_eq_left]
  have hnames : ∀ other ∈ done, other.name ≠ record.name := fun other hother heq =>
    hname (heq ▸ List.mem_map_of_mem hother)
  refine ⟨⟨?_, ?_, ?_⟩, by simp [h.units], hbinds.nodup, hmem⟩
  · refine List.forall_mem_append.mpr ⟨h.compatible.factors, ?_⟩
    simpa using validFactor_iff.mp hfactor
  · rw [List.map_append, List.map_singleton, ← List.concat_eq_append]
    exact h.compatible.names.concat hname
  · refine List.pairwise_append.mpr ⟨h.compatible.spellings, List.pairwise_singleton _ _, ?_⟩
    intro a ha b hb s t hs ht heq
    rw [List.mem_singleton.mp hb] at ht
    -- One key would be bound to both units, and their names differ.
    have hunits : a.unit = record.unit := unit_unique hbinds.nodup
      ((hmem _ _).mpr ⟨a, by simp [ha], rfl, s, hs, heq⟩)
      ((hmem _ _).mpr ⟨record, by simp, rfl, t, ht, rfl⟩)
    exact hnames a ha (congrArg Unit.name hunits)

/-- The law of units that building a registry rests on: a unit with a valid factor equals
itself. -/
def UnitsEqualThemselves (K : Type) [Scalar K] : Prop :=
  ∀ record : UnitRecord K, Unit.validFactor record.factor = true →
    record.unit.eq record.unit = true

variable (hself : UnitsEqualThemselves K)

include hself

/-- One step: a record is added, or a fault says why it does not go with those before it. -/
theorem Built.register_cases (h : Built done r) (record : UnitRecord K) :
    (∃ r', r.register record = .ok r' ∧ Built (done ++ [record]) r') ∨
    ∃ f, r.register record = .error f ∧ f.IsTrueOf (done ++ [record]) := by
  have hpair {a : UnitRecord K} (ha : a ∈ done) : [a, record].Sublist (done ++ [record]) :=
    (List.singleton_sublist.mpr ha).append (.refl [record])
  cases hfactor : Unit.validFactor record.factor with
  | false =>
    refine .inr ⟨.badFactor, by simp [register, hfactor], record, by simp, ?_⟩
    rw [← validFactor_iff]
    simpa using hfactor
  | true =>
    cases hunits : (r.units.lookup record.name).isSome with
    | true =>
      refine .inr ⟨.nameTaken record.name, by simp [register, hfactor, hunits], ?_⟩
      have htaken : record.name ∈ done.map (·.name) := by
        by_contra hnone
        rw [h.lookup_units_eq_none_iff.mpr hnone] at hunits
        cases hunits
      obtain ⟨a, ha, hname⟩ := List.mem_map.mp htaken
      exact ⟨a, record, hpair ha, hname, rfl⟩
    | false =>
      have hname : record.name ∉ done.map (·.name) := h.lookup_units_eq_none_iff.mp hunits
      have hothers : ∀ binding ∈ r.bindings,
          binding.2.name = record.unit.name → binding.2 = record.unit := by
        rintro ⟨key, u⟩ hmem hu
        obtain ⟨other, hother, rfl, _⟩ := (h.mem_iff key u).mp hmem
        have heq : other.name = record.name := hu
        exact absurd (heq ▸ List.mem_map_of_mem hother) hname
      rcases foldlM_bind_cases (hself record hfactor) h.nodup hothers with
        ⟨bindings, hfold, hbinds⟩ | ⟨spelling, hspelling, owner, hfold, hmem, _⟩
      · exact .inl ⟨_, by simp [register, hfactor, hunits, hfold]; rfl,
          h.add hfactor hname hbinds⟩
      · obtain ⟨a, ha, rfl, s, hs, heq⟩ := (h.mem_iff _ _).mp hmem
        exact .inr ⟨.spellingTaken spelling record.name a.name,
          by simp [register, hfactor, hunits, hfold, Bind.bind, Except.bind], a, record, hpair ha,
          UnitRecord.mem_spellings_iff.mp hspelling, ⟨s, hs, heq.symm⟩, rfl, rfl⟩

/-- The whole run: all records are added, or a fault is true of them. -/
theorem Built.foldlM_register_cases (h : Built done r) (records : List (UnitRecord K)) :
    (∃ r', records.foldlM register r = .ok r' ∧ Built (done ++ records) r') ∨
    ∃ f, records.foldlM register r = .error f ∧ f.IsTrueOf (done ++ records) := by
  induction records generalizing done r with
  | nil => exact .inl ⟨r, rfl, by simpa using h⟩
  | cons record records ih =>
    have hsplit : done ++ record :: records = (done ++ [record]) ++ records := by simp
    rw [List.foldlM_cons, hsplit]
    rcases h.register_cases hself record with ⟨r₁, hregister, hbuilt⟩ | ⟨f, hregister, hf⟩
    · rw [hregister]
      exact ih hbuilt
    · exact .inr ⟨f, by rw [hregister]; rfl, hf.mono (List.sublist_append_left _ _)⟩

theorem ofRecords_cases (records : List (UnitRecord K)) :
    (∃ r, ofRecords records = .ok r ∧ Built records r) ∨
    ∃ f, ofRecords records = .error f ∧ f.IsTrueOf records :=
  built_empty.foldlM_register_cases hself records

theorem built_of_ofRecords (h : ofRecords records = .ok r) : Built records r := by
  rcases ofRecords_cases hself records with ⟨r', hr', hbuilt⟩ | ⟨f, hf, _⟩
  · rw [h] at hr'
    cases hr'
    exact hbuilt
  · rw [h] at hf
    cases hf

/-- A registry comes of records exactly if they go together. -/
theorem ofRecords_ok_iff : (∃ r, ofRecords records = .ok r) ↔ Compatible records := by
  constructor
  · rintro ⟨r, hr⟩
    exact (built_of_ofRecords hself hr).compatible
  · intro h
    rcases ofRecords_cases hself records with ⟨r, hr, _⟩ | ⟨f, _, hf⟩
    · exact ⟨r, hr⟩
    · exact absurd h hf.not_compatible

end Records

end Registry

end UnitCalc
