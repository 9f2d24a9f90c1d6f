import UnitCalc.Registry

/-!
# Where the units of a registry come from

Registration only ever adds the unit of the record at hand, and only with a valid factor. So
whatever a constructed registry finds is the unit of one of its records.
-/

namespace UnitCalc.Registry

variable {K : Type}

/-- What is found is bound. -/
theorem mem_of_find? {r : Registry K} {spelling : String} {u : Unit K}
    (hu : r.find? spelling = some u) : (normalSpelling spelling, u) ∈ r.bindings := by
  rw [find?, List.lookup_eq_some_iff] at hu
  obtain ⟨before, after, hsplit, _⟩ := hu
  rw [hsplit]
  exact List.mem_append_right _ List.mem_cons_self

variable [Scalar K]

theorem mem_of_bind {unit : Unit K} {bindings bindings' : List (String × Unit K)}
    {spelling : String} (h : bind unit bindings spelling = .ok bindings')
    {binding : String × Unit K} (hb : binding ∈ bindings') :
    binding ∈ bindings ∨ binding.2 = unit := by
  unfold bind at h
  simp only at h
  split at h
  · cases h
    rcases List.mem_append.mp hb with hb | hb
    · exact .inl hb
    · rw [List.mem_singleton.mp hb]
      exact .inr rfl
  · split at h <;> cases h
    exact .inl hb

theorem mem_of_foldlM_bind {unit : Unit K} {spellings : List String}
    {bindings bindings' : List (String × Unit K)}
    (h : spellings.foldlM (bind unit) bindings = .ok bindings')
    {binding : String × Unit K} (hb : binding ∈ bindings') :
    binding ∈ bindings ∨ binding.2 = unit := by
  induction spellings generalizing bindings with
  | nil =>
    cases h
    exact .inl hb
  | cons spelling spellings ih =>
    rw [List.foldlM_cons] at h
    cases hbind : bind unit bindings spelling with
    | error f =>
      rw [hbind] at h
      cases h
    | ok bindings₁ =>
      rw [hbind] at h
      rcases ih h with hb | hb
      · exact mem_of_bind hbind hb
      · exact .inr hb

/-- A record that is registered has a valid factor, and only its unit is new. -/
theorem mem_of_register {r r' : Registry K} {record : UnitRecord K}
    (h : r.register record = .ok r') : Unit.validFactor record.unit.factor = true ∧
      ∀ binding ∈ r'.bindings, binding ∈ r.bindings ∨ binding.2 = record.unit := by
  unfold register at h
  simp only at h
  split at h
  · cases h
  · rename_i hfactor
    split at h
    · cases h
    · cases hfold : record.spellings.foldlM (bind record.unit) r.bindings with
      | error f =>
        rw [hfold] at h
        cases h
      | ok bindings =>
        rw [hfold] at h
        cases h
        exact ⟨by simpa using hfactor, fun binding hb => mem_of_foldlM_bind hfold hb⟩

theorem mem_of_foldlM_register {records : List (UnitRecord K)} {r r' : Registry K}
    (h : records.foldlM register r = .ok r') {binding : String × Unit K}
    (hb : binding ∈ r'.bindings) : binding ∈ r.bindings ∨
      ∃ record ∈ records, binding.2 = record.unit ∧
        Unit.validFactor record.unit.factor = true := by
  induction records generalizing r with
  | nil =>
    cases h
    exact .inl hb
  | cons record records ih =>
    rw [List.foldlM_cons] at h
    cases hregister : r.register record with
    | error f =>
      rw [hregister] at h
      cases h
    | ok r₁ =>
      rw [hregister] at h
      obtain ⟨hvalid, hnew⟩ := mem_of_register hregister
      rcases ih h with hb | ⟨other, hother, hunit⟩
      · rcases hnew binding hb with hb | hunit
        · exact .inl hb
        · exact .inr ⟨record, List.mem_cons_self, hunit, hvalid⟩
      · exact .inr ⟨other, List.mem_cons_of_mem record hother, hunit⟩

/-- What a constructed registry binds is the unit of a record, and its factor is valid. -/
theorem exists_record_of_mem {records : List (UnitRecord K)} {r : Registry K}
    (h : ofRecords records = .ok r) {binding : String × Unit K} (hb : binding ∈ r.bindings) :
    ∃ record ∈ records, binding.2 = record.unit ∧
      Unit.validFactor record.unit.factor = true := by
  rcases mem_of_foldlM_register h hb with hnone | hrecord
  · cases hnone
  · exact hrecord

/-- What a constructed registry finds is the unit of a record, and its factor is valid. -/
theorem exists_record_of_find? {records : List (UnitRecord K)} {r : Registry K}
    (h : ofRecords records = .ok r) {spelling : String} {u : Unit K}
    (hu : r.find? spelling = some u) :
    ∃ record ∈ records, u = record.unit ∧ Unit.validFactor record.unit.factor = true :=
  exists_record_of_mem h (mem_of_find? hu)

end UnitCalc.Registry
