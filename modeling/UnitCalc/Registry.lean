import UnitCalc.Catalog.Default
import UnitCalc.Quantity.Arithmetic
import UnitCalc.Text.Blank
import UnitCalc.Text.Identifier
import UnitCalc.Text.Normal

/-!
# The registry of units

A registry binds every spelling of its units to the unit. Spellings are bound and looked up
in normal form, so that surrounding blanks, the composition of accents and the choice of the
micro sign or the Greek letter do not matter; case does. A registry is built from catalog
records, and no two records can share a name or a spelling.
-/

namespace UnitCalc

/-! ## Normal form of spellings -/

/-- The micro sign becomes the Greek letter mu. -/
def foldMicro (c : Char) : Char :=
  if c = '\u00B5' then '\u03BC' else c

/-- The form in which a spelling is bound and looked up. -/
def normalSpelling (s : String) : String :=
  String.ofList ((Text.normalForm (Text.trim s.toList)).map foldMicro)

/-! ## Registries -/

/-- Units by their spellings, and by their names. Both tables are in the order of
registration, and neither binds a key twice. -/
structure Registry (K : Type) where
  bindings : List (String × Unit K)
  units : List (String × Unit K)

namespace Registry

variable {K : Type}

/-- The registry without units. -/
def empty : Registry K := ⟨[], []⟩

/-- The same units with their numbers converted. -/
def map {L : Type} (f : K → L) (r : Registry K) : Registry L :=
  let converted := fun (key, unit) => (key, Unit.map f unit)
  ⟨r.bindings.map converted, r.units.map converted⟩

/-! ## Construction -/

section Construction

variable [Scalar K]

/-- Binds a spelling of a unit. Spellings with one normal form are one, and it cannot be
bound to two units. -/
def bind (unit : Unit K) (bindings : List (String × Unit K)) (spelling : String) :
    Except CatalogFault (List (String × Unit K)) :=
  let key := normalSpelling spelling
  match bindings.lookup key with
  | none => .ok (bindings ++ [(key, unit)])
  | some owner =>
    if owner.eq unit then .ok bindings
    else .error (.spellingTaken spelling unit.name owner.name)

/-- Adds the unit of a record. -/
def register (r : Registry K) (record : UnitRecord K) : Except CatalogFault (Registry K) := do
  let unit := record.unit
  if !Unit.validFactor unit.factor then .error .badFactor
  else if (r.units.lookup unit.name).isSome then .error (.nameTaken unit.name)
  else do
    let bindings ← record.spellings.foldlM (bind unit) r.bindings
    .ok ⟨bindings, r.units ++ [(unit.name, unit)]⟩

/-- The registry of some records. -/
def ofRecords (records : List (UnitRecord K)) : Except CatalogFault (Registry K) :=
  records.foldlM register empty

/-- The registry of the default catalog. -/
def default : Registry K :=
  match ofRecords Catalog.units with
  | .ok r => r
  | .error _ => empty

end Construction

/-! ## Queries -/

/-- The unit with a given spelling. -/
def find? (r : Registry K) (spelling : String) : Option (Unit K) :=
  r.bindings.lookup (normalSpelling spelling)

/-- Whether a unit has a given spelling. -/
def has (r : Registry K) (spelling : String) : Bool :=
  (r.find? spelling).isSome

/-- The unit with a given spelling, or the fault that there is none. -/
def get (r : Registry K) (spelling : String) : Except (Fault K) (Unit K) :=
  match r.find? spelling with
  | some unit => .ok unit
  | none => .error (.unknownUnit spelling)

theorem has_iff {r : Registry K} {s : String} : r.has s = true ↔ ∃ u, r.find? s = some u := by
  simp [has, Option.isSome_iff_exists]

theorem get_eq_ok_iff {r : Registry K} {s : String} {u : Unit K} :
    r.get s = .ok u ↔ r.find? s = some u := by
  simp only [get]
  split <;> simp_all

theorem get_eq_error_iff {r : Registry K} {s : String} {f : Fault K} :
    r.get s = .error f ↔ r.find? s = none ∧ .unknownUnit s = f := by
  simp only [get]
  split <;> simp_all

/-- One of the unit with a given spelling. -/
def quantity? [Scalar K] (r : Registry K) (spelling : String) : Option (Quantity K) :=
  (r.find? spelling).map Unit.quantity

/-- One of the unit with a given public name, which does not start with an underscore. -/
def publicQuantity? [Scalar K] (r : Registry K) (name : String) : Option (Quantity K) :=
  if name.toList.head? = some '_' then none else r.quantity? name

/-- The number of spellings. -/
def size (r : Registry K) : Nat := r.bindings.length

/-- The order of spellings: longer ones first, and those of one length by code point. -/
def spellingBefore (s t : String) : Bool :=
  t.length < s.length || (s.length == t.length && s ≤ t)

/-- All spellings, the longest first. -/
def spellings (r : Registry K) : List String :=
  (r.bindings.map (·.1)).mergeSort spellingBefore

/-- The longer of a match so far and a spelling that a text begins with. -/
def longerMatch (cs : List Char) (best : Option String) (key : String) : Option String :=
  if key.toList.isPrefixOf cs then
    match best with
    | none => some key
    | some other => if other.length < key.length then some key else some other
  else best

/-- The longest spelling that a text begins with. -/
def longestMatch? (r : Registry K) (cs : List Char) : Option String :=
  r.bindings.foldl (fun best binding => longerMatch cs best binding.1) none

theorem longerMatch_eq_some {cs : List Char} {best : Option String} {key found : String}
    (h : longerMatch cs best key = some found) :
    best = some found ∨ key = found ∧ key.toList <+: cs := by
  unfold longerMatch at h
  grind [List.isPrefixOf_iff_prefix]

/-- What is found is a spelling, and the text begins with it. -/
theorem longestMatch?_eq_some {r : Registry K} {cs : List Char} {found : String}
    (h : r.longestMatch? cs = some found) :
    found ∈ r.bindings.map (·.1) ∧ found.toList <+: cs := by
  suffices ∀ (bs : List (String × Unit K)) (best : Option String),
      bs.foldl (fun best binding => longerMatch cs best binding.1) best = some found →
      best = some found ∨ found ∈ bs.map (·.1) ∧ found.toList <+: cs from
    (this r.bindings none h).resolve_left nofun
  intro bs
  induction bs with
  | nil => exact fun best h => .inl h
  | cons b bs ih =>
    intro best h
    rcases ih _ h with h | ⟨hm, hp⟩
    · rcases longerMatch_eq_some h with h | ⟨rfl, hp⟩
      · exact .inl h
      · exact .inr ⟨List.mem_cons_self, hp⟩
    · exact .inr ⟨List.mem_cons_of_mem _ hm, hp⟩

/-- The longest spelling at a position of a text. Negative positions count from the end, and
nothing is found beyond the end. -/
def matchAt? (r : Registry K) (text : String) (position : Int) : Option String :=
  let cs := text.toList
  let start := if position < 0 then max 0 (position + cs.length) else position
  if cs.length < start then none else r.longestMatch? (cs.drop start.toNat)

/-- The spellings that can be used as public names, in the order of their code points. -/
def publicNames (r : Registry K) : List String :=
  ((r.bindings.map (·.1)).filter fun key =>
    Text.isIdentifier key.toList && key.toList.head? != some '_').mergeSort (· ≤ ·)

end Registry

end UnitCalc
