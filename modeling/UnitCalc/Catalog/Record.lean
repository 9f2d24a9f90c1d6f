import UnitCalc.Text.Letter
import UnitCalc.Unit

/-!
# Catalog records

A record of the catalog describes one unit: its family, which fixes the dimension, its
spellings, and how much it is in SI units. A record may be marked as taking the metric
prefixes; expanding a catalog adds the prefixed units behind each such record.
-/

namespace UnitCalc

/-! ## Families -/

/-- What units measure. -/
inductive Family where
  | length
  | mass
  | time
  | frequency
  | volume
  | force
  | pressure
  | energy
  | power
deriving Repr, DecidableEq

namespace Family

/-- The families in the order in which they are listed. -/
def all : List Family :=
  [.length, .mass, .time, .frequency, .volume, .force, .pressure, .energy, .power]

/-- The name of a family. -/
def name : Family → String
  | .length => "length"
  | .mass => "mass"
  | .time => "time"
  | .frequency => "frequency"
  | .volume => "volume"
  | .force => "force"
  | .pressure => "pressure"
  | .energy => "energy"
  | .power => "power"

/-- The dimension of the units of a family. -/
def dim {K : Type} [Scalar K] : Family → Dimension K
  | .length => .ofInts 1 0 0
  | .mass => .ofInts 0 1 0
  | .time => .ofInts 0 0 1
  | .frequency => .ofInts 0 0 (-1)
  | .volume => .ofInts 3 0 0
  | .force => .ofInts 1 1 (-2)
  | .pressure => .ofInts (-1) 1 (-2)
  | .energy => .ofInts 2 1 (-2)
  | .power => .ofInts 2 1 (-3)

/-- The family with a given name. -/
def ofName? (name : String) : Option Family :=
  all.find? (·.name == name)

end Family

/-! ## Metric prefixes -/

/-- A metric prefix: its spellings and the power of ten it stands for. -/
structure MetricPrefix where
  name : String
  short : String
  symbol : String
  power : Int
deriving Repr, DecidableEq

/-- The metric prefixes, the largest first. Only micro has a symbol that is not its
abbreviation. -/
def MetricPrefix.all : List MetricPrefix := [
  ⟨"yotta", "Y", "Y", 24⟩,
  ⟨"zetta", "Z", "Z", 21⟩,
  ⟨"exa", "E", "E", 18⟩,
  ⟨"peta", "P", "P", 15⟩,
  ⟨"tera", "T", "T", 12⟩,
  ⟨"giga", "G", "G", 9⟩,
  ⟨"mega", "M", "M", 6⟩,
  ⟨"kilo", "k", "k", 3⟩,
  ⟨"hecto", "h", "h", 2⟩,
  ⟨"deca", "da", "da", 1⟩,
  ⟨"deci", "d", "d", -1⟩,
  ⟨"centi", "c", "c", -2⟩,
  ⟨"milli", "m", "m", -3⟩,
  ⟨"micro", "u", "μ", -6⟩,
  ⟨"nano", "n", "n", -9⟩,
  ⟨"pico", "p", "p", -12⟩,
  ⟨"femto", "f", "f", -15⟩,
  ⟨"atto", "a", "a", -18⟩,
  ⟨"zepto", "z", "z", -21⟩,
  ⟨"yocto", "y", "y", -24⟩]

/-! ## Faults -/

/-- Why records do not make a registry. -/
inductive CatalogFault where
  | unknownFamily (name : String)
  | badFactor
  | nameTaken (name : String)
  | spellingTaken (spelling name owner : String)
deriving Repr, DecidableEq

/-- What a fault of a catalog says. -/
def CatalogFault.message : CatalogFault → String
  | .unknownFamily name => s!"Unknown unit family: {Text.quote name}"
  | .badFactor => "factor must be a positive, finite number"
  | .nameTaken name => s!"Cannot register unit '{name}': a unit with this name already exists."
  | .spellingTaken spelling name owner =>
    s!"Cannot register '{spelling}' for '{name}': already bound to '{owner}'."

/-! ## Records -/

/-- The description of one unit. -/
structure UnitRecord (K : Type) where
  family : Family
  name : String
  short : String
  symbol : String
  factor : K
  prefixable : Bool
  aliases : List String

namespace UnitRecord

variable {K : Type}

/-- The record with a family given by its name. -/
def ofFamilyName (family name short symbol : String) (factor : K) (prefixable : Bool)
    (aliases : List String) : Except CatalogFault (UnitRecord K) :=
  match Family.ofName? family with
  | some family => .ok ⟨family, name, short, symbol, factor, prefixable, aliases⟩
  | none => .error (.unknownFamily family)

/-- Every spelling of the unit, once each. -/
def spellings (r : UnitRecord K) : List String :=
  (r.name :: r.short :: r.symbol :: r.aliases).eraseDups

/-- Whether a text is a word: letters only, and at least one. -/
def isWord (s : String) : Bool :=
  !s.isEmpty && s.toList.all Text.isLetter

variable [Scalar K]

/-- The unit a record describes. -/
def unit (r : UnitRecord K) : Unit K :=
  ⟨r.name, r.short, r.symbol, r.factor, r.family.name, r.family.dim⟩

/-- A record with a prefix. Of the aliases only words longer than the abbreviation take the
long name of the prefix; where the prefix has two short forms, both are spellings. -/
def prefixed (r : UnitRecord K) (p : MetricPrefix) : UnitRecord K where
  family := r.family
  name := p.name ++ r.name
  short := p.short ++ r.short
  symbol := p.symbol ++ r.symbol
  factor := Scalar.mul r.factor (Scalar.ofDecimal 1 p.power)
  prefixable := false
  aliases :=
    let words := r.aliases.filter fun a => isWord a && r.short.length < a.length
    words.map (p.name ++ ·) ++ (if p.symbol = p.short then [] else [p.short ++ r.symbol])

/-- A record, followed by its prefixed forms if it takes prefixes. -/
def expand (r : UnitRecord K) : List (UnitRecord K) :=
  if r.prefixable then r :: MetricPrefix.all.map r.prefixed else [r]

/-- All records with their prefixed forms. -/
def expandAll (records : List (UnitRecord K)) : List (UnitRecord K) :=
  records.flatMap expand

end UnitRecord

end UnitCalc
