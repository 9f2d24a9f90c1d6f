import UnitCalc.Catalog.Record

/-!
# The default catalog

The units that the calculator knows. Factors are given as decimals.
-/

namespace UnitCalc.Catalog

variable {K : Type} [Scalar K]

/-- A record with the factor `digits * 10 ^ exponent`. -/
def record (family : Family) (name short symbol : String) (digits : Nat) (exponent : Int)
    (prefixable : Bool) (aliases : List String) : UnitRecord K :=
  ⟨family, name, short, symbol, Scalar.ofDecimal digits exponent, prefixable, aliases⟩

/-- The units of the catalog before their prefixes are expanded. -/
def records : List (UnitRecord K) := [
  record .length "meter" "m" "m" 1 0 true ["metre", "meters", "metres"],
  record .length "inch" "in" "in" 254 (-4) false ["inches", "″"],
  record .length "foot" "ft" "ft" 3048 (-4) false ["feet", "′"],
  record .length "yard" "yd" "yd" 9144 (-4) false ["yards"],
  record .length "mile" "mi" "mi" 1609344 (-3) false ["miles"],
  record .mass "gram" "g" "g" 1 (-3) true ["gramme", "grams", "grammes"],
  record .mass "tonne" "t" "t" 1000 0 false ["tonnes"],
  record .mass "pound" "lb" "lb" 45359237 (-8) false ["pounds", "lbs"],
  record .mass "ounce" "oz" "oz" 28349523125 (-12) false ["ounces"],
  record .time "second" "s" "s" 1 0 true ["seconds", "sec"],
  record .time "minute" "min" "min" 60 0 false ["minutes", "mins"],
  record .time "hour" "hr" "h" 3600 0 false ["hours", "hrs"],
  record .time "day" "d" "d" 86400 0 false ["days"],
  record .time "week" "wk" "wk" 604800 0 false ["weeks"],
  record .frequency "hertz" "Hz" "Hz" 1 0 true [],
  record .volume "liter" "L" "L" 1 (-3) true ["litre", "liters", "litres"],
  record .force "newton" "N" "N" 1 0 true ["newtons"],
  record .force "dyne" "dyn" "dyn" 1 (-5) false ["dynes"],
  record .force "poundforce" "lbf" "lbf" 44482216152605 (-13) false [],
  record .pressure "pascal" "Pa" "Pa" 1 0 true ["pascals"],
  record .pressure "bar" "bar" "bar" 1 5 true ["bars"],
  record .pressure "atmosphere" "atm" "atm" 101325 0 false ["atmospheres"],
  record .pressure "psi" "psi" "psi" 6894757293168361 (-12) false [],
  record .energy "joule" "J" "J" 1 0 true ["joules"],
  record .energy "calorie" "cal" "cal" 4184 (-3) true ["calories"],
  record .power "watt" "W" "W" 1 0 true ["watts"],
  record .power "horsepower" "hp" "hp" 7456998715822702 (-13) false []]

/-- The units of the catalog with all their prefixed forms. -/
def units : List (UnitRecord K) :=
  UnitRecord.expandAll records

end UnitCalc.Catalog
