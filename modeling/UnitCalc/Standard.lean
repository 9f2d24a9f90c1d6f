import UnitCalc.Calculator
import UnitCalc.Number.Double

/-!
# The standard calculator

The calculator as it runs: on doubles, with the units of the default catalog.
-/

namespace UnitCalc

/-- The registry of the default catalog, on doubles. -/
def standardRegistry : Registry Float := Registry.default

end UnitCalc
