import UnitCalc.Directory
import UnitCalc.Main
import UnitCalc.Proofs.Calculator.Fitting
import UnitCalc.Proofs.Calculator.LoneNumeral
import UnitCalc.Proofs.Calculator.Respaced
import UnitCalc.Proofs.Calculator.Spacing
import UnitCalc.Proofs.Calculator.Spelling
import UnitCalc.Proofs.Calculator.Unreported
import UnitCalc.Proofs.Console.Prompt
import UnitCalc.Proofs.Evaluator.Context
import UnitCalc.Proofs.Exact.Order
import UnitCalc.Proofs.Exact.Rescaling
import UnitCalc.Proofs.Exact.TypedUnits
import UnitCalc.Proofs.Parser.Precedence
import UnitCalc.Proofs.Parser.Viable
import UnitCalc.Proofs.Quantity.UnitsText
import UnitCalc.Proofs.Registry.Keys
import UnitCalc.Proofs.Registry.Prefixes
import UnitCalc.Script.Run
