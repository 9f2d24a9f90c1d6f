/-!
# Public names

The calculator is used from programs through two name spaces: one for evaluating expressions,
and one for the registry of units. Each has a list of names that it offers, and some more
names that can be looked up; a name has a kind.
-/

namespace UnitCalc

/-- A name space: its own name, the names it offers, and the kinds of all its names. -/
structure NameSpace where
  name : String
  offered : List String
  kinds : List (String × String)
deriving Repr, DecidableEq

namespace NameSpace

/-- The names that every name space has. -/
def commonKinds : List (String × String) := [
  ("__name__", "str"), ("__doc__", "str"), ("__package__", "str"), ("__file__", "str"),
  ("__cached__", "str"), ("__path__", "list"), ("__builtins__", "dict"),
  ("__spec__", "ModuleSpec"), ("__loader__", "SourceFileLoader"), ("__all__", "list"),
  ("__getattr__", "function"), ("__dir__", "function"), ("TYPE_CHECKING", "bool"),
  ("Any", "_AnyMeta")]

/-- The name space for evaluating expressions. -/
def calculator : NameSpace where
  name := "dimcalc"
  offered := ["__version__", "evaluate", "u"]
  kinds := [
    ("__version__", "str"), ("evaluate", "function"), ("u", "UnitNamespace"),
    ("_metadata", "module"), ("core", "module"), ("equation", "module"),
    ("errors", "module"), ("units", "module")] ++ commonKinds

/-- The name space of the registry of units. -/
def units : NameSpace where
  name := "dimcalc.units"
  offered := ["u", "DEFAULT_REGISTRY", "UnitsRegistry", "UnitNamespace", "normalize_symbol"]
  kinds := [
    ("u", "UnitNamespace"), ("DEFAULT_REGISTRY", "UnitsRegistry"), ("UnitsRegistry", "type"),
    ("UnitNamespace", "type"), ("normalize_symbol", "function"), ("lru_cache", "function"),
    ("_REGISTRY_NAMES", "tuple"), ("_default_namespace", "_lru_cache_wrapper"),
    ("catalog", "module"), ("registry", "module")] ++ commonKinds

/-- The name space with a given name. -/
def ofName? (name : String) : Option NameSpace :=
  [calculator, units].find? (·.name == name)

/-- The kind of a name. -/
def kind? (space : NameSpace) (name : String) : Option String :=
  space.kinds.lookup name

/-- Whether a name is listed. -/
def lists (space : NameSpace) (name : String) : Bool :=
  (space.kind? name).isSome

/-- What is said of a name that is not there. -/
def missingMessage (space : NameSpace) (name : String) : String :=
  s!"module '{space.name}' has no attribute '{name}'"

end NameSpace

end UnitCalc
