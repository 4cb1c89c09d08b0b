import RequestRouter.Fault.Basic

/-!
# Public names

The names that the package offers at its top, each with the module that holds it.
-/

namespace RequestRouter.Public

def package : String := "distroute"

def version : String := "0.3.0"

/-- The public names and the modules, inside the package, that hold them. -/
def table : List (String × String) :=
  [("ArgumentResolver", "injection.resolver"), ("BoundMethod", "injection.handlers"),
    ("ConfigurationError", "errors"), ("Container", "injection.services"),
    ("ControllerRegistry", "injection.handlers"), ("DistrouteError", "errors"),
    ("FreeFunction", "injection.handlers"), ("HTTPError", "errors"),
    ("HandlerContractViolationError", "errors"), ("HandlerNotFoundError", "errors"),
    ("NoRouteMatchedError", "errors"), ("ParameterConversionError", "errors"),
    ("PatternSyntaxError", "errors"), ("Request", "http.request"), ("Response", "http.response"),
    ("Route", "routing.route"), ("RouteMatch", "routing.route"), ("Router", "routing.router"),
    ("RouterConfig", "config"), ("ServiceLookup", "injection.services"),
    ("ServiceNotFoundError", "errors"), ("compile_pattern", "routing.pattern")]

/-- What a name of the package stands for. -/
inductive Export
  /-- Something that a module defines under the same name. -/
  | definition (name module : String)
  | text (text : String)
  | names (names : List String)
  deriving DecidableEq, Repr

def find (name : String) : Except Fault Export :=
  if name == "__version__" then .ok (.text version)
  else if name == "__all__" then .ok (.names (table.map (·.1)))
  else match table.lookup name with
    | some module => .ok (.definition name (package ++ "." ++ module))
    | none => .error (.misuse (.noModuleAttribute package name))

end RequestRouter.Public
