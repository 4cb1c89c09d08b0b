import RequestRouter.Handler.Reference
import RequestRouter.Pattern.Extract

/-!
# Routes

A route is compiled once, when it is made. Its methods are a set, kept sorted and without
repetitions; the empty set accepts every method.
-/

namespace RequestRouter

/-- What a route is made from. -/
structure RoutePlan where
  methods : List String := []
  pattern : String
  handler : Target
  name : Option String := none
  defaultFragment : String := String.ofList RequestRouter.defaultFragment
  strict : Bool := true

structure Route where
  methods : List String
  handler : HandlerRef
  name : Option String
  defaultFragment : String
  strict : Bool
  compiled : CompiledPattern

/-- A set of methods, sorted and without repetitions. -/
def methodSet (methods : List String) : List String :=
  methods.eraseDups.mergeSort fun a b => decide (a ≤ b)

namespace Route

/-- Makes a route: first its handler reference is read, then its pattern is compiled. -/
def make (plan : RoutePlan) : Except Fault Route := do
  let handler ← HandlerRef.ofTarget plan.handler
  match CompiledPattern.compile plan.pattern.toList plan.defaultFragment.toList plan.strict with
  | .error error => .error (.ofCompileError error)
  | .ok compiled =>
    .ok ⟨methodSet plan.methods, handler, plan.name, plan.defaultFragment, plan.strict, compiled⟩

def pattern (route : Route) : String := String.ofList route.compiled.pattern

def expression (route : Route) : String := String.ofList route.compiled.expression

def parameters (route : Route) : List Parameter := route.compiled.parameters

def accepts (route : Route) (method path : String) : Except Fault Bool :=
  (route.compiled.accepts route.methods method path.toList).mapError .ofMatchFault

def extract (route : Route) (path : String) : Except Fault (Entries String String) :=
  match route.compiled.extract path.toList with
  | .error fault => .error (.ofMatchFault fault)
  | .ok values => .ok (values.map fun (name, value) => (String.ofList name, String.ofList value))

/-- The methods as they are listed, a star standing for all of them. -/
def methodsText (route : Route) (separator : String) : String :=
  if route.methods.isEmpty then "*" else separator.intercalate route.methods

/-- Two routes agree in pattern, expression and parameters. -/
def sameCompiled (a b : Route) : Bool :=
  a.compiled.pattern == b.compiled.pattern && a.compiled.expression == b.compiled.expression &&
    a.compiled.parameters == b.compiled.parameters

/-- Two routes are equal: what they were made from agrees. -/
def equals (a b : Route) : Bool :=
  a.methods == b.methods && a.pattern == b.pattern && a.handler.same b.handler &&
    a.name == b.name && a.defaultFragment == b.defaultFragment && a.strict == b.strict

end Route

end RequestRouter
