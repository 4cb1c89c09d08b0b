import RequestRouter.Handler.Reference
import RequestRouter.Routing.Router
import RequestRouter.Service.Container

/-!
# Plans

Functions, classes, services and handlers as they are described before they are defined. A plan
names classes, and says by recipes how values are made.
-/

namespace RequestRouter

/-- How a type hint refers to a class. -/
inductive ClassRef
  | known (c : Class)
  | named (name : String)

abbrev FormalPlan := Formal ClassRef Recipe

/-- A described function. Functions with one key are defined once. -/
structure FunctionPlan where
  name : String := "handler"
  qualname : Option String := none
  isAsync : Bool := false
  formals : List FormalPlan := []
  script : Script := .echo
  key : Option String := none

structure MethodPlan where
  function : FunctionPlan
  /-- It takes no receiver. -/
  isStatic : Bool := false

structure ClassPlan where
  /-- The name it is referred to by, if not by its own. -/
  handle : Option String := none
  name : String
  qualname : Option String := none
  base : Option String := none
  init : Option (List FormalPlan) := none
  /-- The fault that its constructor ends with. -/
  failure : Option (FaultKind × List Recipe) := none
  methods : List MethodPlan := []
  attributes : List (String × Recipe) := []

inductive HandlerPlan
  /-- A value passed as it is. -/
  | value (recipe : Recipe)
  /-- A reference to a method of a controller. -/
  | bound (typeName methodName : String)
  /-- A reference to what another plan describes. -/
  | free (handler : HandlerPlan)
  | type (name : String)
  /-- An object that can be called. -/
  | object (label : String) (script : Script)
  | function (plan : FunctionPlan)
  deriving Inhabited

inductive KeyPlan
  | text (key : String)
  | type (name : String)

inductive ContainerStep
  | bind (key : KeyPlan) (value : Recipe)
  | provide (key : KeyPlan) (factory : Factory)
  | ask (key : KeyPlan)
  | fetch (key : KeyPlan)
  | contains (key : Recipe)
  | size
  | isLookup

inductive SupplyPlan
  | nothing
  | container (steps : List ContainerStep)
  | recording (entries : List (KeyPlan × Recipe))

/-- A class that is defined now, or one that has been. -/
inductive ClassChoice
  | fresh (plan : ClassPlan)
  | known (name : String)

end RequestRouter
