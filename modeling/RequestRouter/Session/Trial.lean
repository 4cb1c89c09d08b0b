import RequestRouter.Sample.Users
import RequestRouter.Session.Step

/-!
# Trials

Single parts of the library at work: slots that are resolved, calls that are prepared and made,
registries and routes that steps are made on. Each trial defines what it needs first, in a fixed
order.
-/

namespace RequestRouter

/-- The registry of given classes under their own names. -/
def registryOf (classes : List Class) : Action Registry :=
  classes.foldlM (fun registry c => Action.ofExcept (registry.register c none)) []

def SupplyPlan.lookup (plan : SupplyPlan) : Action (Option Lookup) :=
  return (← plan.define).map Supply.lookup

/-! ## Slots -/

/-- The slots of described parameters, whose text type hints are left as they are. -/
def slotsOfPlans (plans : List FormalPlan) : Action (List Slot) :=
  plans.mapM fun plan => return Slot.ofFormal (← plan.define)

def tryResolveAll (plans : List FormalPlan) (supply : SupplyPlan)
    (values : Entries String String) : Action Arguments := do
  let lookup ← supply.lookup
  resolveAll lookup values (← slotsOfPlans plans)

/-- Resolves described parameters one by one, keeping the outcome of each. -/
def tryResolveEach (plans : List FormalPlan) (supply : SupplyPlan)
    (values : Entries String String) : Action (List (Except Fault Value)) := do
  let lookup ← supply.lookup
  (← slotsOfPlans plans).mapM fun slot => Action.attempt (slot.resolve lookup values)

/-- The slots of a described handler, or of a method of an instance that it makes. -/
def tryInspect (classes : List ClassPlan) (handler : HandlerPlan) (method : Option String) :
    Action (List Slot) := do
  defineClasses classes
  let target := (← handler.define).held
  match target, method with
  | .type c, some method => do
    let made ← c.construct [] []
    (← c.attributeOf made method).slots
  | target, _ => target.slots

/-! ## Handlers and calls -/

structure CallReport where
  arguments : Arguments
  result : Except Fault Value

def tryPrepare (handler : HandlerPlan) (supply : SupplyPlan) (controllers : Option (List ClassPlan))
    (values : Entries String String) : Action CallReport := do
  let registry ← controllers.mapM fun plans => do registryOf (← plans.mapM ClassPlan.define)
  let lookup ← supply.lookup
  let ref ← Action.ofExcept (HandlerRef.ofTarget (← handler.define))
  let prepared ← ref.prepare values lookup registry
  let result ← Action.attempt prepared.call
  return ⟨prepared.arguments, result.map Returned.view⟩

/-- The reference to a described handler, and whether it was described as one. -/
def tryReference (handler : HandlerPlan) : Action (HandlerRef × Bool) := do
  let target ← handler.define
  let ref ← Action.ofExcept (HandlerRef.ofTarget target)
  return (ref, match target with
    | .ref _ => true
    | .callee _ => false)

/-! ## Faults -/

structure FaultPlan where
  kind : FaultKind
  arguments : List Recipe

def FaultPlan.state (plan : FaultPlan) : Action Fault := do
  Action.ofExcept (Fault.stating plan.kind (← Recipe.buildAll plan.arguments))

/-- States a fault, and another one if it is described. -/
def tryFaults (first : FaultPlan) (second : Option FaultPlan) : Action (Fault × Option Fault) := do
  let first ← first.state
  return (first, ← second.mapM FaultPlan.state)

/-! ## Registries -/

inductive RegistryStep
  | register (handle : String) (name : Option String)
  | lookup (name : String)
  | resolve (typeName methodName : String)
  | contains (name : Recipe)
  | names
  | size

inductive RegistryReply
  | type (c : Option Class)
  | method (c : Class) (name : String)
  | truth (b : Bool)
  | names (names : List String)
  | size (n : Nat)

def RegistryStep.run (step : RegistryStep) : Action RegistryReply := do
  let registry := (← get).router.controllers
  match step with
  | .register handle name => do
    let c ← Action.classNamed handle
    let controllers ← Action.ofExcept (registry.register c name)
    modifyRouter fun router => { router with controllers }
    return .type (some c)
  | .lookup name => return .type (registry.lookup name)
  | .resolve typeName methodName => do
    return .method (← registry.resolve typeName methodName) methodName
  | .contains name => return .truth (registry.contains (← name.build))
  | .names => return .names (Registry.names registry)
  | .size => return .size registry.length

def tryRegistry (classes : List ClassPlan) (steps : List RegistryStep) :
    Action (List (Except Fault RegistryReply)) := do
  defineClasses classes
  steps.mapM fun step => Action.attempt step.run

/-- Makes steps on a new container and keeps the outcome of each. -/
def tryContainer (steps : List ContainerStep) : Action (List (Except Fault Value)) := do
  modifyContainer fun _ => {}
  steps.mapM fun step => Action.attempt step.run

/-! ## Routes -/

structure RouteDescription where
  methods : List String := []
  pattern : String
  handler : HandlerPlan
  name : Option String := none
  defaultFragment : String := String.ofList RequestRouter.defaultFragment
  strict : Bool := true

def RouteDescription.make (description : RouteDescription) : Action Route := do
  let handler ← description.handler.define
  Action.ofExcept (Route.make
    { methods := description.methods, pattern := description.pattern, handler,
      name := description.name, defaultFragment := description.defaultFragment,
      strict := description.strict })

inductive RouteStep
  | accepts (method path : String)
  | extract (path : String)
  | invoke (method path : String)
  | ainvoke (method path : String)

inductive RouteReply
  | truth (b : Bool)
  | values (values : Entries String String)
  | value (v : Value)

def RouteStep.run (step : RouteStep) (route : Route) (lookup : Option Lookup)
    (registry : Option Registry) : Action RouteReply :=
  match step with
  | .accepts method path => return .truth (← Action.ofExcept (route.accepts method path))
  | .extract path => return .values (← Action.ofExcept (route.extract path))
  | .invoke method path => return .value (← route.invoke method path lookup registry)
  | .ainvoke method path => return .value (← route.ainvoke method path lookup registry)

/-- Makes a route and steps on it, and keeps the outcome of each. -/
def tryRoute (classes : List ClassPlan) (controllers : Option (List String)) (supply : SupplyPlan)
    (description : RouteDescription) (steps : List RouteStep) :
    Action (Route × List (Except Fault RouteReply)) := do
  defineClasses classes
  let registry ← controllers.mapM fun names => do registryOf (← names.mapM Action.classNamed)
  let lookup ← supply.lookup
  let route ← description.make
  let outcomes ← steps.mapM fun step => Action.attempt (step.run route lookup registry)
  return (route, outcomes)

def tryRoutes (first second : RouteDescription) : Action (Route × Route) := do
  let first ← first.make
  return (first, ← second.make)

/-! ## Routers -/

def tryRouter (classes : List ClassPlan) (config : Config) (supply : SupplyPlan)
    (steps : List Step) : Action (List StepOutcome) := do
  defineClasses classes
  let config ← Action.ofExcept config.check
  let supply ← supply.define
  modifyRouter fun _ => .ofConfig config supply []
  liftM (Step.runAll steps)

/-- Starts the application for users and runs steps on its router. -/
def tryUsers (steps : List Step) : Action (List StepOutcome) := do
  Users.start
  liftM (Step.runAll steps)

end RequestRouter
