import RequestRouter.Hint.Formed
import RequestRouter.Session.Plan
import RequestRouter.Service.Lookup

/-!
# Defining what plans describe

Defining gives functions and classes their numbers and makes their defaults and attributes, in the
order in which they are described.
-/

namespace RequestRouter

def ClassRef.find? (world : World) : ClassRef → Option Class
  | .known c => some c
  | .named name => world.scope.get? name

/-- The fault of a type hint that refers to a class that has not been defined. -/
def missingClass : Fault := .stated .key [.text "class"]

def defineHint (plan : TypeHint ClassRef) : Action (TypeHint Class) := do
  match plan.resolve? (ClassRef.find? (← get)) with
  | some hint => Action.ofExcept (hint.formed.mapError .hint)
  | none => throw missingClass

def FormalPlan.define (plan : FormalPlan) : Action (Formal Class Value) := do
  let hint ← plan.hint.mapM defineHint
  let default ← plan.default.mapM Recipe.build
  return { name := plan.name, hint, default, passing := plan.passing }

/-- The number of the next function. -/
def nextFunctionNumber : Action Nat := do
  let number := (← get).nextFunction
  modify fun world => { world with nextFunction := number + 1 }
  return number

def FunctionPlan.defineNew (plan : FunctionPlan) : Action Function := do
  let formals ← plan.formals.mapM FormalPlan.define
  return { number := ← nextFunctionNumber, name := plan.name,
           qualname := plan.qualname.getD plan.name, isAsync := plan.isAsync, formals,
           script := plan.script }

/-- Defines a function, or finds the one defined under the same key. -/
def FunctionPlan.define (plan : FunctionPlan) : Action Function := do
  match plan.key with
  | none => plan.defineNew
  | some key =>
    match (← get).shared.get? key with
    | some f => return f
    | none =>
      let f ← plan.defineNew
      modify fun world => { world with shared := world.shared.put key f }
      return f

def MethodPlan.define (plan : MethodPlan) : Action (String × Attribute) := do
  let f ← plan.function.define
  return (plan.function.name, if plan.isStatic then .free f else .method f)

def defineAttribute (entry : String × Recipe) : Action (String × Attribute) := do
  return (entry.1, .value (← entry.2.build))

/-- The constructor that a plan describes, if it describes one. The arguments are kept. -/
def ClassPlan.defineConstructor (plan : ClassPlan) (qualname : String) :
    Action (Option Constructor) := do
  if plan.init.isNone && plan.failure.isNone then return none
  let formals ← (plan.init.getD []).mapM FormalPlan.define
  let making : Making ← match plan.failure with
    | none => pure (.keeping .ok)
    | some (kind, arguments) => do
      pure (.failing (.ofArguments kind (← Recipe.buildAll arguments)))
  return some (.taking qualname formals making)

def ClassPlan.define (plan : ClassPlan) : Action Class := do
  let qualname := plan.qualname.getD plan.name
  let base ← plan.base.mapM Action.classNamed
  let baseBody ← base.mapM Action.bodyOf
  let constructor ← plan.defineConstructor qualname
  let methods ← plan.methods.mapM MethodPlan.define
  let attributes ← plan.attributes.mapM defineAttribute
  let body := (baseBody.getD .empty).descend constructor (methods ++ attributes)
  let c : Class :=
    { number := (← get).nextClass, home := "shop", name := plan.name, qualname,
      lineage := (base.map fun b => b.number :: b.lineage).getD [],
      ofContract := (base.map (·.ofContract)).getD false,
      members := body.attributes.map (·.1), fields := (base.map (·.fields)).getD [] }
  modify fun world =>
    { world with
      nextClass := world.nextClass + 1, bodies := world.bodies.put c.number body,
      scope := world.scope.put (plan.handle.getD plan.name) c }
  return c

def ClassChoice.define : ClassChoice → Action Class
  | .fresh plan => plan.define
  | .known name => Action.classNamed name

def objectFormals : List (Formal Class Value) :=
  [{ name := "id" }, { name := "tab", default := some (.text "none") }]

def Target.held : Target → Callee
  | .callee held => held
  | .ref (.free held) => held
  | .ref other => .value (.text other.displayName)

def HandlerPlan.define : HandlerPlan → Action Target
  | .value recipe => return .callee (.value (← recipe.build))
  | .bound typeName methodName => return .ref (.method typeName methodName)
  | .free handler => return .ref (.free (← handler.define).held)
  | .type name => return .callee (.type (← Action.classNamed name))
  | .object label script => do
    let f : Function :=
      { number := ← nextFunctionNumber, name := label, qualname := "CallableObject.__call__",
        formals := objectFormals, script }
    return .callee (.object label f)
  | .function plan => return .callee (.function (← plan.define))

def KeyPlan.define : KeyPlan → Action ServiceKey
  | .text key => return .text key
  | .type name => return .type (← Action.classNamed name)

def modifyContainer (change : Container → Container) : Action Unit :=
  modify fun world => { world with container := change world.container }

def ContainerStep.run : ContainerStep → Action Value
  | .bind key recipe => do
    let key ← key.define
    let value ← recipe.build
    modifyContainer (·.bind key value)
    return .null
  | .provide key factory => do
    let key ← key.define
    modifyContainer (·.provide key factory)
    return .null
  | .ask key => return .bool ((← get).container.has (← key.define))
  | .fetch key => do Container.get (← key.define)
  | .contains recipe => return .bool ((← get).container.contains (← recipe.build))
  | .size => return .int (← get).container.size
  | .isLookup => return .bool true

/-- Refuses a step on a value of a class that is no container. -/
def ContainerStep.refuse (typeName : String) : ContainerStep → Action Value
  | .bind .. => throw (.misuse (.noAttribute typeName "bind"))
  | .provide .. => throw (.misuse (.noAttribute typeName "provide"))
  | .ask _ => throw (.misuse (.noAttribute typeName "has"))
  | .fetch _ => throw (.misuse (.noAttribute typeName "get"))
  | .contains _ => throw (.misuse (.notIterable typeName))
  | .size => throw (.misuse (.noLength typeName))
  | .isLookup => return .bool false

/-- Makes a step on the services of a router. Only a container takes every step; a recording table
can be asked, and where there are no services nothing can. -/
def ContainerStep.runOn (step : ContainerStep) : Option Supply → Action Value
  | some .container => step.run
  | some (.recording table) =>
    let lookup := (Supply.recording table).lookup
    match step with
    | .ask key => do return .bool (← lookup.has (← key.define).normal)
    | .fetch key => do lookup.get (← key.define).normal
    | .isLookup => return .bool true
    | step => step.refuse "Recording"
  | none => step.refuse "NoneType"

/-- Defines services. A container is made afresh. -/
def SupplyPlan.define : SupplyPlan → Action (Option Supply)
  | .nothing => return none
  | .container steps => do
    modifyContainer fun _ => {}
    for step in steps do
      let _ ← step.run
    return some .container
  | .recording entries => do
    let entries ← entries.mapM fun (key, recipe) => do
      return ((← key.define).normal, ← recipe.build)
    return some (.recording (Entries.ofPairs entries))

def defineClasses (plans : List ClassPlan) : Action Unit :=
  plans.forM fun plan => do
    let _ ← plan.define

end RequestRouter
