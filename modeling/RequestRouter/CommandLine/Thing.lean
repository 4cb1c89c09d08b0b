import RequestRouter.Argument.Prepare
import RequestRouter.CommandLine.Environment
import RequestRouter.Sample.Users
import RequestRouter.Session.Step

/-!
# Things in modules

A module holds things: routers, values, functions that make things, and applications that hold more
of them. A thing is described before it is made, and one that a function makes is made at each call.
-/

namespace RequestRouter

mutual

inductive ThingPlan
  | router (config : Config) (supply : SupplyPlan) (steps : List Step)
  | value (recipe : Recipe)
  | factory (body : FactoryBody)
  /-- An object with attributes, which may also be called. -/
  | application (attributes : List (String × ThingPlan)) (call : Option FactoryBody)
  deriving Inhabited

/-- What calling a factory does. -/
inductive FactoryBody
  | result (plan : ThingPlan)
  | fail (kind : FaultKind) (arguments : List Recipe)
  /-- It fails, because it needs an argument. -/
  | needsArgument
  deriving Inhabited

end

inductive Thing
  | router (router : Router)
  | value (v : Value)
  | callee (callee : Callee)
  | factory (body : FactoryBody)
  | application (attributes : List (String × Thing)) (call : Option FactoryBody)
  /-- A part of the library, with the class it is of. -/
  | part (typeName : String) (attributes : List (String × Thing))
  /-- A function of the library: what it is, its name, the arguments that it needs, and what it
  gives when it needs none. -/
  | routine (typeName name : String) (needed : List String) (result : Thing)

namespace Thing

def typeName : Thing → String
  | .router _ => "Router"
  | .value v => v.typeName
  | .callee c => c.typeName
  | .factory _ => "function"
  | .application _ none => "Application"
  | .application _ (some _) => "CallableApplication"
  | .part typeName _ => typeName
  | .routine typeName _ _ _ => typeName

def router? : Thing → Option Router
  | .router r => some r
  | _ => none

/-- A thing of no further interest, of a given class. -/
def bare (typeName : String) : Thing := .part typeName []

def text (s : String) : Thing := .value (.text s)

def method (owner name : String) (needed : List String) (result : Thing := .value .null) :
    String × Thing :=
  (name, .routine "method" (owner ++ "." ++ name) needed result)

def container : Thing :=
  .part "Container"
    [method "Container" "bind" ["key", "value"], method "Container" "provide" ["key", "factory"],
      method "Container" "has" ["key"], method "Container" "get" ["key"]]

def registry : Thing :=
  .part "ControllerRegistry"
    [method "ControllerRegistry" "register" ["cls"],
      method "ControllerRegistry" "lookup" ["type_name"],
      method "ControllerRegistry" "resolve" ["ref"]]

def ofConfig (config : Config) : Thing :=
  .part "RouterConfig"
    [("base_pattern", text config.basePattern), ("default_fragment", text config.defaultFragment),
      ("strict_patterns", .value (.bool config.strictPatterns))]

def ofSupply : Option Supply → Thing
  | none => .value .null
  | some .container => container
  | some (.recording _) => bare "Recording"

def routerAttributes (r : Router) : List (String × Thing) :=
  [("config", ofConfig r.config), ("services", ofSupply r.supply), ("controllers", registry),
    ("routes", bare "tuple"), ("base_pattern", text r.base), ("frozen", .value (.bool r.frozen)),
    method "Router" "map" ["methods", "pattern", "handler"], method "Router" "route" ["pattern"],
    method "Router" "controller" [] (bare "function"), method "Router" "group" ["prefix"],
    method "Router" "compile" [], method "Router" "find" ["request"],
    method "Router" "match" ["method", "path"], method "Router" "dispatch" ["request"],
    method "Router" "adispatch" ["request"]] ++
  Verb.all.map fun verb => method "Router" verb.word ["pattern", "handler"]

end Thing

mutual

def ThingPlan.build : ThingPlan → Action Thing
  | .router config supply steps => do
    let config ← Action.ofExcept config.check
    let supply ← supply.define
    modifyRouter fun _ => .ofConfig config supply []
    let _ ← liftM (Step.runAll steps)
    return .router (← get).router
  | .value recipe => return .value (← recipe.build)
  | .factory body => return .factory body
  | .application attributes call => return .application (← buildEntries attributes) call

/-- Makes named things, in order. -/
def ThingPlan.buildEntries : List (String × ThingPlan) → Action (List (String × Thing))
  | [] => return []
  | (name, plan) :: rest => do
    let thing ← build plan
    return (name, thing) :: (← buildEntries rest)

end

def FactoryBody.run : FactoryBody → Action Thing
  | .result plan => plan.build
  | .fail kind arguments => failWith kind arguments
  | .needsArgument => throw (.binding "factory" (.missing ["config"]))

namespace Thing

/-- A function seen from its class: its receiver is an argument like the others. -/
def unbound (f : Function) : Callee :=
  .function { f with formals := { name := "self" } :: f.formals }

def ofAttribute : Attribute → Thing
  | .method f => .callee (unbound f)
  | .free f => .callee (.function f)
  | .value v => .value v

def classAttribute (c : Class) (name : String) : Action Thing := do
  match (← Action.bodyOf c).attributes.get? name with
  | some found => return ofAttribute found
  | none => throw (.misuse (.noClassAttribute c.name name))

def among (typeName : String) (attributes : List (String × Thing)) (name : String) :
    Action Thing :=
  match attributes.lookup name with
  | some thing => return thing
  | none => throw (.misuse (.noAttribute typeName name))

def valueAttributes : Value → List (String × Thing)
  | .shape attributes => attributes.map fun (name, v) => (name, .value v)
  | .response r =>
    [("body", .value r.body), ("status", .value (.int r.status)),
      ("content_type", text r.contentType), ("headers", bare "tuple")]
  | _ => []

def attributeOf (thing : Thing) (name : String) : Action Thing :=
  match thing with
  | .router r => among thing.typeName (routerAttributes r) name
  | .callee (.type c) | .value (.type c) => classAttribute c name
  | .value v => among thing.typeName (valueAttributes v) name
  | .application attributes _ | .part _ attributes => among thing.typeName attributes name
  | .routine "type" owner _ _ => throw (.misuse (.noClassAttribute owner name))
  | thing => among thing.typeName [] name

/-- The value that a call returned, as a thing. -/
def ofReturned (returned : Returned) : Thing := .value returned.view

/-- What calling a thing without arguments does, if it can be called. -/
def call? : Thing → Option (Action Thing)
  | .callee c => some (return ofReturned (← c.call [] []))
  | .value (.type c) => some (return .value (← c.construct [] []))
  | .factory body | .application _ (some body) => some body.run
  | .routine typeName name needed result =>
    let callee := if typeName == "type" then name ++ ".__init__" else name
    some (if needed.isEmpty then return result else throw (.binding callee (.missing needed)))
  | _ => none

end Thing

/-! ## Modules -/

/-- Modules by name, with what they hold. -/
abbrev Modules := List (String × List (String × Thing))

def usersModule : String := "app"

/-- Starts the application for users and gives what its module holds. -/
def startUsers : Action (List (String × Thing)) := do
  Users.start
  let router := (← get).router
  return [("router", .router router), ("services", Thing.container),
    ("UserId", .callee (.type Users.userId)),
    ("UserRepository", .callee (.type Users.userRepository)),
    ("UserController", .callee (.type Users.userController)),
    ("hello", .callee (.function Users.helloFunction)),
    ("stats", .callee (.function Users.statsFunction)),
    ("Container", .routine "type" "Container" [] Thing.container),
    ("Router", .routine "type" "Router" [] (.router {})),
    ("Request", .routine "type" "Request" ["method", "path"] (.value .null)),
    ("Response", .routine "type" "Response" [] (.value (.response { body := .text "" })))]

/-- The module around a module: the name up to the last point, if there is one. -/
def parentName (name : String) : Option String :=
  let reversed := name.toList.reverse
  match reversed.dropWhile (· != '.') with
  | [] => none
  | _ :: rest => some (String.ofList rest.reverse)

/-- Why a module that is not there cannot be imported: the outermost module around it that is
missing, or the one that is there and holds no modules. The fuel bounds the nesting. -/
def importFault (known : String → Bool) : (fuel : Nat) → String → ImportFault
  | 0, name => .unknown name
  | fuel + 1, name =>
    match parentName name with
    | none => .unknown name
    | some parent =>
      if parent.isEmpty then .unknown name
      else if known parent then .notPackage name parent
      else importFault known fuel parent

def loadModule (modules : Modules) (name : String) : Action (List (String × Thing)) :=
  match modules.lookup name with
  | some things => return things
  | none =>
    if name == usersModule then startUsers
    else
      let known (other : String) := (modules.lookup other).isSome || other == usersModule
      throw (.importing (importFault known (name.length + 1) name))

/-- A module, or a thing that it leads to. -/
inductive Item
  | module (name : String) (things : List (String × Thing))
  | thing (thing : Thing)

def Modules.environment (modules : Modules) : Environment Item where
  load name := do return .module name (← loadModule modules name)
  member
    | .module module things, name =>
      match things.lookup name with
      | some thing => return .thing thing
      | none => throw (.misuse (.noModuleAttribute module name))
    | .thing thing, name => do return .thing (← thing.attributeOf name)
  call?
    | .module .. => none
    | .thing thing => thing.call?.map fun call => do return .thing (← call)
  router?
    | .module .. => none
    | .thing thing => thing.router?
  typeName
    | .module .. => "module"
    | .thing thing => thing.typeName

end RequestRouter
