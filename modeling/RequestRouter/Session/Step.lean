import RequestRouter.Message.Request
import RequestRouter.Session.Define
import RequestRouter.Session.Operation

/-!
# Steps of a session

A session is a list of steps on the router of the world: operations, for which handlers and classes
are defined on the way, and steps on the services. A step succeeds with a reply or fails with a
fault; either way the state of the router after it is kept. A group is a step that holds steps:
the first of them that fails ends the group.
-/

namespace RequestRouter

/-- Where a request goes. -/
inductive Destination
  | path (path : String)
  | url (url : String)

/-- A step other than a group. -/
inductive Deed
  | map (methods : Methods) (pattern : String) (handler : HandlerPlan) (name : Option String)
  | verb (word : Verb) (pattern : String) (handler : HandlerPlan) (name : Option String)
  /-- One registration that is applied to several handlers. -/
  | decorate (pattern : String) (methods : Option Methods) (name : Option String)
      (handlers : List HandlerPlan)
  | controller (c : ClassChoice) (name : Option String)
  /-- Registers a class with the registry itself, which may be done at any time. -/
  | enroll (c : ClassChoice) (name : Option String)
  | controllers
  | setBase (value : String)
  | freeze
  | routes
  | service (step : ContainerStep)
  | request (form : LookupForm) (method : String) (destination : Destination)
  deriving Inhabited

inductive Step
  | deed (what : Deed)
  | group (extension : String) (steps : List Step)
  deriving Inhabited

/-- What shows of a router: whether it is frozen, its base pattern and its number of routes. -/
structure RouterState where
  frozen : Bool
  base : String
  routes : Nat
  deriving DecidableEq, Repr

/-- The outcome of a step, with the state of the router after it. -/
inductive StepOutcome
  | done (reply : Reply) (state : RouterState)
  | failed (fault : Fault) (state : RouterState)
  /-- The outcomes of the steps that a group came to. -/
  | group (outcomes : List StepOutcome) (state : RouterState)

mutual

/-- What is said about the failure of a step, if it failed; a group fails with its last step. -/
def StepOutcome.failure? : StepOutcome → Option String
  | .done .. => none
  | .failed fault _ => some fault.message
  | .group outcomes _ => lastFailure? outcomes

/-- What is said about the failure of the last of several steps. -/
def StepOutcome.lastFailure? : List StepOutcome → Option String
  | [] => none
  | [outcome] => outcome.failure?
  | _ :: outcomes => lastFailure? outcomes

end

/-- What shows of a router. -/
def Router.state (router : Router) : RouterState :=
  ⟨router.frozen, router.base, router.routes.length⟩

def Destination.pathFor (method : String) : Destination → Action String
  | .path p => return p
  | .url u =>
    match Request.ofUrl method u [] with
    | .ok request => return request.path
    | .error fault => throw (.address fault)

def Deed.run : Deed → Action Reply
  | .map methods pattern handler name => do
    (Operation.map methods pattern (← handler.define) name).run
  | .verb word pattern handler name => do
    (Operation.verb word pattern (← handler.define) name).run
  | .decorate pattern methods name handlers => do
    let methods := methods.getD (.names ["GET"])
    let decorator ← Action.ofExcept (Decorator.make pattern methods name)
    let applied ← handlers.mapM fun handler => do
      let _ ← (Operation.decorate decorator (← handler.define)).run
      return true
    return .truths applied
  | .controller c name => do (Operation.controller (← c.define) name).run
  | .enroll c name => do
    enrollController (← c.define) name
    return .truth true
  | .controllers => return .controllers (← get).router.controllers.names
  | .setBase value => (Operation.setBase value).run
  | .freeze => Operation.freeze.run
  | .routes => return .routes (← get).router.routes
  | .service step => do return .value (← step.runOn (← get).router.supply)
  | .request form method destination => do
    (Operation.lookUp form method (← destination.pathFor method)).run

def routerState : StateM World RouterState := return (← get).router.state

mutual

def Step.run : Step → StateM World StepOutcome
  | .deed what => do
    match ← what.run.run with
    | .ok reply => return .done reply (← routerState)
    | .error fault => return .failed fault (← routerState)
  | .group extension steps => do
    let outcomes ← insideGroup extension (runUntilFailure steps)
    return .group outcomes (← routerState)

/-- Runs steps up to the first that fails. -/
def Step.runUntilFailure : List Step → StateM World (List StepOutcome)
  | [] => return []
  | step :: steps => do
    let outcome ← step.run
    if outcome.failure?.isSome then return [outcome]
    return outcome :: (← runUntilFailure steps)

end

/-- Runs steps, whether they fail or not. -/
def Step.runAll (steps : List Step) : StateM World (List StepOutcome) := steps.mapM Step.run

end RequestRouter
