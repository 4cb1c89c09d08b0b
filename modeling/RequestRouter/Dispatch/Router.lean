import RequestRouter.Dispatch.Invoke

/-!
# Dispatching requests

The first lookup freezes the router of the world, whether it finds a route or not. The first route
that accepts a request answers it.
-/

namespace RequestRouter

/-- Freezes the router; the first time, this is logged. -/
def freezeRouter : Action Unit := do
  let router := (← get).router
  if !router.frozen then
    modifyRouter Router.freeze
    Action.log (.frozen router.routes.length)

/-- The first route that accepts a request, with its place. -/
def findRoute (method path : String) : Action (Nat × Route) := do
  freezeRouter
  match ← Action.ofExcept ((← get).router.first? method path) with
  | some found => return found
  | none =>
    Action.log (.unmatched method path)
    throw (.noRoute method path)

/-- What a request that a route accepts leads to: the route with its place, and the values of its
parameters. -/
structure RouteMatch where
  place : Nat
  route : Route
  values : Entries String String

/-- The match of a request with the first route that accepts it. -/
def matchRoute (method path : String) : Action RouteMatch := do
  let (place, route) ← findRoute method path
  return { place, route, values := ← Action.ofExcept (route.extract path) }

def routerLookup : Action (Option Lookup) := return (← get).router.supply.map Supply.lookup

def dispatch (method path : String) : Action Value := do
  let (_, route) ← findRoute method path
  let lookup ← routerLookup
  route.invoke method path lookup (← get).router.controllers

/-- Answers a request, and waits for the answer. -/
def adispatch (method path : String) : Action Value := do
  let (_, route) ← findRoute method path
  let lookup ← routerLookup
  route.ainvoke method path lookup (← get).router.controllers

/-- A registration of a route that waits for its handlers. -/
structure Decorator where
  methods : List String
  pattern : String
  name : Option String
  deriving DecidableEq, Repr

namespace Decorator

/-- Makes a decorator. Its methods are looked at now, everything else when it is applied. -/
def make (pattern : String) (methods : Methods) (name : Option String) :
    Except Fault Decorator := do
  return { methods := ← methods.check, pattern, name }

def apply (decorator : Decorator) (handler : Target) : Action Route :=
  registerRoute (.names decorator.methods) decorator.pattern handler decorator.name

end Decorator

/-- Runs a part of a session inside a group: the base pattern is longer in it and restored after
it. -/
def insideGroup {α : Type} (extension : String) (part : StateM World α) : StateM World α := do
  let base := (← get).router.base
  modify fun world => { world with router := world.router.enter extension }
  let result ← part
  modify fun world => { world with router := world.router.setBase base }
  return result

/-- After a group the base pattern is what it was before, whatever the group did. -/
theorem base_insideGroup {α : Type} (extension : String) (part : StateM World α) (world : World) :
    ((insideGroup extension part).run world).2.router.base = world.router.base := rfl

/-- Runs an action inside a group, which it leaves however it ends. -/
def inGroup {α : Type} (extension : String) (action : Action α) : Action α :=
  ExceptT.mk (insideGroup extension action.run)

end RequestRouter
