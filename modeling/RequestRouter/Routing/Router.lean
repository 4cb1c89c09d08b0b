import RequestRouter.Fault.Basic
import RequestRouter.Routing.Registry
import RequestRouter.Routing.Route

/-!
# Routers

A router is an ordered list of routes with the controllers that their handlers may name. Routes are
registered first; the first lookup freezes the router, and from then on nothing can be registered.
Everything here is a function from routers to routers, so that a failed registration plainly leaves
the router as it was.
-/

namespace RequestRouter

/-! ## Configuration -/

/-- How the patterns of a router are compiled. -/
structure Config where
  /-- Prefix of every pattern registered outside of a group. -/
  basePattern : String := ""
  /-- Fragment of placeholders that give none. -/
  defaultFragment : String := String.ofList RequestRouter.defaultFragment
  /-- Malformed placeholders are refused. -/
  strictPatterns : Bool := true
  deriving DecidableEq, Repr

namespace Config

/-- A configuration, unless patterns are strict and the default fragment cannot stand in for a
placeholder. -/
def check (config : Config) : Except Fault Config :=
  if !config.strictPatterns then .ok config
  else match fragmentProblem config.defaultFragment.toList with
    | .error error => .error (.expression error)
    | .ok (some problem) =>
      .error (.configuration (.badFragment config.defaultFragment problem))
    | .ok none => .ok config

end Config

/-! ## Routers -/

/-- Where handlers find services: in the container, or in a table that records each question. -/
inductive Supply
  | container
  | recording (table : Entries String Value)

structure Router where
  config : Config := {}
  supply : Option Supply := none
  controllers : Registry := []
  routes : List Route := []
  /-- Prefix of the patterns that are registered from now on. -/
  base : String := ""
  frozen : Bool := false

/-- The methods given at registration: a collection of names, or one text, which is refused. -/
inductive Methods
  | names (all : List String)
  | text (all : String)
  deriving DecidableEq, Repr

/-- The names of the methods, unless they are given as one text. -/
def Methods.check : Methods → Except Fault (List String)
  | .names all => .ok all
  | .text all => .error (.configuration (.methodsText all))

namespace Router

/-- A router that has been given nothing but its configuration and its services. -/
def ofConfig (config : Config) (supply : Option Supply) (controllers : Registry) : Router :=
  { config, supply, controllers, base := config.basePattern }

/-- Nothing can be registered with a frozen router. -/
def checkOpen (router : Router) : Except Fault Unit :=
  if router.frozen then .error (.configuration .frozen) else .ok ()

/-- What a route for a pattern is made from under the present base pattern. -/
def plan (router : Router) (methods : List String) (pattern : String) (handler : Target)
    (name : Option String) : RoutePlan :=
  { methods, pattern := router.base ++ pattern, handler, name,
    defaultFragment := router.config.defaultFragment, strict := router.config.strictPatterns }

/-- Registers a route under the present base pattern. -/
def map (router : Router) (methods : Methods) (pattern : String) (handler : Target)
    (name : Option String) : Except Fault (Route × Router) := do
  router.checkOpen
  let methods ← methods.check
  let route ← Route.make (router.plan methods pattern handler name)
  return (route, { router with routes := router.routes ++ [route] })

def register (router : Router) (c : Class) (name : Option String) : Except Fault Router := do
  router.checkOpen
  return { router with controllers := ← router.controllers.register c name }

def setBase (router : Router) (base : String) : Router := { router with base }

def enter (router : Router) (extension : String) : Router :=
  router.setBase (router.base ++ extension)

def freeze (router : Router) : Router := { router with frozen := true }

/-- The first of some routes that accepts a request, with its place; they are asked in turn. -/
def firstOf (method path : String) :
    (place : Nat) → List Route → Except Fault (Option (Nat × Route))
  | _, [] => .ok none
  | place, route :: rest => do
    if ← route.accepts method path then return some (place, route)
    else firstOf method path (place + 1) rest

/-- The first route that accepts a request, with its place. -/
def first? (router : Router) (method path : String) : Except Fault (Option (Nat × Route)) :=
  firstOf method path 0 router.routes

end Router

end RequestRouter
