import RequestRouter.CommandLine.Thing

/-!
# Targets of commands

A target names a module and, after a colon, a path of attributes to walk from there. What is found
is called if it can be, and opened if it holds a router.
-/

namespace RequestRouter

namespace Target

def factoryFault (target : String) (fault : Fault) : Fault :=
  .stated .type
    [.text ("Router factory " ++ Text.quote target ++ " raised an error: " ++ fault.message)]

/-- The fault of a target that is no router, but an object of another class. -/
def notRouter (target typeName : String) : Fault :=
  .stated .type
    [.text (Text.quote target ++ " resolved to " ++ typeName ++
      ", not a distroute.Router instance")]

/-- The parts of a text between the points in it. -/
def pathOf (text : List Char) : List String :=
  (text.splitOn '.').map String.ofList

/-- The module and the path of a target; without a path, the attribute `router` is meant. -/
def parts (target : String) : String × List String :=
  let chars := target.toList
  let path := (chars.dropWhile (· != ':')).drop 1
  let path := if path.isEmpty then "router".toList else path
  (String.ofList (chars.takeWhile (· != ':')), pathOf path)

end Target

namespace Environment

variable {Obj : Type} (environment : Environment Obj)

/-- Calls an object that is no router and can be called. -/
def openFactory (target : String) (obj : Obj) : Action Obj :=
  match environment.router? obj, environment.call? obj with
  | none, some call => tryCatch call fun fault => throw (Target.factoryFault target fault)
  | _, _ => return obj

/-- Opens an object that is no router and holds one. A missing attribute counts as none. -/
def openHolder (obj : Obj) : Action Obj :=
  match environment.router? obj with
  | some _ => return obj
  | none => do
    match ← Action.attempt (environment.member obj "router") with
    | .ok held =>
      if (environment.router? held).isSome then environment.member obj "router" else return obj
    | .error fault => if fault.isA (.plain .member) then return obj else throw fault

def routerOf (target : String) (obj : Obj) : Action Router :=
  match environment.router? obj with
  | some router => return router
  | none => throw (Target.notRouter target (environment.typeName obj))

def routerAt (target : String) (path : List String) (start : Obj) : Action Router := do
  let found ← path.foldlM environment.member start
  let made ← environment.openFactory target found
  environment.routerOf target (← environment.openHolder made)

/-- The router that a target names. -/
def resolve (target : String) : Action Router := do
  let (module, path) := Target.parts target
  environment.routerAt target path (← environment.importModule module)

end Environment

def Target.resolve (modules : Modules) (target : String) : Action Router :=
  modules.environment.resolve target

end RequestRouter
