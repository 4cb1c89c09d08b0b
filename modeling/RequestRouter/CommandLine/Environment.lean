import RequestRouter.World.Basic

/-!
# Environments

A command looks for its router among modules and the objects that they lead to. An environment is
what it asks these for: modules by name, attributes of objects, calls without arguments, and whether
an object is a router. Everything else about modules and objects is left open, so that asking may
have any effect on the world and may fail.
-/

namespace RequestRouter

/-- Modules by name, and the objects that they lead to. -/
structure Environment (Obj : Type) where
  /-- Loads the module of an absolute name. -/
  load : String → Action Obj
  /-- The attribute of an object. -/
  member : Obj → String → Action Obj
  /-- What calling an object without arguments does, if it can be called. -/
  call? : Obj → Option (Action Obj)
  router? : Obj → Option Router
  /-- The name of the class of an object. -/
  typeName : Obj → String

namespace Environment

variable {Obj : Type}

/-- Imports a module. There is nothing that a relative name could be relative to. -/
def importModule (environment : Environment Obj) (name : String) : Action Obj :=
  if name.isEmpty then throw (.importing .noName)
  else if name.startsWith "." then throw (.importing (.relative name))
  else environment.load name

end Environment

end RequestRouter
