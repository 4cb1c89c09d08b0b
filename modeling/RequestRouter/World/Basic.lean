import RequestRouter.Routing.Router
import RequestRouter.Service.Container
import RequestRouter.World.Event

/-!
# The world and actions on it

The world is all that outlives a step: the classes and functions that have been defined, the
services, the router and the trace of events. An action may fail; the world it leaves behind is kept
all the same, so that what happened before a failure has happened.
-/

namespace RequestRouter

/-- The state that actions work on. -/
structure World where
  /-- Classes by the names that recipes and type hints use. -/
  scope : Entries String Class := []
  /-- Classes by the names that text type hints use. -/
  vocabulary : List (String × Class) := []
  /-- What classes do, by their numbers. -/
  bodies : Entries Nat ClassBody := []
  nextClass : Nat := Class.firstFree
  nextFunction : Nat := 0
  /-- The number of counted instances made so far. -/
  made : Nat := 0
  /-- Functions that are defined once, by the keys they are shared under. -/
  shared : Entries String Function := []
  container : Container := {}
  router : Router := {}
  trace : List Event := []

/-- What works on the world and may fail. -/
abbrev Action := ExceptT Fault (StateM World)

namespace Action

/-- An action that leaves the world alone. -/
def ofExcept {α : Type} (result : Except Fault α) : Action α := ExceptT.mk (pure result)

def emit (event : Event) : Action Unit :=
  modify fun world => { world with trace := world.trace ++ [event] }

def log (record : LogRecord) : Action Unit := emit (.logged record)

/-- Runs an action and keeps its outcome, failure or not, as the result. -/
def attempt {α : Type} (action : Action α) : Action (Except Fault α) :=
  ExceptT.mk (Functor.map Except.ok action.run)

def classNamed (name : String) : Action Class := do
  match (← get).scope.get? name with
  | some c => return c
  | none => throw (.stated .key [.text name])

def bodyOf (c : Class) : Action ClassBody :=
  return ((← get).bodies.get? c.number).getD .empty

/-- The number of the next counted instance. -/
def nextSerial : Action Nat := do
  let serial := (← get).made + 1
  modify fun world => { world with made := serial }
  return serial

end Action

end RequestRouter
