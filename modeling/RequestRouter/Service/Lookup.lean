import RequestRouter.Call.Construct

/-!
# Service lookups

All that resolution needs of services: whether there is one under a key, and the one that is. Both
are actions, since asking may be recorded and getting may call a factory.
-/

namespace RequestRouter

/-- Something that services can be looked up in. -/
structure Lookup where
  has : String → Action Bool
  get : String → Action Value

def Factory.run (factory : Factory) (key : ServiceKey) : Action Value := do
  let value ← match factory with
    | .make recipe => recipe.build
    | .instantiate name => do (← Action.classNamed name).construct [] []
    | .counter count => pure (.int (count + 1))
    | .fail kind arguments => failWith kind arguments
  modify fun world => { world with container := world.container.afterCall key factory }
  return value

def Container.get (key : ServiceKey) : Action Value := do
  match (← MonadState.get).container.find? key with
  | some (.ready value) => return value
  | some (.made factory) => factory.run key
  | none => throw (.serviceNotFound key.normal)

namespace Lookup

def container : Lookup where
  has key := return (← MonadState.get).container.has (.text key)
  get key := Container.get (.text key)

def table (values : Entries String Value) : Lookup where
  has key := return values.has key
  get key :=
    match values.get? key with
    | some value => return value
    | none => throw (.serviceNotFound key)

/-- A lookup that records each question before it answers. -/
def recorded (lookup : Lookup) : Lookup where
  has key := do
    Action.emit (.asked (.has key))
    lookup.has key
  get key := do
    Action.emit (.asked (.get key))
    lookup.get key

end Lookup

def Supply.lookup : Supply → Lookup
  | .container => .container
  | .recording values => (Lookup.table values).recorded

end RequestRouter
