import RequestRouter.Call.Binding
import RequestRouter.Fault.Stated
import RequestRouter.World.Basic

/-!
# Making instances and values

Calling a class binds the arguments to the parameters of its constructor and makes an instance of
them. A counted instance takes its serial number last, so that a constructor that fails takes none.
-/

namespace RequestRouter

/-- Binds arguments for a call of `callee`. -/
def bindFor (callee : String) (formals : Binding.Formals) (implicit : Nat) (values : List Value)
    (named : Entries String Value) : Action (Entries String Value) :=
  match Binding.bind formals implicit values named with
  | .ok arguments => return arguments
  | .error problem => throw (.binding callee problem)

def Making.run (c : Class) (arguments : Entries String Value) : Making → Action Value
  | .counted state => do
    let state ← Action.ofExcept (state arguments)
    return .instance c (← Action.nextSerial) state
  | .keeping fields => return .object c (← Action.ofExcept (fields arguments))
  | .failing fault => throw fault

def Class.construct (c : Class) (values : List Value) (named : Entries String Value) :
    Action Value := do
  let value ← match (← Action.bodyOf c).constructor with
    | .refused reason => throw (.misuse reason)
    | .bare =>
      if values.isEmpty && named.isEmpty then pure (.object c [])
      else throw (.binding c.name .noArguments)
    | .taking owner formals making => do
      let arguments ← bindFor (owner ++ ".__init__") formals 1 values named
      making.run c arguments
  Action.emit (.constructed c)
  return value

mutual

def Recipe.build : Recipe → Action Value
  | .null => return .null
  | .bool b => return .bool b
  | .int n => return .int n
  | .text s => return .text s
  | .bytes bs => return .bytes bs
  | .list items => return .list (← buildAll items)
  | .type name => return .type (← Action.classNamed name)
  | .new name arguments => do
    let c ← Action.classNamed name
    c.construct (← buildAll arguments) []
  | .response frame body => do
    let body ← build body
    return .response { frame with body }
  | .shape attributes => return .shape (← buildEntries attributes)

/-- Makes the values of several recipes, in order. -/
def Recipe.buildAll : List Recipe → Action (List Value)
  | [] => return []
  | recipe :: rest => do
    let value ← build recipe
    return value :: (← buildAll rest)

/-- Makes the values of named recipes, in order. -/
def Recipe.buildEntries : List (String × Recipe) → Action (List (String × Value))
  | [] => return []
  | (name, recipe) :: rest => do
    let value ← build recipe
    return (name, value) :: (← buildEntries rest)

end

def failWith {α : Type} (kind : FaultKind) (arguments : List Recipe) : Action α := do
  throw (Fault.ofArguments kind (← Recipe.buildAll arguments))

end RequestRouter
