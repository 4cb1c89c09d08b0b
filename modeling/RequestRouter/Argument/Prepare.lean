import RequestRouter.Argument.Slot
import RequestRouter.World.Basic
import RequestRouter.Argument.Resolve
import RequestRouter.Call.Run

/-!
# Preparing a call

A handler reference becomes something to call and the arguments to call it with. A class is described
by its constructor, without the receiver. A controller is made afresh for each call; its constructor
is resolved from services and defaults, never from path values.
-/

namespace RequestRouter

/-! ## The slots of what can be called -/

def Callee.formals : Callee → Action (List (Formal Class Value))
  | .function f | .method f _ | .object _ f => return f.formals
  | .type c | .value (.type c) => return (← Action.bodyOf c).constructor.formals
  | .value v => throw (.misuse (.notInspectable v.shown))

def Callee.slots (callee : Callee) : Action (List Slot) := do slotsOf (← callee.formals)

/-! ## What is called -/

/-- Attributes that all classes have of themselves, and that can be called. -/
def classAttributes : List String := ["mro"]

/-- Further ones, of the classes that are contracts or descend from one. -/
def contractAttributes : List String :=
  ["register", "_dump_registry", "_abc_registry_clear", "_abc_caches_clear"]

/-- The attributes that a class has of itself, not from its body, and that can be called. Its
instances do not have them. -/
def Class.ownAttributes (c : Class) : List String :=
  if c.ofContract then classAttributes ++ contractAttributes else classAttributes

/-- What an attribute is when it is reached through an instance. -/
def Attribute.onInstance (receiver : Value) : Attribute → Callee
  | .method f => .method f receiver
  | .free f => .function f
  | .value (.type c) => .type c
  | .value v => .value v

def Attribute.isCallable : Attribute → Bool
  | .value (.type _) => true
  | .value _ => false
  | _ => true

def Class.offersMethod (c : Class) (name : String) : Action Bool := do
  match (← Action.bodyOf c).attributes.get? name with
  | some found => return found.isCallable
  | none => return c.ownAttributes.contains name

/-- The class that a reference names, if it is registered and has the method. -/
def Registry.resolve (registry : Registry) (typeName methodName : String) : Action Class := do
  match registry.lookup typeName with
  | none =>
    Action.log (.unknownController typeName)
    throw (.handlerNotFound typeName methodName)
  | some c =>
    if ← c.offersMethod methodName then return c
    throw (.handlerNotFound typeName methodName)

def Class.attributeOf (c : Class) (controller : Value) (name : String) : Action Callee := do
  match (← Action.bodyOf c).attributes.get? name with
  | some found => return found.onInstance controller
  | none => throw (.misuse (.noAttribute c.name name))

/-- Makes an instance whose constructor is resolved from services and defaults. -/
def Class.constructFrom (c : Class) (lookup : Option Lookup) : Action Value := do
  let arguments ← resolveAll lookup [] (← (Callee.type c).slots)
  c.construct arguments.positional arguments.named

/-- A call that is ready to be made. -/
structure Prepared where
  target : Callee
  arguments : Arguments

namespace Prepared

def call (prepared : Prepared) : Action Returned :=
  prepared.target.call prepared.arguments.positional prepared.arguments.named

end Prepared

namespace HandlerRef

def locate (ref : HandlerRef) (lookup : Option Lookup) (registry : Option Registry) :
    Action Callee :=
  match ref with
  | .free target => return target
  | .method typeName methodName =>
    match registry with
    | none => throw (.handlerNotFound typeName methodName)
    | some registry => do
      let c ← registry.resolve typeName methodName
      let controller ← c.constructFrom lookup
      c.attributeOf controller methodName

def prepare (ref : HandlerRef) (values : Entries String String) (lookup : Option Lookup)
    (registry : Option Registry) : Action Prepared := do
  let target ← ref.locate lookup registry
  let arguments ← resolveAll lookup values (← target.slots)
  return { target, arguments }

end HandlerRef

end RequestRouter
