import RequestRouter.Argument.Slot
import RequestRouter.Service.Lookup

/-!
# Resolving slots

Each slot is filled by the first of these that applies: the path value of its name, made into an
instance if the slot asks for one; a service, for slots that ask for instances; the default;
nothing.
-/

namespace RequestRouter

/-- Makes a path value into an instance. Answers of the class that the value is of the wrong kind or
has a wrong content become a conversion fault. -/
def convert (name : String) (target : Class) (raw : String) : Action Value :=
  tryCatch (target.construct [.text raw] []) fun fault =>
    if fault.isA (.plain .type) || fault.isA (.plain .value) then
      throw (.conversion name target raw (some fault.kind))
    else throw fault

/-- A value is an instance of a class, where that can be asked. -/
def Value.testInstance (v : Value) (c : Class) : Action Bool :=
  match v.isInstance c with
  | some answer => return answer
  | none => throw (.misuse (if c.nature = .anything then .anyTest else .contractTest))

/-- The key under which a lookup has a service for a slot: the name of the slot, or else the key of
its class. -/
def Lookup.keyFor (lookup : Lookup) (name : String) (target : Class) : Action (Option String) := do
  if ← lookup.has name then return some name
  if ← lookup.has target.key then return some target.key
  return none

/-- The service for a slot. What is no instance of the class is discarded, unless the class is a
contract that cannot be checked. -/
def Lookup.service (lookup : Lookup) (name : String) (target : Class) : Action Value := do
  match ← lookup.keyFor name target with
  | none => return .null
  | some key =>
    let value ← lookup.get key
    if !target.checkable then return value
    if ← value.testInstance target then return value
    Action.log (.discarded key name value.typeQualname target.qualname)
    return .null

namespace Slot

/-- The value found for a slot when there is no path value: from services, by default, or none. -/
def fallback (slot : Slot) (lookup : Option Lookup) : Action Value := do
  let value ← match lookup, slot.kind with
    | some lookup, .named target => lookup.service slot.name target
    | _, _ => pure Value.null
  match value, slot.default with
  | .null, some default => return default
  | value, _ => return value

def resolve (slot : Slot) (lookup : Option Lookup) (values : Entries String String) :
    Action Value :=
  match values.get? slot.name with
  | none => slot.fallback lookup
  | some raw =>
    match slot.kind with
    | .builtin => return .text raw
    | .named target => convert slot.name target raw

end Slot

structure Arguments where
  positional : List Value := []
  named : Entries String Value := []

/-- Resolves slots in order, adding to the arguments so far. -/
def resolveFrom (lookup : Option Lookup) (values : Entries String String) :
    Arguments → List Slot → Action Arguments
  | arguments, [] => return arguments
  | arguments, slot :: rest => do
    let value ← slot.resolve lookup values
    let arguments :=
      if slot.byName then { arguments with named := arguments.named.put slot.name value }
      else { arguments with positional := arguments.positional ++ [value] }
    resolveFrom lookup values arguments rest

def resolveAll (lookup : Option Lookup) (values : Entries String String) (slots : List Slot) :
    Action Arguments :=
  resolveFrom lookup values {} slots

end RequestRouter
