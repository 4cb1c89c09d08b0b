import RequestRouter.Fault.Basic

/-!
# The controller registry

A table from names to classes. A name once given to a class stays with it.
-/

namespace RequestRouter

/-- Classes by the names that handler references use, in order of registration. -/
abbrev Registry := Entries String Class

namespace Registry

/-- The name a class is registered under: the given one, or its own when none or an empty one is
given. -/
def effectiveName (c : Class) (name : Option String) : String :=
  match name with
  | some name => if name.isEmpty then c.name else name
  | none => c.name

/-- Registers a class. It is an error if the name belongs to another class. -/
def register (registry : Registry) (c : Class) (name : Option String) : Except Fault Registry :=
  let name := effectiveName c name
  match Entries.get? registry name with
  | some owner =>
    if owner.number == c.number then .ok (Entries.put registry name c)
    else .error (.configuration (.nameTaken name owner.qualname))
  | none => .ok (Entries.put registry name c)

def lookup (registry : Registry) (name : String) : Option Class := Entries.get? registry name

def names (registry : Registry) : List String := Entries.keys registry

/-- A name is registered; a value that is no text never is. -/
def contains (registry : Registry) (name : Value) : Bool :=
  match name with
  | .text name => Entries.has registry name
  | _ => false

end Registry

end RequestRouter
