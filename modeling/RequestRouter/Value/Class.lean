/-!
# Classes

A class is known by the number it got when it was defined, so that two classes of one name stay
apart. What instance tests and messages need to know of it is kept with the number; what calling it
does is kept elsewhere.
-/

namespace RequestRouter

/-- How instances of a class are told. -/
inductive Nature
  /-- By descent. -/
  | ordinary
  /-- By the attributes listed, if the contract can be checked at all. -/
  | contract (checkable : Bool) (required : List String)
  /-- Not at all: every value would do, and asking is an error. -/
  | anything
  deriving DecidableEq, Repr

/-- A class as far as names and instance tests go. -/
structure Class where
  number : Nat
  home : String
  name : String
  qualname : String
  nature : Nature := .ordinary
  /-- The numbers of the classes it descends from. -/
  lineage : List Nat := []
  /-- The class or an ancestor is a contract, which shows in the kind of class it is itself. -/
  ofContract : Bool := false
  /-- The attributes of the class itself. -/
  members : List String := []
  /-- Further attributes that its instances have. -/
  fields : List String := []
  deriving DecidableEq, Repr

namespace Class

/-- The key under which instances of a class are looked up. -/
def key (c : Class) : String := c.home ++ "." ++ c.qualname

/-- Whether an instance test can be made. -/
def checkable (c : Class) : Bool :=
  match c.nature with
  | .contract checkable _ => checkable
  | _ => true

/-- The name of the kind of class that a class is. -/
def kindName (c : Class) : String :=
  if c.nature == .anything then "_AnyMeta" else if c.ofContract then "_ProtocolMeta" else "type"

/-- One of the classes that are always there. -/
def builtin (number : Nat) (name : String) : Class :=
  { number, home := "builtins", name, qualname := name }

/-- The class of no value in particular, which accepts none when called. -/
def any : Class :=
  { number := 12, home := "typing", name := "Any", qualname := "Any", nature := .anything }

def builtins : List Class :=
  [builtin 0 "object", builtin 1 "str", builtin 2 "int", builtin 3 "float", builtin 4 "bool",
    builtin 5 "bytes", builtin 6 "dict", builtin 7 "list", builtin 8 "set", builtin 9 "tuple"]

/-- A class that is always there, by its name. -/
def builtin? (name : String) : Option Class := builtins.find? (·.name == name)

/-- Numbers from here on are free for classes that are defined later. -/
def firstFree : Nat := 1000

end Class

end RequestRouter
