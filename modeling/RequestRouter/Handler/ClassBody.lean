import RequestRouter.Handler.Function

/-!
# Class bodies

What calling a class does, and the attributes that its instances share. The names and the descent of
a class are in `Class`; its body is kept apart, because values refer to classes and bodies refer to
values.
-/

namespace RequestRouter

/-- What is made of the bound arguments of a constructor. -/
inductive Making
  /-- A counted instance with a state. -/
  | counted (state : Entries String Value → Except Fault Value)
  /-- An object that keeps named values. -/
  | keeping (fields : Entries String Value → Except Fault (Entries String Value))
  /-- Nothing: the constructor fails. -/
  | failing (fault : Fault)

/-- What calling a class does. -/
inductive Constructor
  /-- It cannot be called. -/
  | refused (reason : Misuse)
  /-- It takes no arguments and its instances keep nothing. -/
  | bare
  /-- `owner` is the class that defines the constructor, by its full name. -/
  | taking (owner : String) (formals : List (Formal Class Value)) (making : Making)

/-- What a class shares with its instances. -/
inductive Attribute
  | method (f : Function)
  /-- A function that takes no receiver. -/
  | free (f : Function)
  | value (v : Value)

structure ClassBody where
  constructor : Constructor
  attributes : Entries String Attribute := []

namespace ClassBody

/-- A body for a class that descends from another: what it does not define is inherited. -/
def descend (base : ClassBody) (constructor : Option Constructor)
    (attributes : Entries String Attribute) : ClassBody where
  constructor := constructor.getD base.constructor
  attributes := attributes.foldl (fun table entry => table.put entry.1 entry.2) base.attributes

def empty : ClassBody := ⟨.bare, []⟩

end ClassBody

namespace Constructor

def formals : Constructor → List (Formal Class Value)
  | .taking _ formals _ => formals
  | _ => []

end Constructor

end RequestRouter
