import RequestRouter.Entries
import RequestRouter.Handler.Reference

/-!
# The service container

A container holds ready values and factories under keys. Each registration replaces what was there
under its key, of either sort, so that a key is in at most one of the two tables. A class stands for
the key that its instances are looked up under.
-/

namespace RequestRouter

/-- What makes a service each time it is asked for. -/
inductive Factory
  | make (recipe : Recipe)
  /-- Calls a class without arguments. -/
  | instantiate (name : String)
  /-- Counts its calls; `count` of them have been made. -/
  | counter (count : Int)
  | fail (kind : FaultKind) (arguments : List Recipe)

/-- A key as it is given. -/
inductive ServiceKey
  | text (key : String)
  | type (c : Class)
  deriving DecidableEq, Repr

/-- The key that a service is kept under. -/
def ServiceKey.normal : ServiceKey → String
  | .text key => key
  | .type c => c.key

/-- The key that a value is, if it is one. -/
def ServiceKey.ofValue? : Value → Option ServiceKey
  | .text key => some (.text key)
  | .type c => some (.type c)
  | _ => none

inductive Service
  | ready (value : Value)
  | made (factory : Factory)

/-- A table of services. -/
structure Container where
  instances : Entries String Value := []
  factories : Entries String Factory := []

namespace Container

def bind (container : Container) (key : ServiceKey) (value : Value) : Container where
  instances := container.instances.put key.normal value
  factories := container.factories.erase key.normal

def provide (container : Container) (key : ServiceKey) (factory : Factory) : Container where
  instances := container.instances.erase key.normal
  factories := container.factories.put key.normal factory

def find? (container : Container) (key : ServiceKey) : Option Service :=
  match container.instances.get? key.normal with
  | some value => some (.ready value)
  | none => (container.factories.get? key.normal).map .made

def has (container : Container) (key : ServiceKey) : Bool :=
  container.instances.has key.normal || container.factories.has key.normal

/-- There is a service under a key, which may be any value. -/
def contains (container : Container) (key : Value) : Bool :=
  match ServiceKey.ofValue? key with
  | some key => container.has key
  | none => false

/-- The number of services. -/
def size (container : Container) : Nat := container.instances.length + container.factories.length

/-- The container after a factory has been called. -/
def afterCall (container : Container) (key : ServiceKey) : Factory → Container
  | .counter count =>
    { container with factories := container.factories.put key.normal (.counter (count + 1)) }
  | _ => container

/-! ## Registrations seen through `find?` -/

/-- The last registration under a key is what is kept: here a ready value. -/
theorem find?_bind (container : Container) (key other : ServiceKey) (value : Value) :
    (container.bind key value).find? other =
      if key.normal = other.normal then some (.ready value) else container.find? other := by
  by_cases h : key.normal = other.normal
  · simp [find?, bind, ← h, Entries.get?_put_self]
  · simp [find?, bind, h, Entries.get?_put_of_ne _ _ h, Entries.get?_erase_of_ne _ h]

/-- The last registration under a key is what is kept: here a factory. -/
theorem find?_provide (container : Container) (key other : ServiceKey) (factory : Factory) :
    (container.provide key factory).find? other =
      if key.normal = other.normal then some (.made factory) else container.find? other := by
  by_cases h : key.normal = other.normal
  · simp [find?, provide, ← h, Entries.get?_put_self, Entries.get?_erase_self]
  · simp [find?, provide, h, Entries.get?_put_of_ne _ _ h, Entries.get?_erase_of_ne _ h]

/-- There is a service where something is kept. -/
theorem has_eq_isSome_find? (container : Container) (key : ServiceKey) :
    container.has key = (container.find? key).isSome := by
  simp only [has, find?, Entries.has]
  cases container.instances.get? key.normal <;> simp

end Container

end RequestRouter
