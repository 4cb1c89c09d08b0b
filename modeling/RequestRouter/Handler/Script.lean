import RequestRouter.Value.Basic
import RequestRouter.Fault.Basic

/-!
# Scripts of handlers

The body of a handler is a script: what it answers once its arguments are bound. What a handler may
do is thereby data, which runs of routers can be stated about. The values that it answers with are
given by recipes, which say how a value is made each time it is needed. A recipe names classes, since
a class may be defined only after the recipe was written.
-/

namespace RequestRouter

/-! ## Recipes for values -/

/-- How a value is made. -/
inductive Recipe
  | null
  | bool (b : Bool)
  | int (n : Int)
  | text (s : String)
  | bytes (bytes : List UInt8)
  | list (items : List Recipe)
  /-- A class as a value. -/
  | type (name : String)
  /-- A new instance of a class. -/
  | new (name : String) (arguments : List Recipe)
  /-- A response with a body that is made and the rest as given. -/
  | response (frame : Response Unit) (body : Recipe)
  | shape (attributes : List (String × Recipe))
  deriving Inhabited

/-! ## Scripts -/

/-- A registration that a handler makes while it runs. -/
inductive Registration
  | route (methods : List String) (pattern reference : String) (name : Option String)
  /-- `handle` is the name by which the world knows the class. -/
  | controller (handle : String) (name : Option String)
  deriving DecidableEq, Repr

/-- What a handler does. -/
inductive Script
  /-- Answers with its own name. -/
  | echo
  | give (recipe : Recipe)
  | fail (kind : FaultKind) (arguments : List Recipe)
  /-- Gives something to wait for, which yields a value. -/
  | deferred (recipe : Recipe)
  /-- Gives a suspended computation, which yields a value. -/
  | suspended (recipe : Recipe)
  /-- Makes registrations one after another and then answers. -/
  | registerAll (registrations : List Registration)
  /-- Computes a value from the receiver and the arguments. -/
  | compute (f : (receiver : Value) → Entries String Value → Except Fault Value)

/-- Registers a route for a handler that comes too late, and then answers. -/
def Script.register (pattern : String) : Script :=
  .registerAll [.route ["GET"] pattern "Late@handler" none]

end RequestRouter
