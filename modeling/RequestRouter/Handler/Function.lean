import RequestRouter.Handler.Script
import RequestRouter.Value.TypeHint

/-!
# Functions

A function has parameters and a script. Functions are told apart by the numbers they got when they
were defined.
-/

namespace RequestRouter

/-- How arguments reach a parameter. -/
inductive Passing
  | byPosition
  /-- By position or by name. -/
  | either
  | byName
  /-- Takes all further arguments by position. -/
  | restByPosition
  /-- Takes all further arguments by name. -/
  | restByName
  deriving DecidableEq, Repr

namespace Passing

/-- The parameter takes one argument, which may come by position. -/
def takesPosition : Passing → Bool
  | .byPosition | .either => true
  | _ => false

/-- The parameter takes one argument, which may come by name. -/
def takesName : Passing → Bool
  | .either | .byName => true
  | _ => false

/-- The parameter takes any number of arguments. -/
def isVariadic : Passing → Bool
  | .restByPosition | .restByName => true
  | _ => false

end Passing

/-- A parameter of a function, with classes given as `κ` and its default as `δ`. -/
structure Formal (κ δ : Type) where
  name : String
  hint : Option (TypeHint κ) := none
  default : Option δ := none
  passing : Passing := .either


structure Function where
  number : Nat
  name : String
  qualname : String
  /-- Calling it gives a suspended computation. -/
  isAsync : Bool := false
  formals : List (Formal Class Value)
  /-- Its runs are recorded. -/
  recorded : Bool := true
  script : Script

namespace Function

/-- Two functions are the same one. -/
def same (f g : Function) : Bool := f.number == g.number

end Function

end RequestRouter
