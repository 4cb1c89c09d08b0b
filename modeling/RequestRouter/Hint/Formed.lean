import RequestRouter.Hint.Union

/-!
# Type hints that are built from others

A type hint is built from the inside out. A text inside another type hint has to be a term by
itself, though nothing evaluates it. Bars join two type hints at a time: classes and what is built
from them with each other and with nothing, and everything with a form.
-/

namespace RequestRouter.TypeHint

open Hint

def checkMember : TypeHint Class → Except TermFault Unit
  | .text s => do
    let _ ← referenceTo s
    return ()
  | .special .classVar => mistyped (.misplaced "typing.ClassVar[int]")
  | _ => .ok ()

/-- How a type hint takes part in what a bar joins. -/
inductive Joining
  /-- Joins others of its kind, and nothing. -/
  | joins
  | nothing
  /-- Joins everything into a form. -/
  | lists
  | refuses
  deriving DecidableEq, Repr

def joining : TypeHint Class → Joining
  | .type _ | .generic .. | .bars _ => .joins
  | .none => .nothing
  | .text _ => .refuses
  | .union _ | .annotated _ | .special _ => .lists

def typeName : TypeHint Class → String
  | .type c => c.kindName
  | .none => "NoneType"
  | .text _ => "str"
  | .generic .. => "types.GenericAlias"
  | .bars _ => "types.UnionType"
  | .union _ => "_UnionGenericAlias"
  | .annotated _ => "_AnnotatedAlias"
  | .special _ => "_GenericAlias"

/-- The type hint that a bar makes of two. -/
def join (a b : TypeHint Class) : Except TermFault (TypeHint Class) :=
  match joining a, joining b with
  | .lists, _ | _, .lists => do
    checkMember a
    checkMember b
    return .union [a, b]
  | .joins, .joins | .joins, .nothing | .nothing, .joins => .ok (.bars [a, b])
  | _, _ => mistyped (.operands BinaryOp.or.sign (typeName a) (typeName b))

mutual

/-- The type hint that is built as it is written. -/
def formed : TypeHint Class → Except TermFault (TypeHint Class)
  | .union as => do
    let as ← formedAll as
    if as.isEmpty then mistyped .noMembers
    as.forM checkMember
    return .union as
  | .bars as => do
    match ← formedAll as with
    | [] => mistyped .noMembers
    | a :: rest => rest.foldlM join a
  | .generic origin as => do
    let as ← formedAll as
    match classNamed? origin with
    | some c =>
      if genericNames.contains origin then return .generic origin as
      else mistyped (.noArguments c.name)
    | Option.none => return .generic origin as
  | .annotated a => do
    let a ← formed a
    if let .text _ := a then checkMember a
    return .annotated a
  | a => .ok a

def formedAll : List (TypeHint Class) → Except TermFault (List (TypeHint Class))
  | [] => .ok []
  | a :: as => do
    let a ← formed a
    return a :: (← formedAll as)

end

end RequestRouter.TypeHint
