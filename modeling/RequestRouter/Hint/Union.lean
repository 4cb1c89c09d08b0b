import RequestRouter.Hint.Grammar
import RequestRouter.Hint.Shown
import RequestRouter.Hint.TermFault

/-!
# Unions and classes with arguments

A union is written by a form with its members in brackets, or with bars between them. Unions inside
a union are dissolved, equal members count once, and a union of one member is that member. Bars join
classes and what is built from them; the form also takes texts, which name type hints, and other
values, but neither rows of values nor bare forms.
-/

namespace RequestRouter.Hint

open Meaning

def mistyped {α : Type} (problem : TypeProblem) : Except TermFault α := .error (.typed problem)

/-- The name of a type hint inside a form. It has to be a term by itself; a star in front of it is
dropped. -/
def referenceTo (s : String) : Except TermFault Meaning :=
  let text := s.toList
  match text with
  | [] => .error (.outOfRange "string index")
  | c :: rest =>
    if text.contains '\x00' then .error .nullCharacter
    else
      let read := if c == '*' then ("(*".toList ++ rest ++ ",)[0]".toList) else text
      match Term.readExact read with
      | .ok _ => .ok (.reference s)
      | .error _ => .error (.reference s)

def asArgument : Meaning → Except TermFault Meaning
  | .nothing => .ok (.type noneType)
  | .text s => referenceTo s
  | m => .ok m

/-- The longest part of a value that a message shows. -/
def maxShown : Nat := 100

def shownFront (m : Meaning) : String := String.ofList (m.shown.toList.take maxShown)

/-- A meaning as a member of a union; `problem` tells of a row of values. -/
def asMember (problem : String → TypeProblem) (m : Meaning) : Except TermFault Meaning := do
  match ← asArgument m with
  | .form f => mistyped (.bareForm f.shown)
  | .items .tuple row => mistyped (problem (shownFront (.items .tuple row)))
  | .type c =>
    if c.home == "typing" && (c.name == "Protocol" || c.name == "Generic") then
      mistyped (.bareForm (Meaning.type c).shown)
    else return .type c
  | m => return m

/-- The members of meanings, unions being dissolved. -/
def dissolve (ms : List Meaning) : List Meaning :=
  ms.flatMap fun
    | .union _ members => members
    | m => [m]

/-- The union of members; one of them that is no key is none. -/
def unite (style : UnionStyle) (ms : List Meaning) : Except TermFault Meaning :=
  let members := dissolve ms
  match style, unhashables? members with
  | .listed, some c => mistyped (.unhashable c.name)
  | _, _ =>
    match distinct members with
    | [m] => .ok m
    | members => .ok (.union style members)

def listedUnion (ms : List Meaning) : Except TermFault Meaning := do
  if ms.isEmpty then mistyped .noMembers
  unite .listed (← ms.mapM (asMember .notMember))

/-- What stands in brackets, as one or several arguments. -/
def argumentsOf : Meaning → List Meaning
  | .items .tuple row => row
  | m => [m]

def Form.apply (f : Form) (argument : Meaning) : Except TermFault Meaning :=
  match f with
  | .union => listedUnion (argumentsOf argument)
  | .optional => do
    let member ← asMember .notOne argument
    listedUnion [member, .type noneType]

/-- The classes that take arguments in brackets. -/
def genericNames : List String :=
  ["list", "dict", "set", "frozenset", "tuple", "type", "enumerate", "BaseExceptionGroup",
    "ExceptionGroup"]

/-- A class with arguments in brackets. A class of contracts looks at them before it refuses. -/
def applyClass (c : Class) (argument : Meaning) : Except TermFault Meaning := do
  if c.home == "builtins" && genericNames.contains c.name then
    return .generic c (argumentsOf argument)
  if c.ofContract then
    let _ ← (argumentsOf argument).mapM asArgument
    mistyped (.notGeneric (Meaning.type c).shown)
  mistyped (.noArguments c.name)

def joins : Meaning → Bool
  | .type _ | .generic .. | .union .bars _ => true
  | _ => false

/-- A meaning that may stand between bars. -/
def isJoinable (m : Meaning) : Bool :=
  match m with
  | .nothing => true
  | m => joins m

/-- A meaning that makes a listed union of what a bar joins it with. -/
def lists : Meaning → Bool
  | .union .listed _ | .form _ => true
  | _ => false

/-- Nothing as the class of nothing. -/
def asClass : Meaning → Meaning
  | .nothing => .type noneType
  | m => m

/-- The union of two meanings with a bar between them, if they are type hints. -/
def barUnion? (a b : Meaning) : Option (Except TermFault Meaning) :=
  if isJoinable a && isJoinable b && (joins a || joins b) then
    some (unite .bars [asClass a, asClass b])
  else if lists a || lists b then some (listedUnion [a, b])
  else none

end RequestRouter.Hint
