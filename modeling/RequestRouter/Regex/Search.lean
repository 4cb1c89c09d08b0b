import RequestRouter.Regex.Match
import RequestRouter.Regex.Cause

/-!
# Matching whole texts and finding pieces

A text is matched as a whole by running the term at its start and letting it end only at its end.
Pieces are found from left to right: the leftmost place where the term matches, in the first way it
does, and then on from where that piece ends.

Attempts that failed can leave the two marks of a group in the wrong order. A match of a whole text
with such a group is no match but a fault.
-/

namespace RequestRouter

def slice (text : Array Char) (first last : Nat) : List Char := (text.extract first last).toList

/-- Why a text cannot be matched. -/
inductive MatchFault
  /-- What it should match is no expression. -/
  | unreadable (error : ReadError)
  /-- A group closes before it opens. -/
  | crossedMarks
  deriving DecidableEq, Repr

/-- A piece found in a text, with the marks of its groups. -/
structure Found where
  first : Nat
  last : Nat
  marks : Marks
  deriving DecidableEq, Repr

namespace Found

def group (found : Found) (text : Array Char) (number : Nat) : Option (List Char) :=
  (found.marks.span number).map fun (first, last) => slice text first last

end Found

namespace Expression

/-- Only the end of the text may follow. -/
def atEnd (text : Array Char) : Cont := fun pos trail =>
  if pos == text.size then .matched (trail.move pos) else .failed trail

/-- The marks of a match of a whole text. A text that is shorter than the least width of the term is
not looked at. -/
def wholeMarks (e : Expression) (text : Array Char) : Option Marks :=
  if text.size < e.least then none
  else match e.regex.run text false none (atEnd text) 0 (.start 0) with
    | .matched trail => some trail.marks
    | .failed _ => none

def groupNumbers (e : Expression) : List Nat := (List.range e.groups).map (· + 1)

def fullMatch (e : Expression) (text : Array Char) : Except MatchFault (Option Marks) :=
  match e.wholeMarks text with
  | none => .ok none
  | some marks =>
    if e.groupNumbers.any marks.isCrossed then .error .crossedMarks else .ok (some marks)

/-- The expression matches the whole text. -/
def accepts (e : Expression) (text : List Char) : Except MatchFault Bool :=
  (e.fullMatch text.toArray).map Option.isSome

/-- The texts that the groups took, in the order of their numbers. -/
def captures (e : Expression) (text : Array Char) (marks : Marks) : List (Option (List Char)) :=
  e.groupNumbers.map fun number =>
    (marks.span number).map fun (first, last) => slice text first last

end Expression

namespace Regex

/-- The match that begins at a position. -/
def matchAt (r : Regex) (text : Array Char) (pos : Nat) : Option Found :=
  match r.run text false none .done pos (.start pos) with
  | .matched trail => some ⟨pos, trail.head, trail.marks⟩
  | .failed _ => none

/-- The pieces from a position on. A piece that takes nothing is passed by one character. -/
def findFrom (r : Regex) (text : Array Char) : (fuel pos : Nat) → List Found
  | 0, _ => []
  | fuel + 1, pos =>
    if text.size < pos then []
    else match r.matchAt text pos with
      | none => r.findFrom text fuel (pos + 1)
      | some found => found :: r.findFrom text fuel (max found.last (pos + 1))

/-- All pieces of a text, from left to right and without overlap. -/
def findAll (r : Regex) (text : Array Char) : List Found := r.findFrom text (text.size + 1) 0

/-- Some piece of a text matches. -/
def occursIn (r : Regex) (text : Array Char) : Bool := !(r.findAll text).isEmpty

end Regex

end RequestRouter
