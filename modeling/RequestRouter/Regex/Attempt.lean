import RequestRouter.Regex.Marks

/-!
# Attempts

Matching is a series of attempts. An attempt starts at a position and either succeeds or fails, and
in both cases it leaves a trail: the place where its head was last set down, and the marks. The
trail of a failed attempt is not cleared away by itself. Whoever makes the next attempt says what of
it is taken back, and a possessive loop even goes on from the head.
-/

namespace RequestRouter

/-- What attempts leave behind. -/
structure Trail where
  /-- The place where the head was last set down. -/
  head : Nat
  marks : Marks
  deriving DecidableEq, Repr

namespace Trail

/-- The trail before anything was tried. -/
def start (pos : Nat) : Trail := ⟨pos, []⟩

/-- The head set down at a position. -/
def move (trail : Trail) (pos : Nat) : Trail := { trail with head := pos }

/-- A mark left at a position. -/
def mark (trail : Trail) (place pos : Nat) : Trail :=
  { trail with marks := trail.marks.put place pos }

/-- What is left of a trail after going back to an earlier one. Marks that have come since are
given up. Marks that were there already get their old places back inside a loop, where they can have
been moved; elsewhere they stay where they are. -/
def back (earlier : Trail) (inLoop : Bool) (trail : Trail) : Trail :=
  { trail with
    marks := if inLoop then earlier.marks else trail.marks.take earlier.marks.length }

end Trail

inductive Attempt
  | matched (trail : Trail)
  | failed (trail : Trail)
  deriving DecidableEq, Repr

namespace Attempt

/-- Another attempt where this one fails. -/
def orElse (attempt : Attempt) (other : Trail → Attempt) : Attempt :=
  match attempt with
  | .matched trail => .matched trail
  | .failed trail => other trail

/-- What the trail of a failure becomes. -/
def mapFailed (attempt : Attempt) (change : Trail → Trail) : Attempt :=
  attempt.orElse fun trail => .failed (change trail)

end Attempt

/-- What follows a term: an attempt at a position, after a trail. -/
abbrev Cont := (pos : Nat) → Trail → Attempt

/-- Nothing follows: the head is set down and the attempt has succeeded. -/
def Cont.done : Cont := fun pos trail => .matched (trail.move pos)

end RequestRouter
