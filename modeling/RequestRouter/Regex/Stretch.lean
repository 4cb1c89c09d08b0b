import RequestRouter.Regex.Attempt
import RequestRouter.Regex.CharTest

/-!
# Stretches of characters

A loop whose body is one test on a character takes a stretch of the text. The characters are counted
first and what follows is tried behind them, so no repetition is an attempt by itself. A greedy
stretch begins with as many characters as there are and gives them back one by one; a lazy one
begins with the least number and grows; a possessive one keeps what it has.

Some ways of matching need not be tried, because the next character cannot be the one that a term
begins with (`Regex.lead`).
-/

namespace RequestRouter

/-! ## How a term begins

That is looked at only where it is settled by one plain comparison: for a character that has no case
variants at this place, and in front of an alternative also for a class that is compared as it is
written. -/

namespace CharTest

/-- The test asks for one character, as it is. -/
def isPlainLiteral : CharTest → Bool
  | .literal folding complement code => !complement && !folding.cased code
  | _ => false

/-- The test asks for a member of a class that is compared as it is written. -/
def isPlainClass : CharTest → Bool
  | .oneOf folding _ _ => folding == .exact
  | _ => false

/-- A run of such characters is taken one at a time, each a match of its own. That is so for classes
up to case, and a letter with further variants than its capital is such a class. -/
def isStepwise : CharTest → Bool
  | .any _ => false
  | .literal folding _ code => folding.cased code && 1 < (folding.kin (folding.small code)).length
  | .oneOf folding _ _ => folding != .exact

def passesAt (test : CharTest) (text : Array Char) (pos : Nat) : Bool :=
  (text[pos]?).any fun c => test.holds c.toNat

end CharTest

/-- The test on the next character that a term begins with, if it begins with one. -/
abbrev Lead := Option CharTest

/-- How a term begins, `after` being how that begins which follows it. -/
def Regex.lead : Regex → (after : Lead) → Lead
  | .empty, after => after
  | .one test, _ => some test
  | .seq a b, after => a.lead (b.lead after)
  | _, _ => none

namespace Lead

/-- An alternative that begins so is tried at a position. -/
def admits (lead : Lead) (text : Array Char) (pos : Nat) : Bool :=
  lead.all fun test => !(test.isPlainLiteral || test.isPlainClass) || test.passesAt text pos

/-- What follows a stretch of characters is tried at a position if it begins so. -/
def follows (lead : Lead) (text : Array Char) (pos : Nat) : Bool :=
  lead.all fun test => !test.isPlainLiteral || test.passesAt text pos

end Lead

/-! ## Stretches -/

namespace Stretch

/-- How many characters from a position on pass the test, up to a limit. -/
def length (text : Array Char) (test : CharTest) : (limit pos : Nat) → Nat
  | 0, _ => 0
  | limit + 1, pos => if test.passesAt text pos then length text test limit (pos + 1) + 1 else 0

/-- The greatest number of characters from a position on. -/
def limit (text : Array Char) (most : Option Nat) (pos : Nat) : Nat :=
  match most with
  | some most => min most (text.size - pos)
  | none => text.size - pos

/-- The trail after counting a number of characters from a position on. -/
def counted (test : CharTest) (pos number : Nat) (trail : Trail) : Trail :=
  trail.move (if test.isStepwise then pos + number else pos)

/-- Tries from `start + extra` down to `start`. -/
def shrink (attempt : Cont) (start : Nat) : (extra : Nat) → Trail → Attempt
  | 0, trail => attempt start trail
  | extra + 1, trail => (attempt (start + (extra + 1)) trail).orElse (shrink attempt start extra)

/-- Tries from a position on, with one more character each time; `count` characters have been taken
and `left` are left of the text. -/
def grow (text : Array Char) (test : CharTest) (most : Option Nat) (attempt : Cont) :
    (left count pos : Nat) → Trail → Attempt
  | left, count, pos, trail =>
    if most.any (· < count) then .failed trail
    else (attempt pos trail).orElse fun trail =>
      match left with
      | 0 => .failed trail
      | left + 1 =>
        if test.passesAt text pos then
          grow text test most attempt left (count + 1) (pos + 1) (counted test pos 1 trail)
        else .failed trail

/-- What follows a greedy stretch, tried at a position; `start` is the trail when the characters had
been counted. -/
def attemptGreedy (text : Array Char) (inLoop : Bool) (next : Lead) (start : Trail) (k : Cont) :
    Cont := fun pos trail =>
  if next.follows text pos then (k pos (trail.move pos)).mapFailed (start.back inLoop)
  else .failed trail

/-- What follows a lazy stretch, tried at a position; the head is set down there again after it. -/
def attemptLazy (inLoop : Bool) (start : Trail) (k : Cont) : Cont := fun pos trail =>
  (k pos (trail.move pos)).mapFailed fun trail => (start.back inLoop trail).move pos

/-- A stretch of at least `least` and at most `most` characters in front of `k`, which begins with
`next`. -/
def run (text : Array Char) (test : CharTest) (greed : Greed) (least : Nat) (most : Option Nat)
    (inLoop : Bool) (next : Lead) (k : Cont) : Cont := fun pos trail =>
  if text.size < pos + least then .failed trail
  else
    let wanted := if greed = .lazy then some least else most
    let number := length text test (limit text wanted pos) pos
    let start := counted test pos number trail
    if number < least then .failed start
    else match greed with
      | .greedy =>
        shrink (attemptGreedy text inLoop next start k) (pos + least) (number - least) start
      | .lazy =>
        grow text test most (attemptLazy inLoop start k) (text.size - (pos + least)) least
          (pos + least) start
      | .possessive => k (pos + number) start

end Stretch

end RequestRouter
