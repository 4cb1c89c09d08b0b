import RequestRouter.Regex.Attempt
import RequestRouter.Regex.Basic

/-!
# Loops

A loop first takes its least number of repetitions. After that a further repetition is only begun at
a place where the one before it did not begin, so a body that takes nothing does not go on for ever.

A greedy or a lazy loop that fails sets the head down where the repetition began that it failed in.
A possessive loop takes each repetition in its first way. The repetition that fails ends the loop;
its marks are taken back, but not the head, and what follows goes on from there.
-/

namespace RequestRouter.Loop

/-- One more repetition is allowed after `count`, the last one having begun at `last`. -/
def mayGoOn (most : Option Nat) (count : Nat) (last : Option Nat) (pos : Nat) : Bool :=
  most.all (count < ·) && last != some pos

/-- As many repetitions as possible first. -/
def greedy (body : Cont → Cont) (least : Nat) (most : Option Nat) (k : Cont) :
    (fuel count : Nat) → (last : Option Nat) → Cont
  | 0, _, _, _, trail => .failed trail
  | fuel + 1, count, last, pos, trail =>
    let here := trail.move pos
    let finish := (k pos here).mapFailed (·.move pos)
    if count < least then
      (body (greedy body least most k fuel (count + 1) last) pos here).mapFailed (·.move pos)
    else if mayGoOn most count last pos then
      (body (greedy body least most k fuel (count + 1) (some pos)) pos here).orElse fun _ => finish
    else finish

/-- As few repetitions as possible first; `inLoop` says whether the loop is itself in one. -/
def lazy (body : Cont → Cont) (least : Nat) (most : Option Nat) (inLoop : Bool) (k : Cont) :
    (fuel count : Nat) → (last : Option Nat) → Cont
  | 0, _, _, _, trail => .failed trail
  | fuel + 1, count, last, pos, trail =>
    let here := trail.move pos
    if count < least then
      (body (lazy body least most inLoop k fuel (count + 1) last) pos here).mapFailed (·.move pos)
    else (k pos here).orElse fun trail =>
      let again := (here.back inLoop trail).move pos
      if mayGoOn most count last pos then
        (body (lazy body least most inLoop k fuel (count + 1) (some pos)) pos again).mapFailed
          (·.move pos)
      else .failed again

/-- As many repetitions as possible, each in its first way, and no others; the loop began at `start`
and has come as far as the head. -/
def possessive (body : Cont → Cont) (least : Nat) (most : Option Nat) (k : Cont) (start : Nat) :
    (fuel count : Nat) → (last : Option Nat) → Trail → Attempt
  | 0, _, _, trail => .failed trail
  | fuel + 1, count, last, trail =>
    let pos := trail.head
    if count < least then
      match body .done pos trail with
      | .matched trail => possessive body least most k start fuel (count + 1) last trail
      | .failed trail => .failed (trail.move start)
    else if mayGoOn most count last pos then
      match body .done pos trail with
      | .matched trail => possessive body least most k start fuel (count + 1) (some pos) trail
      | .failed after => k after.head { after with marks := trail.marks }
    else k pos trail

/-- Enough repetitions for a loop over a text: those it must take, and after them one for each place
where a repetition may begin together with the place where the one before it began. -/
def fuelFor (text : Array Char) (least : Nat) : Nat := least + (text.size + 2) * (text.size + 2)

/-- At least `least` and at most `most` repetitions of a body in front of `k`. -/
def run (text : Array Char) (greed : Greed) (least : Nat) (most : Option Nat) (inLoop : Bool)
    (body : Cont → Cont) (k : Cont) : Cont := fun pos trail =>
  match greed with
  | .greedy => greedy body least most k (fuelFor text least) 0 none pos trail
  | .lazy => lazy body least most inLoop k (fuelFor text least) 0 none pos trail
  | .possessive => possessive body least most k pos (fuelFor text least) 0 none (trail.move pos)

end RequestRouter.Loop
