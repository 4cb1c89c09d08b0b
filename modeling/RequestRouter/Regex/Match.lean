import RequestRouter.Regex.Loop
import RequestRouter.Regex.Stretch

/-!
# Matching by backtracking

A term is run at a position with a continuation for what follows it: the first way of matching the
term that lets the continuation succeed is taken. Going back to an earlier choice takes back the
marks that have come since, see `Trail.back`. The head is set down where an attempt begins and where
it succeeds; single characters, anchors and repeated groups do not move it.
-/

namespace RequestRouter

open Text

/-- A place holds, in a text, what an anchor asks for. -/
def Anchor.holds (text : Array Char) (pos : Nat) : Anchor → Bool
  | .textStart => pos == 0
  | .lineStart => pos == 0 || text[pos - 1]? == some '\n'
  | .textEnd => pos == text.size
  | .lastLineEnd => pos == text.size || (pos + 1 == text.size && text[pos]? == some '\n')
  | .lineEnd => pos == text.size || text[pos]? == some '\n'
  | .wordEdge complement ascii =>
    if text.isEmpty then false
    else
      let isWordAt := fun i => (text[i]?).any fun c => Category.word.has ascii c.toNat
      let before := pos != 0 && isWordAt (pos - 1)
      (before != isWordAt pos) != complement

/-- The text from `first` on agrees with `length` characters at `pos`. -/
def agrees (text : Array Char) (folding : Folding) (first pos : Nat) : (length : Nat) → Bool
  | 0 => true
  | length + 1 =>
    match text[first]?, text[pos]? with
    | some c, some d =>
      folding.small c.toNat == folding.small d.toNat &&
        agrees text folding (first + 1) (pos + 1) length
    | _, _ => false

/-- The test that a term consists of. -/
def Regex.test? : Regex → Option CharTest
  | .one test => some test
  | _ => none

/-- Runs a term in front of a continuation. The term stands in a greedy or lazy loop if `inLoop` is
set, and what is written behind it begins with `next`. -/
def Regex.run (text : Array Char) : Regex → (inLoop : Bool) → (next : Lead) → Cont → Cont
  | .empty, _, _, k, pos, trail => k pos trail
  | .one test, _, _, k, pos, trail =>
    if test.passesAt text pos then k (pos + 1) trail else .failed trail
  | .place anchor, _, _, k, pos, trail =>
    if anchor.holds text pos then k pos trail else .failed trail
  | .seq a b, inLoop, next, k, pos, trail =>
    a.run text inLoop (b.lead next) (b.run text inLoop next k) pos trail
  | .alternative r, inLoop, _, k, pos, trail =>
    if (r.lead none).admits text pos then r.run text inLoop none k pos (trail.move pos)
    else .failed trail
  | .either a b, inLoop, _, k, pos, trail =>
    (a.run text inLoop none k pos trail).orElse fun after =>
      (b.run text inLoop none k pos (trail.back inLoop after)).mapFailed (trail.back inLoop)
  | .group number r, inLoop, _, k, pos, trail =>
    r.run text inLoop none (fun pos trail => k pos (trail.mark (Marks.closePlace number) pos)) pos
      (trail.mark (Marks.openPlace number) pos)
  | .loop greed least most r, inLoop, next, k, pos, trail =>
    match r.test? with
    | some test => Stretch.run text test greed least most inLoop next k pos trail
    | none =>
      Loop.run text greed least most inLoop
        (fun k => r.run text (inLoop || greed != .possessive) none k) k pos trail
  | .atomic r, inLoop, _, k, pos, trail =>
    match r.run text inLoop none .done pos (trail.move pos) with
    | .matched after => k after.head after
    | .failed after => .failed (after.move pos)
  | .look behind negated r, inLoop, _, k, pos, trail =>
    let back := (behind.map Width.least).getD 0
    if pos < back then if negated then k pos trail else .failed trail
    else
      match r.run text inLoop none .done (pos - back) (trail.move (pos - back)) with
      | .matched after => if negated then .failed after else k pos after
      | .failed after => if negated then k pos (trail.back inLoop after) else .failed after
  | .again folding number, _, _, k, pos, trail =>
    match trail.marks.span number with
    | some (first, last) =>
      if agrees text folding first pos (last - first) then k (pos + (last - first)) trail
      else .failed trail
    | none => .failed trail
  | .ifGroup number a b, inLoop, next, k, pos, trail =>
    if (trail.marks.span number).isSome then
      a.run text inLoop (if b = .empty then next else none) k pos trail
    else b.run text inLoop next k pos trail

end RequestRouter
