import RequestRouter.Regex.Match

/-!
# Success only through what follows

Whatever a term is, it succeeds only if what follows it does, and with the result of that
(`Regex.run_through`). Nothing is said here about where the term ends: a look-behind, or a
repetition that keeps what it has, may end before it began.
-/

namespace RequestRouter

namespace Attempt

/-- A success of the attempt is one of what follows. -/
def Through (attempt : Attempt) (k : Cont) : Prop :=
  ∀ trail, attempt = .matched trail → ∃ pos before, k pos before = .matched trail

variable {attempt : Attempt} {k k' : Cont}

theorem through_failed (trail : Trail) (k : Cont) : (failed trail).Through k :=
  fun _ h => nomatch h

theorem through_cont (k : Cont) (pos : Nat) (trail : Trail) : (k pos trail).Through k :=
  fun _ h => ⟨pos, trail, h⟩

theorem Through.orElse (h : attempt.Through k) {other : Trail → Attempt}
    (hother : ∀ trail, (other trail).Through k) : (attempt.orElse other).Through k := by
  cases attempt with
  | matched trail => exact h
  | failed trail => exact hother trail

theorem Through.mapFailed (h : attempt.Through k) (change : Trail → Trail) :
    (attempt.mapFailed change).Through k := h.orElse fun _ => through_failed _ k

theorem Through.trans (h : attempt.Through k') (hk : ∀ pos trail, (k' pos trail).Through k) :
    attempt.Through k := by
  intro trail hmatched
  obtain ⟨pos, before, h⟩ := h trail hmatched
  exact hk pos before trail h

end Attempt

open Attempt

/-! ## Stretches -/

namespace Stretch

variable {text : Array Char} {test : CharTest} {attempt k : Cont}

theorem shrink_through (h : ∀ pos trail, (attempt pos trail).Through k) (start extra : Nat)
    (trail : Trail) : (shrink attempt start extra trail).Through k := by
  induction extra generalizing trail with
  | zero => exact h start trail
  | succ extra ih => exact (h _ trail).orElse ih

theorem grow_through (h : ∀ pos trail, (attempt pos trail).Through k) (most : Option Nat)
    (left count pos : Nat) (trail : Trail) :
    (grow text test most attempt left count pos trail).Through k := by
  induction left generalizing count pos trail with
  | zero =>
    unfold grow
    split
    · exact through_failed _ k
    · exact (h pos trail).orElse fun _ => through_failed _ k
  | succ left ih =>
    unfold grow
    split
    · exact through_failed _ k
    · refine (h pos trail).orElse fun trail => ?_
      dsimp only
      split
      · exact ih _ _ _
      · exact through_failed _ k

theorem run_through (greed : Greed) (least : Nat) (most : Option Nat) (inLoop : Bool) (next : Lead)
    (pos : Nat) (trail : Trail) :
    (run text test greed least most inLoop next k pos trail).Through k := by
  unfold run
  generalize (if greed = .lazy then some least else most) = wanted
  split
  · exact through_failed _ k
  · dsimp only
    split
    · exact through_failed _ k
    · cases greed with
      | greedy =>
        refine shrink_through (fun pos trail => ?_) _ _ _
        unfold attemptGreedy
        split
        · exact (through_cont k _ _).mapFailed _
        · exact through_failed _ k
      | lazy => exact grow_through (fun pos trail => (through_cont k _ _).mapFailed _) _ _ _ _ _
      | possessive => exact through_cont k _ _

end Stretch

/-! ## Loops -/

namespace Loop

variable {body : Cont → Cont} (hbody : ∀ k pos trail, (body k pos trail).Through k) {k : Cont}

include hbody

theorem greedy_through (least : Nat) (most : Option Nat) (fuel count : Nat) (last : Option Nat)
    (pos : Nat) (trail : Trail) :
    (greedy body least most k fuel count last pos trail).Through k := by
  induction fuel generalizing count last pos trail with
  | zero => exact through_failed _ k
  | succ fuel ih =>
    have hfinish : ((k pos (trail.move pos)).mapFailed (·.move pos)).Through k :=
      (through_cont k _ _).mapFailed _
    dsimp only [greedy]
    split
    · exact ((hbody _ _ _).trans (ih _ _)).mapFailed _
    · split
      · exact ((hbody _ _ _).trans (ih _ _)).orElse fun _ => hfinish
      · exact hfinish

theorem lazy_through (least : Nat) (most : Option Nat) (inLoop : Bool) (fuel count : Nat)
    (last : Option Nat) (pos : Nat) (trail : Trail) :
    (lazy body least most inLoop k fuel count last pos trail).Through k := by
  induction fuel generalizing count last pos trail with
  | zero => exact through_failed _ k
  | succ fuel ih =>
    dsimp only [lazy]
    split
    · exact ((hbody _ _ _).trans (ih _ _)).mapFailed _
    · refine (through_cont k _ _).orElse fun trail => ?_
      split
      · exact ((hbody _ _ _).trans (ih _ _)).mapFailed _
      · exact through_failed _ k

theorem run_through (text : Array Char) (greed : Greed) (least : Nat) (most : Option Nat)
    (inLoop : Bool) (pos : Nat) (trail : Trail) :
    (run text greed least most inLoop body k pos trail).Through k := by
  have hpossessive : ∀ start fuel count last trail,
      (possessive body least most k start fuel count last trail).Through k := by
    intro start fuel
    induction fuel with
    | zero => exact fun _ _ _ => through_failed _ k
    | succ fuel ih =>
      intro count last trail
      unfold possessive
      dsimp only
      split
      · split
        · exact ih _ _ _
        · exact through_failed _ k
      · split
        · split
          · exact ih _ _ _
          · exact through_cont k _ _
        · exact through_cont k _ _
  cases greed with
  | greedy => exact greedy_through hbody _ _ _ _ _ _ _
  | lazy => exact lazy_through hbody _ _ _ _ _ _ _ _
  | possessive => exact hpossessive _ _ _ _ _

end Loop

/-! ## Terms -/

theorem Regex.run_through {text : Array Char} (r : Regex) (inLoop : Bool) (next : Lead) (k : Cont)
    (pos : Nat) (trail : Trail) : (r.run text inLoop next k pos trail).Through k := by
  induction r generalizing inLoop next k pos trail with
  | empty => exact through_cont k _ _
  | one test =>
    unfold run
    split
    · exact through_cont k _ _
    · exact through_failed _ k
  | place anchor =>
    unfold run
    split
    · exact through_cont k _ _
    · exact through_failed _ k
  | seq a b iha ihb => exact (iha _ _ _ _ _).trans (ihb _ _ _)
  | alternative r ih =>
    unfold run
    split
    · exact ih _ _ _ _ _
    · exact through_failed _ k
  | either a b iha ihb =>
    exact (iha _ _ _ _ _).orElse fun _ => (ihb _ _ _ _ _).mapFailed _
  | group number r ih => exact (ih _ _ _ _ _).trans fun pos trail => through_cont k _ _
  | loop greed least most r ih =>
    unfold run
    split
    · exact Stretch.run_through _ _ _ _ _ _ _
    · exact Loop.run_through (fun k pos trail => ih _ _ k pos trail) _ _ _ _ _ _ _
  | atomic r =>
    unfold run
    split
    · exact through_cont k _ _
    · exact through_failed _ k
  | look behind negated r =>
    unfold run
    dsimp only
    split
    · split
      · exact through_cont k _ _
      · exact through_failed _ k
    · split
      · split
        · exact through_failed _ k
        · exact through_cont k _ _
      · split
        · exact through_cont k _ _
        · exact through_failed _ k
  | again folding number =>
    unfold run
    split
    · split
      · exact through_cont k _ _
      · exact through_failed _ k
    · exact through_failed _ k
  | ifGroup number a b iha ihb =>
    unfold run
    split
    · exact iha _ _ _ _ _
    · exact ihb _ _ _ _ _

end RequestRouter
