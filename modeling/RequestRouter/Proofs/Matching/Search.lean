import RequestRouter.Proofs.Matching.Rows
import RequestRouter.Proofs.Matching.Ways

/-!
# The matcher takes the first way that can be continued

`Scope.Follows s count k K` says that a continuation `k` does what `K` says, where `K` is given a
place with clean marks and answers with the trail of the match, if there is one: from trails that
are alike to the clean ones, `k` succeeds exactly if `K` does, with the same trail, and if it fails
it has kept the marks in front. `Regex.follows_run` is the main statement: to run an ordinary term
in front of `k` is to search its ways for the first one at which `K` has an answer.
-/

namespace RequestRouter

theorem findSome?_cons_or {α β : Type} (f : α → Option β) (a : α) (l : List α) :
    (a :: l).findSome? f = (f a).or (l.findSome? f) := by
  rw [List.findSome?_cons]
  cases f a <;> rfl

theorem findSome?_flatMap {α β γ : Type} (f : β → Option γ) (g : α → List β) (l : List α) :
    (l.flatMap g).findSome? f = l.findSome? fun a => (g a).findSome? f := by
  induction l with
  | nil => rfl
  | cons a l ih => rw [List.flatMap_cons, List.findSome?_append, ih, findSome?_cons_or]

namespace Attempt

/-- An attempt ends as it should: with the trail of the answer, or, if there is none, with marks of
which `left` holds. -/
def Ends (left : Marks → Prop) : Attempt → Option Trail → Prop
  | .matched trail, some w => trail.head = w.head ∧ ∀ place, trail.marks.at? place =
      w.marks.at? place
  | .failed trail, none => left trail.marks
  | _, _ => False

variable {left left' : Marks → Prop} {attempt : Attempt} {answer : Option Trail}

/-- What becomes of the trail of a failure matters only as far as its marks do. -/
theorem Ends.mapFailed (h : attempt.Ends left answer) {change : Trail → Trail}
    (hchange : ∀ trail, left trail.marks → left' (change trail).marks) :
    (attempt.mapFailed change).Ends left' answer := by
  cases attempt <;> cases answer
  · exact h
  · exact h
  · exact hchange _ h
  · exact h

theorem Ends.imp (h : attempt.Ends left answer) (himp : ∀ marks, left marks → left' marks) :
    attempt.Ends left' answer := by
  cases attempt <;> cases answer
  · exact h
  · exact h
  · exact himp _ h
  · exact h

/-- A second attempt where the first one fails finds the second answer where there is no first. -/
theorem Ends.orElse {other : Trail → Attempt} {second : Option Trail} (h : attempt.Ends left answer)
    (hother : ∀ trail, left trail.marks → (other trail).Ends left' second) :
    (attempt.orElse other).Ends left' (answer.or second) := by
  cases attempt <;> cases answer
  · exact h.elim
  · exact h
  · exact hother _ h
  · exact h.elim

end Attempt

namespace Scope

/-- A continuation behind `count` groups does what `K` says. -/
def Follows (s : Scope) (count : Nat) (k : Cont) (K : Trail → Option Trail) : Prop :=
  ∀ pos trail marks, s.Alike trail.marks marks → trail.marks.length ≤ 2 * s.ceil count →
    (k pos trail).Ends (s.Kept (s.floor count) trail.marks) (K ⟨pos, marks⟩)

variable {s : Scope} {first last : Nat} {k : Cont} {K : Trail → Option Trail}

theorem Follows.mono (h : s.Follows last k K) (hle : first ≤ last) :
    s.Follows first k K := by
  intro pos trail marks halike hlen
  have hceil := s.ceil_mono hle
  exact (h pos trail marks halike (by omega)).imp fun marks hkept => hkept.mono (s.floor_mono hle)

theorem Follows.anywhere {span : Nat × Nat} (h : s.Follows first k K) (hs : s.loop = some span) :
    s.Follows last k K := by
  have hceil : s.ceil first = s.ceil last := by simp [ceil, hs]
  have hfloor : s.floor first = s.floor last := by simp [floor, hs]
  intro pos trail marks halike hlen
  rw [← hfloor]
  rw [← hceil] at hlen
  exact h pos trail marks halike hlen

theorem inner_of_loop {span : Nat × Nat} (hs : s.loop = some span) : s.inner first last = s := by
  cases s
  simp only at hs
  subst hs
  rfl

theorem Follows.inner (h : s.Follows last k K) (hle : first ≤ last) :
    (s.inner first last).Follows last k K := by
  cases hl : s.loop with
  | some span =>
    rw [inner_of_loop hl]
    exact h
  | none =>
    intro pos trail marks halike hlen
    have hceil : (s.inner first last).ceil last = s.ceil last := by simp [ceil, Scope.inner, hl]
    have hfloor : (s.inner first last).floor last = first := by simp [floor, Scope.inner, hl]
    have hfloor' : s.floor last = last := by simp [floor, hl]
    rw [hceil] at hlen
    rw [hfloor]
    have hk := h pos trail marks halike hlen
    rw [hfloor'] at hk
    exact hk.imp fun marks hkept => hkept.mono hle

theorem Follows.ofInner (h : (s.inner first last).Follows first k K) (hle : first ≤ last) :
    s.Follows first k K := by
  cases hl : s.loop with
  | some span =>
    rw [inner_of_loop hl] at h
    exact h
  | none =>
    intro pos trail marks halike hlen
    have hceil : (s.inner first last).ceil first = last := by simp [ceil, Scope.inner, hl]
    have hceil' : s.ceil first = first := by simp [ceil, hl]
    have hfloor : (s.inner first last).floor first = s.floor first := by
      simp [floor, Scope.inner, hl]
    rw [hceil'] at hlen
    have hk := h pos trail marks halike (by omega)
    rw [hfloor] at hk
    exact hk

end Scope

/-- What is written behind a term begins with `next`: where the next character cannot be the one it
begins with, there is no answer. -/
def Lead.Guards (text : Array Char) (next : Lead) (K : Trail → Option Trail) : Prop :=
  ∀ w, next.follows text w.head = false → K w = none

theorem Lead.Guards.none (text : Array Char) (K : Trail → Option Trail) :
    Lead.Guards text Option.none K := by
  intro w h
  simp [Lead.follows] at h

namespace Regex

/-- A term that begins with a test either has no way where the test fails, or takes nothing, so that
the test is the one of what follows it. -/
theorem ways_of_lead (r : Regex) (text : Array Char) {after : Lead} {test : CharTest}
    (h : r.lead after = some test) :
    (∀ w, test.passesAt text w.head = false → r.ways text w = []) ∨
      (after = some test ∧ ∀ w, r.ways text w = [w]) := by
  induction r generalizing after with
  | empty => exact .inr ⟨h, fun w => rfl⟩
  | one t =>
    simp only [lead, Option.some.injEq] at h
    subst h
    refine .inl fun w hw => ?_
    simp [ways, hw]
  | seq a b iha ihb =>
    rcases iha h with hnone | ⟨hb, hone⟩
    · refine .inl fun w hw => ?_
      simp [ways, hnone w hw]
    · rcases ihb hb with hnone | ⟨hafter, hone'⟩
      · refine .inl fun w hw => ?_
        simp [ways, hone w, hnone w hw]
      · refine .inr ⟨hafter, fun w => ?_⟩
        simp [ways, hone w, hone' w]
  | _ => simp [lead] at h

/-- The beginning of a term and of what follows it guard the search for a way of both. -/
theorem guards_lead {text : Array Char} (r : Regex) {next : Lead} {K : Trail → Option Trail}
    (h : next.Guards text K) :
    (r.lead next).Guards text fun w => (r.ways text w).findSome? K := by
  intro w hw
  cases hl : r.lead next with
  | none => simp [hl, Lead.follows] at hw
  | some test =>
    rcases r.ways_of_lead text hl with hnone | ⟨hnext, hone⟩
    · have hfail : test.passesAt text w.head = false := by
        simp only [hl, Lead.follows, Option.all_some] at hw
        cases hp : test.passesAt text w.head <;> simp [hp] at hw ⊢
      simp [hnone w hfail]
    · have hK : K w = none := h w (by rw [hnext]; rw [hl] at hw; exact hw)
      simp [hone w, hK]

theorem ways_of_not_admits {text : Array Char} (r : Regex) {w : Trail}
    (h : (r.lead none).admits text w.head = false) : r.ways text w = [] := by
  cases hl : r.lead none with
  | none => simp [hl, Lead.admits] at h
  | some test =>
    rcases r.ways_of_lead text hl with hnone | ⟨hnext, -⟩
    · apply hnone w
      simp only [hl, Lead.admits, Option.all_some] at h
      cases hp : test.passesAt text w.head <;> simp [hp] at h ⊢
    · cases hnext

end Regex

/-! ## Stretches -/

namespace Stretch

variable {text : Array Char} {s : Scope} {count : Nat} {next : Lead} {k : Cont}
  {K : Trail → Option Trail} {start : Trail} {marks : Marks}

/-- Marks that are alike to those at the start, and no more of them. -/
def Restored (s : Scope) (start : Trail) (after : Marks) : Prop :=
  s.Alike after start.marks ∧ after.length ≤ start.marks.length

section

variable (hk : s.Follows count k K) (hstart : s.Alike start.marks marks)
  (hlen : start.marks.length ≤ 2 * s.ceil count)

include hk hstart hlen

/-- What follows, tried at a place and gone back from, restores the marks at the start. -/
theorem ends_back (pos : Nat) (change : Trail → Trail)
    (hchange : ∀ t, (change t).marks = (start.back s.loop.isSome t).marks) {trail : Trail}
    (htrail : Restored s start trail.marks) :
    ((k pos (trail.move pos)).mapFailed change).Ends (Restored s start) (K ⟨pos, marks⟩) := by
  have hattempt := hk pos (trail.move pos) marks (htrail.1.trans hstart)
      (Nat.le_trans htrail.2 hlen)
  refine hattempt.mapFailed fun t hkept => ?_
  unfold Restored
  rw [hchange]
  exact Scope.alike_back hlen ((htrail.1.symm.kept _).trans hkept)

theorem ends_attemptGreedy (hnext : next.Guards text K) (pos : Nat) {trail : Trail}
    (htrail : Restored s start trail.marks) :
    (attemptGreedy text s.loop.isSome next start k pos trail).Ends (Restored s start)
      (K ⟨pos, marks⟩) := by
  unfold attemptGreedy
  split
  · exact ends_back hk hstart hlen pos _ (fun _ => rfl) htrail
  · next hf =>
    rw [hnext ⟨pos, marks⟩ (by simpa using hf)]
    exact htrail

theorem ends_shrink (hnext : next.Guards text K) (first extra : Nat) {trail : Trail}
    (htrail : Restored s start trail.marks) :
    (shrink (attemptGreedy text s.loop.isSome next start k) first extra trail).Ends
      (Restored s start) ((shrinkEnds first extra).findSome? fun pos => K ⟨pos, marks⟩) := by
  induction extra generalizing trail with
  | zero =>
    have hone := ends_attemptGreedy hk hstart hlen hnext first htrail
    rw [shrinkEnds, shrink, List.findSome?_singleton]
    exact hone
  | succ extra ih =>
    have hone := ends_attemptGreedy hk hstart hlen hnext (first + (extra + 1)) htrail
    have hor := hone.orElse fun t ht => ih ht
    rw [shrinkEnds, shrink, findSome?_cons_or]
    exact hor

theorem ends_attemptLazy (pos : Nat) {trail : Trail} (htrail : Restored s start trail.marks) :
    (attemptLazy s.loop.isSome start k pos trail).Ends (Restored s start) (K ⟨pos, marks⟩) :=
  ends_back hk hstart hlen pos (fun t => (start.back s.loop.isSome t).move pos) (fun _ =>
    rfl) htrail

theorem ends_grow (test : CharTest) (most : Option Nat) (left number pos : Nat) {trail : Trail}
    (htrail : Restored s start trail.marks) :
    (grow text test most (attemptLazy s.loop.isSome start k) left number pos trail).Ends
      (Restored s start)
      ((growEnds text test most left number pos).findSome? fun pos => K ⟨pos, marks⟩) := by
  induction left generalizing number pos trail with
  | zero =>
    rw [grow, growEnds]
    split
    · exact htrail
    · rw [findSome?_cons_or]
      refine (ends_attemptLazy hk hstart hlen pos htrail).orElse fun t ht => ?_
      exact ht
  | succ left ih =>
    rw [grow, growEnds]
    split
    · exact htrail
    · rw [findSome?_cons_or]
      refine (ends_attemptLazy hk hstart hlen pos htrail).orElse fun t ht => ?_
      dsimp only
      split
      · exact ih (number + 1) (pos + 1) ht
      · exact ht

end

/-- A stretch takes the first of its ends at which what follows succeeds. -/
theorem follows_run (greed : Greed) (least : Nat) (most : Option Nat) (test : CharTest)
    (hk : s.Follows count k K) (hnext : next.Guards text K) :
    s.Follows count (run text test greed least most s.loop.isSome next k) fun w =>
      ((ends text test greed least most w.head).map w.move).findSome? K := by
  intro pos trail marks halike hlen
  dsimp only
  rw [List.findSome?_map]
  have hcounted : ∀ number, (counted test pos number trail).marks = trail.marks := fun _ => rfl
  unfold run ends
  dsimp only
  split
  · exact Scope.Alike.kept (Scope.Alike.refl s _) _
  · generalize length text test (limit text (if greed = .lazy then some least else most) pos) pos
      = number
    split
    · exact Scope.Alike.kept (Scope.Alike.refl s _) _
    · have hrestored : Restored s (counted test pos number trail)
          (counted test pos number trail).marks := ⟨Scope.Alike.refl s _, Nat.le_refl _⟩
      have himp : ∀ after, Restored s (counted test pos number trail) after →
          s.Kept (s.floor count) trail.marks after := fun after h => h.1.symm.kept _
      cases greed with
      | greedy =>
        exact (ends_shrink hk halike hlen hnext (pos + least) (number - least) hrestored).imp himp
      | lazy =>
        exact (ends_grow hk halike hlen test most _ least (pos + least) hrestored).imp himp
      | possessive =>
        rw [List.findSome?_singleton]
        exact hk (pos + number) (counted test pos number trail) marks halike hlen

end Stretch

end RequestRouter
