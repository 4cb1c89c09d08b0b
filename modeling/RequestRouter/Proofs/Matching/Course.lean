import RequestRouter.Proofs.Matching.Parts
import RequestRouter.Proofs.Matching.Whole

/-!
# The course of a way

A way through a row of parts leads through one part after another (`Part.mem_ways_append`), and what
it does in each of them can be read off its trails: letters leave the marks alone, a group is marked
where it was entered and left, and a part that may be left out is either passed by or gone through
once. What is found at a place is the end of the first way that begins there (`Regex.matchAt_cases`);
a lazy stretch ends where what follows it first succeeds (`Stretch.exists_of_head_lazy`).
-/

namespace RequestRouter

namespace Marks

variable {a b : Marks} {number : Nat}

/-- The piece of a group is told by the two marks of the group. -/
theorem span_congr (hopen : a.at? (openPlace number) = b.at? (openPlace number))
    (hclose : a.at? (closePlace number) = b.at? (closePlace number)) :
    a.span number = b.span number := by
  have hpair : ∀ marks : Marks, marks.pair? number =
      (marks.at? (openPlace number)).bind fun first =>
        (marks.at? (closePlace number)).map fun last => (first, last) := by
    intro marks
    unfold pair? at?
    rcases marks[openPlace number]? with _ | _ | first <;>
      rcases marks[closePlace number]? with _ | _ | last <;> rfl
  rw [span, span, hpair a, hpair b, hopen, hclose]

end Marks

namespace Stretch

variable {text : Array Char} {test : CharTest}

theorem le_of_mem_growEnds {most : Option Nat} {left count pos q : Nat}
    (h : q ∈ growEnds text test most left count pos) : pos ≤ q := by
  induction left generalizing count pos with
  | zero =>
    unfold growEnds at h
    split at h
    · cases h
    · exact Nat.le_of_eq (List.mem_singleton.mp h).symm
  | succ left ih =>
    unfold growEnds at h
    split at h
    · cases h
    · rcases List.mem_cons.mp h with rfl | h
      · exact Nat.le_refl _
      · dsimp only at h
        split at h
        · exact Nat.le_of_succ_le (ih h)
        · cases h

/-- A lazy stretch tries its ends from left to right. -/
theorem pairwise_growEnds (text : Array Char) (test : CharTest) (most : Option Nat)
    (left count pos : Nat) : (growEnds text test most left count pos).Pairwise (· < ·) := by
  induction left generalizing count pos with
  | zero =>
    unfold growEnds
    split
    · exact .nil
    · exact List.pairwise_singleton _ _
  | succ left ih =>
    unfold growEnds
    split
    · exact .nil
    · refine .cons (fun q hq => ?_) ?_
      · dsimp only at hq
        split at hq
        · exact le_of_mem_growEnds hq
        · cases hq
      · dsimp only
        split
        · exact ih ..
        · exact .nil

theorem pairwise_ends_lazy (text : Array Char) (test : CharTest) (least : Nat) (most : Option Nat)
    (pos : Nat) : (ends text test .lazy least most pos).Pairwise (· < ·) := by
  unfold ends
  split
  · exact .nil
  · dsimp only
    generalize length text test _ pos = number
    split
    · exact .nil
    · exact pairwise_growEnds ..

/-- Where a lazy stretch stops first with success, what follows has failed at all places before. -/
theorem exists_of_head_lazy {α : Type} {least : Nat} {most : Option Nat}
    {pos : Nat} {f : Nat → List α} {a : α}
    (h : ((ends text test .lazy least most pos).flatMap f).head? = some a) :
    ∃ q ∈ ends text test .lazy least most pos, (f q).head? = some a ∧
      ∀ p ∈ ends text test .lazy least most pos, p < q → f p = [] := by
  rw [List.head?_flatMap, List.findSome?_eq_some_iff] at h
  obtain ⟨before, q, behind, hsplit, hq, hbefore⟩ := h
  refine ⟨q, ?_, hq, fun p hp hlt => ?_⟩
  · rw [hsplit]
    exact List.mem_append_right _ List.mem_cons_self
  · have hsorted := pairwise_ends_lazy text test least most pos
    rw [hsplit] at hp hsorted
    rcases List.mem_append.mp hp with hp | hp
    · exact List.head?_eq_none_iff.mp (hbefore p hp)
    · rcases List.mem_cons.mp hp with rfl | hp
      · exact absurd hlt (Nat.lt_irrefl _)
      · have hgt := List.rel_of_pairwise_cons (List.pairwise_append.mp hsorted).2.1 hp
        omega

end Stretch

namespace Regex

variable {text : Array Char} {r : Regex} {number first last : Nat} {w v : Trail}

/-- A group is marked where a way enters it and where the way leaves it. -/
theorem span_of_mem_ways_group (hr : r.Ordinary) (hn : (Regex.group number r).Numbered first last)
    (h : v ∈ (Regex.group number r).ways text w) :
    v.marks.span number = some (w.head, v.head) := by
  obtain ⟨rfl, hbody⟩ := hn
  obtain ⟨u, hu, rfl⟩ := List.mem_map.mp h
  apply Marks.span_eq_some
  · simp only [Trail.mark, Marks.at?_put, Marks.openPlace, Marks.closePlace]
    rw [if_neg (by omega), at?_of_mem_ways hbody hu (by omega)]
    simp only [Trail.mark, Marks.at?_put, Marks.openPlace, if_true]
  · simp only [Trail.mark, Marks.at?_put, if_true]
  · exact (takes_of_mem_ways hr hu).le

/-- What may be left out is gone through once, or else passed by. -/
theorem ways_optional (hr : r.test? = none) :
    (Regex.loop .greedy 0 (some 1) r).ways text w = r.ways text w ++ [w] := by
  have honce : ∀ fuel last, Loop.greedyWays (r.ways text) 0 (some 1) (fuel + 1) 1 last =
      fun u => [u] := by
    intro fuel last
    funext u
    simp [Loop.greedyWays, Loop.mayGoOn]
  obtain ⟨fuel, hfuel⟩ : ∃ fuel, Loop.fuelFor text 0 = fuel + 2 := by
    refine ⟨Loop.fuelFor text 0 - 2, ?_⟩
    have hfuel : (text.size + 2) * 2 ≤ Loop.fuelFor text 0 := by
      rw [Loop.fuelFor, Nat.zero_add]
      exact Nat.mul_le_mul_left _ (Nat.le_add_left ..)
    omega
  have hmay : Loop.mayGoOn (some 1) 0 none w.head = true := rfl
  simp only [ways, hr, Loop.ways, hfuel]
  rw [Loop.greedyWays, if_neg (Nat.lt_irrefl 0), if_pos hmay, honce, List.flatMap_singleton']

theorem eq_or_mem_ways_of_optional (hr : r.test? = none)
    (h : v ∈ (Regex.loop .greedy 0 (some 1) r).ways text w) : v = w ∨ v ∈ r.ways text w := by
  rw [ways_optional hr] at h
  rcases List.mem_append.mp h with h | h
  · exact .inr h
  · exact .inl (List.mem_singleton.mp h)

/-- At a place where a term has no way nothing is found. Otherwise what is found is the end of the
first way, with its marks. -/
theorem matchAt_cases (hr : r.Ordinary) (hn : r.Numbered 0 last) (text : Array Char) (pos : Nat) :
    r.ways text (.start pos) = [] ∧ r.matchAt text pos = none ∨
      ∃ v, (r.ways text (.start pos)).head? = some v ∧
        ∃ marks, r.matchAt text pos = some ⟨pos, v.head, marks⟩ ∧
          ∀ place, marks.at? place = v.marks.at? place := by
  have hdone : Scope.Follows {} last .done some := by
    intro p trail marks halike _
    refine ⟨rfl, fun place => halike place ?_⟩
    rintro ⟨n, hn, -⟩
    cases hn
  have hrun := follows_run (s := {}) hr hn (Lead.Guards.none text some) hdone nofun
  have hends := hrun pos (.start pos) [] (Scope.Alike.refl _ _) (Nat.zero_le _)
  have hstart : (⟨pos, []⟩ : Trail) = .start pos := rfl
  rw [hstart] at hends
  unfold matchAt
  cases hattempt : r.run text false none .done pos (.start pos) with
  | failed trail =>
    cases hways : r.ways text (.start pos) with
    | nil => exact .inl ⟨rfl, rfl⟩
    | cons v rest =>
      simp [hways, hattempt, Attempt.Ends] at hends
  | matched trail =>
    cases hways : r.ways text (.start pos) with
    | nil =>
      simp [hways, hattempt, Attempt.Ends] at hends
    | cons v rest =>
      simp only [hways, List.findSome?_cons, Option.isSome_none, hattempt] at hends
      obtain ⟨hhead, hmarks⟩ := hends
      exact .inr ⟨v, rfl, trail.marks, by rw [← hhead], hmarks⟩

theorem findFrom_of_lt {fuel pos : Nat} (h : text.size < pos) : r.findFrom text fuel pos = [] := by
  cases fuel with
  | zero => rfl
  | succ fuel => rw [findFrom, if_pos h]

theorem findFrom_eq_cons {fuel pos : Nat} {found : Found} (h : r.matchAt text pos = some found)
    (hlast : pos < found.last) (hpos : pos ≤ text.size) :
    r.findFrom text (fuel + 1) pos = found :: r.findFrom text fuel found.last := by
  rw [findFrom, if_neg (Nat.not_lt.mpr hpos), h]
  have hmax : max found.last (pos + 1) = found.last := Nat.max_eq_left hlast
  simp only [hmax]

/-- A term is found at the places where it takes something. -/
theorem exists_matchAt_iff (hr : r.Ordinary) (hn : r.Numbered 0 last) {pos : Nat}
    (hpos : pos ≤ text.size) :
    (∃ found, r.matchAt text pos = some found) ↔ ∃ q, r.Takes text pos q := by
  rcases matchAt_cases hr hn text pos with ⟨hways, hnone⟩ | ⟨v, hv, marks, hmatch, -⟩
  · constructor
    · rintro ⟨found, hfound⟩
      rw [hnone] at hfound
      cases hfound
    · rintro ⟨q, htakes⟩
      obtain ⟨v, hv, -⟩ := exists_mem_ways hr hpos htakes []
      have hstart : (⟨pos, []⟩ : Trail) = .start pos := rfl
      rw [hstart, hways] at hv
      cases hv
  · exact ⟨fun _ => ⟨v.head, takes_of_mem_ways hr (List.mem_of_head? hv)⟩, fun _ => ⟨_, hmatch⟩⟩

end Regex

theorem Trail.head_move (w : Trail) (pos : Nat) : (w.move pos).head = pos := rfl

namespace Part

variable {text : Array Char} {part : Part} {parts : List Part} {w v : Trail}

theorem mem_ways_cons : v ∈ (termOf (part :: parts)).ways text w ↔
    ∃ u ∈ part.regex.ways text w, v ∈ (termOf parts).ways text u := by
  by_cases hnil : parts = []
  · subst hnil
    simp [termOf, Regex.seqAll, Regex.ways]
  · rw [termOf_cons hnil]
    exact List.mem_flatMap

theorem mem_ways_append {a b : List Part} : v ∈ (termOf (a ++ b)).ways text w ↔
    ∃ u ∈ (termOf a).ways text w, v ∈ (termOf b).ways text u := by
  induction a generalizing w with
  | nil => simp [termOf, Regex.seqAll, Regex.ways]
  | cons part a ih =>
    simp only [List.cons_append, mem_ways_cons, ih]
    constructor
    · rintro ⟨x, hx, u, hu, hv⟩
      exact ⟨u, ⟨x, hx, hu⟩, hv⟩
    · rintro ⟨u, ⟨x, hx, hu⟩, hv⟩
      exact ⟨x, hx, u, hu, hv⟩

theorem ways_letter {c : Char} : (letter c).regex.ways text w =
    if text[w.head]? = some c then [w.move (w.head + 1)] else [] := by
  simp only [letter, regex, Regex.ways, ← letter_passesAt]

theorem mem_ways_letter {c : Char} : v ∈ (letter c).regex.ways text w ↔
    text[w.head]? = some c ∧ v = w.move (w.head + 1) := by
  rw [ways_letter]
  split <;> simp_all

/-- The first way through parts leads through the parts. -/
theorem exists_of_head_ways_cons (h : ((termOf (part :: parts)).ways text w).head? = some v) :
    ∃ u ∈ part.regex.ways text w, ((termOf parts).ways text u).head? = some v := by
  by_cases hnil : parts = []
  · subst hnil
    refine ⟨v, List.mem_of_head? h, rfl⟩
  · rw [termOf_cons hnil] at h
    have hways : (Regex.seq part.regex (termOf parts)).ways text w =
        (part.regex.ways text w).flatMap ((termOf parts).ways text) := rfl
    rw [hways, List.head?_flatMap] at h
    exact List.exists_of_findSome?_eq_some h

/-- Letters lead past the piece of the text that they spell. -/
theorem slice_of_mem_ways_letters {letters : List Char} (hw : w.head ≤ text.size)
    (h : v ∈ (termOf (letters.map letter)).ways text w) :
    v.marks = w.marks ∧ w.head ≤ v.head ∧ v.head ≤ text.size ∧
      slice text w.head v.head = letters := by
  constructor
  · clear hw
    induction letters generalizing w with
    | nil => rw [List.mem_singleton.mp h]
    | cons c letters ih =>
      obtain ⟨u, hu, hv⟩ := mem_ways_cons.mp h
      obtain ⟨-, rfl⟩ := mem_ways_letter.mp hu
      have hmarks : v.marks = (w.move (w.head + 1)).marks := ih hv
      exact hmarks
  · have hordinary : (termOf (letters.map letter)).Ordinary := by
      apply ordinary_termOf
      intro part hpart
      obtain ⟨c, -, rfl⟩ := List.mem_map.mp hpart
      trivial
    have htakes := Regex.takes_of_mem_ways hordinary h
    exact (takes_letters hw).mp (takes_termOf.mp htakes)

end Part

end RequestRouter
