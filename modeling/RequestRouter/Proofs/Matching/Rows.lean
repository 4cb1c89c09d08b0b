import RequestRouter.Regex.Attempt

/-!
# Rows of marks, compared

Attempts that fail leave marks behind, and going back does not clear all of them: outside of loops a
mark that was there already keeps the place it was moved to. The only such marks are the closing
ones of groups that are still open, and these are written again before the match ends. So two rows
are compared up to them (`Scope.Alike`), and a failed attempt is held to change nothing in front of
the groups it can reach (`Scope.Kept`). `Scope.alike_back` is the point of both: what is left after
going back is alike to what was there before.
-/

namespace RequestRouter

namespace Marks

/-- The mark at a place, if there is one. -/
def at? (marks : Marks) (place : Nat) : Option Nat := marks[place]?.getD none

@[simp] theorem at?_nil (place : Nat) : at? [] place = none := by
  simp [at?]

theorem at?_of_length_le {marks : Marks} {place : Nat} (h : marks.length ≤ place) :
    marks.at? place = none := by
  simp [at?, h]

theorem at?_take (marks : Marks) (count place : Nat) :
    at? (marks.take count) place = if place < count then marks.at? place else none := by
  unfold at?
  rw [List.getElem?_take]
  split <;> rfl

/-- A mark is read where it was put, and every other place is as it was. -/
theorem at?_put (marks : Marks) (place pos other : Nat) :
    (marks.put place pos).at? other = if other = place then some pos else marks.at? other := by
  by_cases h : other = place
  · subst h
    unfold at?
    rw [getElem?_put_self]
    simp
  · have hne : place ≠ other := fun e => h e.symm
    simp only [at?, put, List.getElem?_set_ne hne, h, if_false]
    by_cases hl : other < marks.length
    · rw [List.getElem?_append_left hl]
    · have hl' : marks.length ≤ other := Nat.le_of_not_lt hl
      rw [List.getElem?_append_right hl', List.getElem?_eq_none hl']
      rw [List.getElem?_replicate]
      split <;> rfl

theorem length_put (marks : Marks) (place pos : Nat) :
    (marks.put place pos).length = max marks.length (place + 1) := by
  simp only [put, List.length_set, List.length_append, List.length_replicate]
  omega

end Marks

/-- Where in an expression a term stands: the groups that are open around it, and, in a loop, the
numbers of groups before and after the outermost one. -/
structure Scope where
  opened : List Nat := []
  loop : Option (Nat × Nat) := none

namespace Scope

/-- The place is that of the closing mark of an open group. -/
def Hides (s : Scope) (place : Nat) : Prop := ∃ n ∈ s.opened, place = Marks.closePlace n

/-- Attempts from behind `count` groups may change the marks of later groups only; in a loop, those
of the groups of that loop too. -/
def floor (s : Scope) (count : Nat) : Nat := (s.loop.map Prod.fst).getD count

/-- Behind `count` groups only these have marks; in a loop, those of the groups of that loop too. -/
def ceil (s : Scope) (count : Nat) : Nat := (s.loop.map Prod.snd).getD count

/-- The scope of the body of a loop, with the numbers of groups before and after it. -/
def inner (s : Scope) (first last : Nat) : Scope :=
    { s with loop := s.loop.or (some (first, last)) }

/-- The scope of the body of a group. -/
def within (s : Scope) (number : Nat) : Scope := { s with opened := number :: s.opened }

/-- The rows agree, up to closing marks of groups that are open. -/
def Alike (s : Scope) (a b : Marks) : Prop := ∀ place, ¬ s.Hides place → a.at? place = b.at? place

/-- The marks of the first `count` groups are as they were, up to closing marks of open groups. -/
def Kept (s : Scope) (count : Nat) (before after : Marks) : Prop :=
  ∀ place, place < 2 * count → ¬ s.Hides place → after.at? place = before.at? place

variable {s : Scope} {a b c : Marks} {m n : Nat}

theorem Alike.refl (s : Scope) (a : Marks) : s.Alike a a := fun _ _ => rfl

theorem Alike.symm (h : s.Alike a b) : s.Alike b a := fun place hp => (h place hp).symm

theorem Alike.trans (h₁ : s.Alike a b) (h₂ : s.Alike b c) : s.Alike a c :=
  fun place hp => (h₁ place hp).trans (h₂ place hp)

theorem Alike.kept (h : s.Alike a b) (n : Nat) : s.Kept n a b :=
  fun place _ hp => (h place hp).symm

theorem Kept.mono (h : s.Kept n a b) (hmn : m ≤ n) : s.Kept m a b :=
  fun place hlt hp => h place (by omega) hp

theorem Kept.trans (h₁ : s.Kept n a b) (h₂ : s.Kept n b c) : s.Kept n a c :=
  fun place hlt hp => (h₂ place hlt hp).trans (h₁ place hlt hp)

theorem floor_mono (s : Scope) (h : m ≤ n) : s.floor m ≤ s.floor n := by
  cases hl : s.loop <;> simp [floor, hl, h]

theorem ceil_mono (s : Scope) (h : m ≤ n) : s.ceil m ≤ s.ceil n := by
  cases hl : s.loop <;> simp [ceil, hl, h]

theorem floor_le (h : ∀ span, s.loop = some span → span.1 ≤ n) : s.floor n ≤ n := by
  cases hl : s.loop with
  | none => simp [floor, hl]
  | some span => simpa [floor, hl] using h span hl

theorem le_ceil (h : ∀ span, s.loop = some span → n ≤ span.2) : n ≤ s.ceil n := by
  cases hl : s.loop with
  | none => simp [ceil, hl]
  | some span => simpa [ceil, hl] using h span hl

/-- Going back from a failure behind `n` groups gives a row that is alike to the one before. In a
loop that is the row itself. Outside of loops it had marks of the first `n` groups only, and these
were kept. -/
theorem alike_back {before after : Trail} (hlen : before.marks.length ≤ 2 * s.ceil n)
    (hkept : s.Kept (s.floor n) before.marks after.marks) :
    s.Alike (before.back s.loop.isSome after).marks before.marks ∧
      (before.back s.loop.isSome after).marks.length ≤ before.marks.length := by
  cases hl : s.loop with
  | some span => exact ⟨Alike.refl s _, Nat.le_refl _⟩
  | none =>
    have hceil : s.ceil n = n := by simp [ceil, hl]
    have hfloor : s.floor n = n := by simp [floor, hl]
    rw [hceil] at hlen
    rw [hfloor] at hkept
    simp only [Trail.back, Option.isSome_none, Bool.false_eq_true, if_false]
    refine ⟨fun place hp => ?_, by simp only [List.length_take]; omega⟩
    rw [Marks.at?_take]
    split
    · next hlt => exact hkept place (by omega) hp
    · next hge => rw [Marks.at?_of_length_le (by omega)]

theorem alike_put (h : s.Alike a b) (place pos : Nat) :
    s.Alike (a.put place pos) (b.put place pos) := by
  intro other hp
  rw [Marks.at?_put, Marks.at?_put, h other hp]

/-- The closing mark of a group is written when the group closes, so from then on it counts. -/
theorem alike_close (h : (s.within n).Alike a b) (pos : Nat) :
    s.Alike (a.put (Marks.closePlace n) pos) (b.put (Marks.closePlace n) pos) := by
  intro other hp
  rw [Marks.at?_put, Marks.at?_put]
  split
  · rfl
  · next hne =>
    refine h other fun hid => ?_
    obtain ⟨k, hk, he⟩ := hid
    rcases List.mem_cons.mp hk with rfl | hk
    · exact hne he
    · exact hp ⟨k, hk, he⟩

theorem Alike.within (h : s.Alike a b) (n : Nat) : (s.within n).Alike a b :=
  fun place hp => h place fun ⟨k, hk, he⟩ => hp ⟨k, List.mem_cons_of_mem n hk, he⟩

end Scope

end RequestRouter
