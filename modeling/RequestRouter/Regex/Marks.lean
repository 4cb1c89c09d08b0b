/-!
# Marks of groups

While a text is matched, a group leaves a mark where it opens and another where it closes. The marks
stand in one row, two places for each group in the order of the groups. The row is as long as the
furthest mark needs; places that were passed over are empty.
-/

namespace RequestRouter

/-- The marks left so far. -/
abbrev Marks := List (Option Nat)

namespace Marks

/-- The place of the mark where a group opens. -/
def openPlace (number : Nat) : Nat := 2 * number - 2

/-- The place of the mark where a group closes. -/
def closePlace (number : Nat) : Nat := 2 * number - 1

/-- Leaves a mark; the row grows up to its place if it is shorter. -/
def put (marks : Marks) (place pos : Nat) : Marks :=
  (marks ++ List.replicate (place + 1 - marks.length) none).set place (some pos)

/-- The two marks of a group that has both. -/
def pair? (marks : Marks) (number : Nat) : Option (Nat × Nat) :=
  match marks[openPlace number]?, marks[closePlace number]? with
  | some (some first), some (some last) => some (first, last)
  | _, _ => none

/-- The piece of text that a group took. While a group is open again it has its new start with its
old end, which is a piece of text only if they are in order. -/
def span (marks : Marks) (number : Nat) : Option (Nat × Nat) :=
  (marks.pair? number).filter fun (first, last) => first ≤ last

/-- A group closes before it opens. -/
def isCrossed (marks : Marks) (number : Nat) : Bool :=
  (marks.pair? number).any fun (first, last) => last < first

/-- The mark that was left last is there. -/
theorem getElem?_put_self (marks : Marks) (place pos : Nat) :
    (marks.put place pos)[place]? = some (some pos) := by
  have long : place < (marks ++ List.replicate (place + 1 - marks.length) none).length := by
    simp only [List.length_append, List.length_replicate]
    omega
  simp [put, List.getElem?_set_self long]

/-- Leaving a mark never shortens the row. -/
theorem length_le_length_put (marks : Marks) (place pos : Nat) :
    marks.length ≤ (marks.put place pos).length := by
  simp [put]

end Marks

end RequestRouter
