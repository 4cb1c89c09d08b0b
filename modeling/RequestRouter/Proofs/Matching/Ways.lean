import RequestRouter.Regex.Match

/-!
# The ways in which a term matches

The matcher is a search: it runs a term in front of a continuation and takes the first way of
matching that lets the continuation succeed. `Regex.ways` lists these ways, in the order in which
they are tried, as a function from the trail at the start to the trails at the end; here a trail is
read as a place and the marks that belong to it, nothing is left over from failures. The list is for
ordinary terms (`Regex.Ordinary`): tests, anchors, sequences, choices, groups and loops, where a
possessive loop repeats a single test. `Regex.Numbered` says that groups are numbered in the order
in which they open.
-/

namespace RequestRouter

namespace Stretch

/-- The ends of a stretch that gives characters back, the furthest first. -/
def shrinkEnds (start : Nat) : (extra : Nat) → List Nat
  | 0 => [start]
  | extra + 1 => (start + (extra + 1)) :: shrinkEnds start extra

/-- The ends of a stretch that grows by one character at a time. -/
def growEnds (text : Array Char) (test : CharTest) (most : Option Nat) :
    (left count pos : Nat) → List Nat
  | left, count, pos =>
    if most.any (· < count) then []
    else pos :: match left with
      | 0 => []
      | left + 1 =>
        if test.passesAt text pos then growEnds text test most left (count + 1) (pos + 1) else []

/-- The ends of a stretch that begins at a position, in the order in which they are tried. -/
def ends (text : Array Char) (test : CharTest) (greed : Greed) (least : Nat) (most : Option Nat)
    (pos : Nat) : List Nat :=
  if text.size < pos + least then []
  else
    let wanted := if greed = .lazy then some least else most
    let number := length text test (limit text wanted pos) pos
    if number < least then []
    else match greed with
      | .greedy => shrinkEnds (pos + least) (number - least)
      | .lazy => growEnds text test most (text.size - (pos + least)) least (pos + least)
      | .possessive => [pos + number]

end Stretch

namespace Loop

/-- The ways of a loop that repeats its body as often as possible. -/
def greedyWays (body : Trail → List Trail) (least : Nat) (most : Option Nat) :
    (fuel count : Nat) → (last : Option Nat) → Trail → List Trail
  | 0, _, _, _ => []
  | fuel + 1, count, last, w =>
    if count < least then (body w).flatMap (greedyWays body least most fuel (count + 1) last)
    else if mayGoOn most count last w.head then
      (body w).flatMap (greedyWays body least most fuel (count + 1) (some w.head)) ++ [w]
    else [w]

/-- The ways of a loop that repeats its body as seldom as possible. -/
def lazyWays (body : Trail → List Trail) (least : Nat) (most : Option Nat) :
    (fuel count : Nat) → (last : Option Nat) → Trail → List Trail
  | 0, _, _, _ => []
  | fuel + 1, count, last, w =>
    if count < least then (body w).flatMap (lazyWays body least most fuel (count + 1) last)
    else w ::
      if mayGoOn most count last w.head then
        (body w).flatMap (lazyWays body least most fuel (count + 1) (some w.head))
      else []

/-- The ways of a loop that gives repetitions back. -/
def ways (text : Array Char) (greed : Greed) (least : Nat) (most : Option Nat)
    (body : Trail → List Trail) (w : Trail) : List Trail :=
  match greed with
  | .greedy => greedyWays body least most (fuelFor text least) 0 none w
  | .lazy => lazyWays body least most (fuelFor text least) 0 none w
  | .possessive => []

end Loop

namespace Regex

/-- The ways in which an ordinary term matches, in the order in which they are tried. -/
def ways (text : Array Char) : Regex → Trail → List Trail
  | .empty, w => [w]
  | .one test, w => if test.passesAt text w.head then [w.move (w.head + 1)] else []
  | .place anchor, w => if anchor.holds text w.head then [w] else []
  | .seq a b, w => (a.ways text w).flatMap (b.ways text)
  | .alternative r, w => r.ways text w
  | .either a b, w => a.ways text w ++ b.ways text w
  | .group number r, w =>
    (r.ways text (w.mark (Marks.openPlace number) w.head)).map fun v =>
      v.mark (Marks.closePlace number) v.head
  | .loop greed least most r, w =>
    match r.test? with
    | some test => (Stretch.ends text test greed least most w.head).map w.move
    | none => Loop.ways text greed least most (r.ways text) w
  | _, _ => []

/-- A term that the matcher searches in the plain way: nothing in it looks around, refers to a group
or keeps what it has taken, except a possessive loop over a single test. -/
def Ordinary : Regex → Prop
  | .empty | .one _ | .place _ => True
  | .seq a b | .either a b => a.Ordinary ∧ b.Ordinary
  | .alternative r | .group _ r => r.Ordinary
  | .loop greed least most r =>
    r.Ordinary ∧ most.all (least ≤ ·) ∧ (greed = .possessive → r.test?.isSome)
  | _ => False

/-- The groups of a term are numbered from `first + 1` to `last` in the order in which they open. -/
def Numbered : (first last : Nat) → Regex → Prop
  | first, last, .seq a b | first, last, .either a b =>
    ∃ middle, a.Numbered first middle ∧ b.Numbered middle last
  | first, last, .alternative r | first, last, .loop _ _ _ r | first, last, .atomic r
  | first, last, .look _ _ r => r.Numbered first last
  | first, last, .group number r => number = first + 1 ∧ r.Numbered (first + 1) last
  | first, last, .ifGroup _ a b => ∃ middle, a.Numbered first middle ∧ b.Numbered middle last
  | first, last, .empty | first, last, .one _ | first, last, .place _ | first, last, .again _ _ =>
    first = last

theorem Numbered.le {r : Regex} {first last : Nat} (h : r.Numbered first last) : first ≤ last := by
  induction r generalizing first last with
  | empty | one | place | again => exact Nat.le_of_eq h
  | seq a b iha ihb | either a b iha ihb | ifGroup _ a b iha ihb =>
    obtain ⟨middle, ha, hb⟩ := h
    exact Nat.le_trans (iha ha) (ihb hb)
  | alternative r ih | loop _ _ _ r ih | atomic r ih | look _ _ r ih => exact ih h
  | group number r ih => exact Nat.le_of_succ_le (ih h.2)

theorem eq_one_of_test? {r : Regex} {test : CharTest} (h : r.test? = some test) :
    r = .one test := by
  cases r <;> simp only [test?, reduceCtorEq] at h
  cases h
  rfl

end Regex

end RequestRouter
