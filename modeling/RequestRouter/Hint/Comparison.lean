import RequestRouter.Fault.Basic
import RequestRouter.Hint.Arithmetic
import RequestRouter.Hint.MemberNames

/-!
# Comparisons

Numbers, texts and rows are in an order, and sets by what they hold; other values are only equal or
not. What a value is looked for in has to have items.
-/

namespace RequestRouter.Hint

open Meaning

def liftTerm {α : Type} (result : Except TermFault α) : Except Fault α := result.mapError .hint

/-- Whether an order is one that a relation asks for. -/
def Relation.admits (relation : Relation) (order : Ordering) : Bool :=
  match relation with
  | .less => order == .lt
  | .atMost => order != .gt
  | .greater => order == .gt
  | .atLeast => order != .lt
  | _ => order == .eq

/-- The order of two rows of codes, where a row comes before those that continue it. -/
def compareCodes : List Nat → List Nat → Ordering
  | [], [] => .eq
  | [], _ => .lt
  | _, [] => .gt
  | a :: as, b :: bs => (compare a b).then (compareCodes as bs)

def compareFractions (r q : Rat) : Ordering := if r < q then .lt else if r == q then .eq else .gt

/-- Whether two sets are as a relation asks for: one within the other, and smaller if the relation
excludes equal ones. -/
def setsOrdered (relation : Relation) (as bs : List Meaning) : Bool :=
  match relation with
  | .less => allIn as bs && as.length < bs.length
  | .atMost => allIn as bs
  | .greater => allIn bs as && bs.length < as.length
  | _ => allIn bs as

/-- Whether two values that are no rows are in an order that a relation asks for. -/
def plainOrdered (relation : Relation) (a b : Meaning) : Except TermFault Bool :=
  match a, b with
  | .text s, .text t =>
    .ok (relation.admits (compareCodes (s.toList.map (·.toNat)) (t.toList.map (·.toNat))))
  | .bytes as, .bytes bs =>
    .ok (relation.admits (compareCodes (as.map (·.toNat)) (bs.map (·.toNat))))
  | a, b =>
    match fraction? a, fraction? b, setMembers? a, setMembers? b with
    | some r, some q, _, _ => .ok (relation.admits (compareFractions r q))
    | _, _, some as, some bs => .ok (setsOrdered relation as bs)
    | _, _, _, _ =>
      let real (m : Meaning) := (numberRank? m).any (· < 3)
      if real a && real b || a.typeName == "str" && b.typeName == "str" then .ok true
      else mistyped (.unordered relation.sign a.typeName b.typeName)

mutual

/-- Whether two values are in an order that a relation asks for. -/
def ordered (relation : Relation) : Meaning → Meaning → Except TermFault Bool
  | .items .list as, .items .list bs => rowsOrdered relation as bs
  | .items .tuple as, .items .tuple bs => rowsOrdered relation as bs
  | a, b => plainOrdered relation a b

/-- Whether two rows are in an order that a relation asks for, which their first items that differ
decide. -/
def rowsOrdered (relation : Relation) : List Meaning → List Meaning → Except TermFault Bool
  | [], [] => .ok (relation.admits .eq)
  | [], _ => .ok (relation.admits .lt)
  | _, [] => .ok (relation.admits .gt)
  | a :: as, b :: bs => if equals a b then rowsOrdered relation as bs else ordered relation a b

end

/-- Two meanings are the same one. Constants and classes are there once only, rows are made afresh
each time. -/
def isSame (a b : Meaning) : Bool :=
  match a, b with
  | .whole m, .whole n => m == n
  | .inexact r i, .inexact q j => r == q && i == j
  | .nothing, _ | .truth _, .truth _ | .ellipsis, _ | .type _, _ | .form _, _ | .function _, _
  | .text _, _ | .bytes _, _ | .union .listed _, .union .listed _ | .instance _, _ => equals a b
  | _, _ => false

/-- Items that can be run through without calling anything, if there are any. -/
def items? : Meaning → Option (List Meaning)
  | .text s => some (s.toList.map fun c => .text (String.singleton c))
  | .bytes bs => some (bs.map fun b => .whole b.toNat)
  | .items _ row => some row
  | .entries row => some (row.map (·.1))
  | .range first last step => some ((rangeItems first last step).map .whole)
  | .generic .. => some [.thing (standardClass "GenericAlias")]
  | .union .listed _ => some [.thing (standardClass "_UnionGenericAlias")]
  | .thing c => if hasMember c "__iter__" then some [] else none
  | _ => none

def isPart (part : List Char) : List Char → Bool
  | [] => part.isEmpty
  | c :: rest => part.isPrefixOf (c :: rest) || isPart part rest

def isWithin (a b : Meaning) : Except Fault Bool :=
  match a, b with
  | .text s, .text t => .ok (isPart s.toList t.toList)
  | a, .text _ => liftTerm (mistyped (.notSought a.typeName))
  | a, .range first last step =>
    .ok (a.number?.any fun n =>
      (first ≤ n && n < last || last < n && n ≤ first) && (n - first) % step == 0)
  | a, b =>
    let keyed := match b with
      | .entries _ | .items .set _ | .items .frozen _ => true
      | _ => false
    match items? b, keyed, unhashable? a with
    | none, _, _ => .error (.misuse (.notIterable b.typeName))
    | some _, true, some c =>
      if (setMembers? a).isSome && (setMembers? b).isSome then .ok false
      else liftTerm (mistyped (.unhashable c.name))
    | some row, _, _ => .ok (row.any (equals a))

/-- Whether two meanings are as a relation asks for. -/
def relate (relation : Relation) (a b : Meaning) : Except Fault Bool :=
  match relation with
  | .equal => .ok (equals a b)
  | .unequal => .ok (!equals a b)
  | .same => .ok (isSame a b)
  | .notSame => .ok (!isSame a b)
  | .within => isWithin a b
  | .notWithin => (isWithin a b).map (!·)
  | relation => liftTerm (ordered relation a b)

end RequestRouter.Hint
