import RequestRouter.Hint.Comparison

/-!
# What stands in brackets behind a value

Forms and classes take arguments there, rows take places, and mappings take keys. A place is a whole
number, which counts from the end where it is negative, or a slice.
-/

namespace RequestRouter.Hint

open Meaning

/-- The place that a number means in a row of a length. -/
def placeIn? (length : Nat) (n : Int) : Option Nat :=
  let place := if n < 0 then n + length else n
  if 0 ≤ place ∧ place < length then some place.toNat else none

/-- A place lies in its row. -/
theorem placeIn?_lt {length place : Nat} {n : Int} (h : placeIn? length n = some place) :
    place < length := by
  simp only [placeIn?, Option.ite_none_right_eq_some, Option.some.injEq] at h
  omega

/-- An end of a slice, brought between the bounds of a row. -/
def bounded (length : Nat) (low high : Int) (n : Int) : Int :=
  let place := if n < 0 then n + length else n
  max low (min high place)

/-- The places of a slice in a row of a length. -/
def slicePlaces (length : Nat) (first last : Option Int) (step : Int) : List Nat :=
  let (low, high) : Int × Int := if step < 0 then (-1, length - 1) else (0, length)
  let start := (first.map (bounded length low high)).getD (if step < 0 then high else low)
  let stop := (last.map (bounded length low high)).getD (if step < 0 then low else high)
  (rangeItems start stop step).map Int.toNat

/-- An end or the step of a slice, if it is given. -/
def sliceNumber (m : Meaning) : Except TermFault (Option Int) :=
  match m, m.number? with
  | .nothing, _ => .ok none
  | _, some n => .ok (some n)
  | _, none => mistyped
    (.argument "slice indices must be integers or None or have an __index__ method")

/-- The items at the places that brackets name. -/
def placed? {α : Type} (row : List α) (argument : Meaning) (name : String) :
    Except TermFault (Option α ⊕ List α) :=
  match argument, argument.number? with
  | .slice first last step, _ => do
    let step := (← sliceNumber step).getD 1
    if step == 0 then .error (.badValue "slice step cannot be zero")
    let places := slicePlaces row.length (← sliceNumber first) (← sliceNumber last) step
    return .inr (places.filterMap fun place => row[place]?)
  | _, some n =>
    match placeIn? row.length n with
    | some place => .ok (.inl row[place]?)
    | none => .error (.outOfRange name)
  | _, none => .ok (.inl none)

/-- The item of a row at a place, or the part of it that a slice takes. `one` makes a meaning of an
item, `many` of a part. -/
def placeInRow {α : Type} (row : List α) (argument : Meaning) (name : String) (bad : TypeProblem)
    (one : α → Meaning) (many : List α → Meaning) : Except TermFault Meaning := do
  match ← placed? row argument name with
  | .inl (some a) => return one a
  | .inl none => mistyped bad
  | .inr part => return many part

def keyed (row : List (Meaning × Meaning)) (key : Meaning) : Except TermFault Meaning :=
  match unhashable? key, valueUnder? row key with
  | some c, _ => mistyped (.unhashable c.name)
  | none, some m => .ok m
  | none, none => .error (.missingKey key.shown)

/-- What a meaning with something in brackets behind it stands for. -/
def bracket (m argument : Meaning) : Except TermFault Meaning :=
  let positions (row : String) : TypeProblem := .badPosition row argument.typeName
  match m with
  | .form f => f.apply argument
  | .type c => applyClass c argument
  | .generic .. | .union .. => mistyped (.notGeneric m.shown)
  | .items .list row =>
    placeInRow row argument "list index" (positions "list") id (.items .list)
  | .items .tuple row =>
    placeInRow row argument "tuple index" (positions "tuple") id (.items .tuple)
  | .text s =>
    placeInRow s.toList argument "string index" (.badTextPosition argument.typeName)
      (fun c => .text (String.singleton c)) (fun part => .text (String.ofList part))
  | .bytes bs =>
    placeInRow bs argument "index" (positions "byte") (fun b => .whole b.toNat) .bytes
  | .range first last step =>
    match argument.number? with
    | some n =>
      match placeIn? (rangeCount first last step) n with
      | some place => .ok (.whole (first + step * (place : Int)))
      | none => .error (.outOfRange "range object index")
    | none =>
      placeInRow (rangeItems first last step) argument "range object index" (positions "range")
        .whole (fun part => .items (.passing (standardClass "range")) (part.map .whole))
  | .entries row => keyed row argument
  | .thing c =>
    if hasMember c "__getitem__" then .ok (.thing (standardClass "object"))
    else mistyped (.noParts m.typeName)
  | m => mistyped (.noParts m.typeName)

end RequestRouter.Hint
