import RequestRouter.Text.Digit

/-!
# Network addresses

Hosts may be given by number: as four decimal octets, or as eight groups of hexadecimal digits of
which one run may be left out. Hosts of formats yet to come name their version first.
-/

namespace RequestRouter.NetworkAddress

/-- A number up to 255 in at most three digits, without leading noughts. -/
def isOctet (text : List Char) : Bool :=
  !text.isEmpty && text.length ≤ 3 && text.all Char.isDigit && Text.ofBase 10 text ≤ 255 &&
    (text.head? != some '0' || text.length == 1)

/-- Four octets with points between them. -/
def isVersion4 (text : List Char) : Bool :=
  let octets := text.splitOn '.'
  octets.length == 4 && octets.all isOctet

/-- One to four hexadecimal digits. -/
def isGroup (text : List Char) : Bool :=
  !text.isEmpty && text.length ≤ 4 && text.all Text.isHexDigit

/-- The parts of an address with its last part, if that is written as four octets, as two groups. -/
def withoutOctets (parts : List (List Char)) : Option (List (List Char)) :=
  match parts.getLast? with
  | some tail =>
    if !tail.contains '.' then some parts
    else if isVersion4 tail then some (parts.dropLast ++ [['0'], ['0']])
    else none
  | none => none

/-- The number of groups on one side of the gap; a side without groups is one empty part. -/
def groupsBeside (parts : List (List Char)) : Option Nat :=
  if parts == [[]] then some 0 else if parts.all isGroup then some parts.length else none

/-- Parts with colons between them that make up eight groups: all eight, or fewer around a gap, an
empty part which is neither the first nor the last. -/
def areGroups : List (List Char) → Bool
  | [] => false
  | first :: rest =>
    if rest.dropLast.contains [] then
      let before := groupsBeside (first :: rest.takeWhile (!·.isEmpty))
      let behind := groupsBeside ((rest.dropWhile (!·.isEmpty)).drop 1)
      match before, behind with
      | some m, some n => m + n ≤ 7
      | _, _ => false
    else rest.length == 7 && (first :: rest).all isGroup

/-- A scope behind an address: nothing, or a percent sign and a name without one. -/
def isScope : List Char → Bool
  | [] => true
  | _ :: name => !name.isEmpty && !name.contains '%'

/-- Eight groups, and possibly a scope. -/
def isVersion6 (text : List Char) : Bool :=
  isScope (text.dropWhile (· != '%')) &&
    ((withoutOctets ((text.takeWhile (· != '%')).splitOn ':')).any areGroups)

/-- The letter v, a version in hexadecimal digits, a point, and anything behind it. -/
def isFuture : List Char → Bool
  | 'v' :: rest =>
    (rest.head?.any Text.isHexDigit) &&
      match rest.dropWhile Text.isHexDigit with
      | '.' :: name => !name.isEmpty
      | _ => false
  | _ => false

/-- There is no second gap. -/
theorem areGroups_two_gaps (a b : List Char) : areGroups [a, [], b, [], []] = false := by
  simp [areGroups, groupsBeside, isGroup]

end RequestRouter.NetworkAddress
