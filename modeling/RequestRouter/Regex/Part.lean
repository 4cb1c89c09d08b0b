import RequestRouter.Regex.CharTest

/-!
# Parts of alternatives

An alternative is read into parts, one after another. What all alternatives of a choice begin with
stands once in front of the choice, as long as it is an atom: a test on a character, an anchor or a
group that is repeated. If after that each alternative is a single member of one class, the choice
is that class.
-/

namespace RequestRouter

/-- A part of an alternative. -/
inductive Part
  /-- A test, an anchor or a repeated group. Atoms that are written alike are the same part. -/
  | atom (regex : Regex)
  /-- A loop, or a parenthesis that is kept as one. -/
  | whole (regex : Regex)
  deriving DecidableEq, Repr

namespace Part

def regex : Part → Regex
  | .atom r => r
  | .whole r => r

def isAtom : Part → Bool
  | .atom _ => true
  | .whole _ => false

/-- The term of parts one after another. -/
def termOf (parts : List Part) : Regex := .seqAll (parts.map regex)

/-- How many parts at the front of `first` the others all begin with, as far as they are atoms. -/
def sharedLength : (first : List Part) → (others : List (List Part)) → Nat
  | [], _ => 0
  | part :: rest, others =>
    if part.isAtom && others.all (·.head? == some part) then
      sharedLength rest (others.map (·.drop 1)) + 1
    else 0

/-- The members of the class that a part is. -/
def members? : Part → Option (List ClassItem)
  | .atom (.one (.literal _ false code)) => some [.single code]
  | .atom (.one (.oneOf _ false items)) => some items
  | _ => none

/-- The members of the class that an alternative consists of. -/
def onlyMembers? : List Part → Option (List ClassItem)
  | [part] => part.members?
  | _ => none

/-- The choice between alternatives that have nothing more in common. -/
def choice (folding : Folding) (alternatives : List (List Part)) : Part :=
  match alternatives.mapM onlyMembers? with
  | some members => .atom (.one (.classOf folding false members.flatten.eraseDups))
  | none => .whole (.eitherAll (alternatives.map termOf))

/-- The parts that alternatives amount to; letters are compared by `folding` at this place. -/
def joined (folding : Folding) : (alternatives : List (List Part)) → List Part
  | [] => []
  | [only] => only
  | first :: others =>
    let shared := sharedLength first others
    first.take shared ++ [choice folding ((first :: others).map (·.drop shared))]

end Part

end RequestRouter
