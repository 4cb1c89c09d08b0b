import RequestRouter.Hint.Rules

/-!
# Functions without a name

Parameters in front of a colon, and a term behind it. Parameters without a default stand in front of
those with one, up to the star behind which arguments come by name only.
-/

namespace RequestRouter.Hint

/-- Parameters read so far. -/
structure Parameters where
  formals : List (ParameterForm × String × Option Term) := []
  /-- A slash has been read. -/
  slash : Bool := false
  /-- A star has been read. -/
  star : Bool := false
  /-- The star stands alone and nothing follows it yet. -/
  bare : Bool := false
  /-- What takes all further arguments by name has been read. -/
  closed : Bool := false

namespace Parameters

def hasDefault (p : Parameters) : Bool := p.formals.any (·.2.2.isSome)

def add (p : Parameters) (form : ParameterForm) (name : String) (default : Option Term) :
    Parameters :=
  { p with formals := p.formals ++ [(form, name, default)], bare := false }

/-- Parameters behind which a slash stands: their arguments come by position. -/
def byPosition (p : Parameters) : Parameters :=
  { p with formals := p.formals.map fun (_, rest) => (.byPosition, rest) }

/-- A name that two parameters share. -/
def repeated? (p : Parameters) : Option String :=
  let names := p.formals.map (·.2.1)
  names.find? fun name => 1 < names.count name

end Parameters

namespace Rules

open Reader

def refuse {α : Type} (r : Rules) (line : Nat) (problem : ParameterProblem) : Reader α := do
  if r.searching then failAt line (.parameters problem) else stuck

/-- A name, which has to come next. -/
def parameterName (r : Rules) : Reader String := do
  match ← peek with
  | .name s =>
    advance
    return s
  | .sign "(" => r.refuse (← line) .brackets
  | _ => stuck

def slash (r : Rules) (line : Nat) (p : Parameters) : Reader Parameters := do
  if p.slash then r.refuse line .secondSlash
  else if p.star then r.refuse line .slashBehindStar
  else if p.formals.isEmpty then r.refuse line .leadingSlash
  else return { p.byPosition with slash := true }

/-- A star among parameters, behind which arguments come by name. -/
def star (r : Rules) (line : Nat) (p : Parameters) : Reader Parameters := do
  if p.star then r.refuse line .secondStar
  if ← atSign ":" then r.refuse line .bareStar
  let p := { p with star := true }
  if ← atSign "," then return { p with bare := true }
  let name ← r.parameterName
  if ← atSign "=" then r.refuse line .restDefault
  return p.add .restByPosition name none

def parameter (r : Rules) (p : Parameters) : Reader Parameters := do
  let line ← line
  if p.closed then r.refuse line .behindNamedRest
  if ← sign? "/" then r.slash line p
  else if ← sign? "*" then r.star line p
  else if ← sign? "**" then
    if p.bare then r.refuse line .bareStar
    let name ← r.parameterName
    if ← atSign "=" then r.refuse line .namedRestDefault
    return { p.add .restByName name none with closed := true }
  else
    let name ← r.parameterName
    let default ← if ← sign? "=" then some <$> r.go .term else pure none
    if default.isNone && p.hasDefault && !p.star then r.refuse line .defaultOrder
    return p.add (if p.star then .byName else .plain) name default

/-- Parameters behind others, up to the colon. -/
def parametersBehind (r : Rules) : (fuel : Nat) → Parameters → Reader Parameters
  | 0, p => return p
  | fuel + 1, p => do
    let line ← line
    if ← sign? ":" then
      if p.bare then r.refuse line .bareStar
      return p
    let p ← r.parameter p
    if ← sign? "," then parametersBehind r fuel p
    else
      sign ":"
      return p

/-- A function without a name; its word is the next token. -/
def lambda (r : Rules) : Reader Term := do
  let line ← line
  advance
  let p ← r.parametersBehind (← get).rest.length {}
  match p.repeated? with
  | some name => note line (.repeatedParameter name)
  | none => pure ()
  modify fun s => { s with functions := s.functions + 1 }
  let body ← r.go .term
  modify fun s => { s with functions := s.functions - 1 }
  return .lambda p.formals body

end Rules

end RequestRouter.Hint
