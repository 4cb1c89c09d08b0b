import RequestRouter.Hint.Rules

/-!
# What is attached to a term

Arguments in parentheses and an index in square brackets. Arguments by position stand in front of
those by name; a stream without parentheses of its own is the only argument.
-/

namespace RequestRouter.Hint.Rules

open Reader

abbrev WrittenArguments := List (ArgumentForm × Term)

/-- The next tokens are a name and an equals sign. -/
def argumentName? : Reader (Option String) := do
  match ← peek with
  | .name s => return if (← peekSecond) == .sign "=" then some s else none
  | _ => return none

/-- An argument by name, whose equals sign is the second of the next tokens. -/
def namedArgument (r : Rules) (before : WrittenArguments) (name : String) :
    Reader (ArgumentForm × Term) := do
  let line ← line
  advance
  advance
  let value ← r.go .term
  if ← atClause then r.suspect r.clauses line fun _ => .equalsSign
  if before.any fun argument => argument.1 == .named name then
    note line (.repeatedArgument name)
  return (.named name, value)

/-- Looks for an equals sign behind an argument that starts on a line. -/
def suspectEquals (r : Rules) (line : Nat) (value : Term) (taken : Nat) : Reader Unit := do
  if r.searching && (← atSign "=") then
    match value with
    | .constant .none | .constant (.truth _) =>
      if taken == 1 then failAt line (.assigned value.kindName) else failAt line .assignedArgument
    | _ => failAt line .assignedArgument

def plainArgument (r : Rules) (before : WrittenArguments) : Reader (ArgumentForm × Term) := do
  let line ← line
  let left := (← get).rest.length
  let assigned := (← get).assigned.length
  let isNamed := before.any fun argument =>
    match argument.1 with
    | .named _ | .spreadNamed => true
    | _ => false
  if isNamed && !r.searching then stuck
  let value ← r.go .term
  r.suspectEquals line value (left - (← get).rest.length)
  let clauses : Reader Unit := do let _ ← r.clauses
  if ← atClause then
    unless before.isEmpty do r.suspect clauses line fun _ => .bareStream
  if isNamed then
    fail (.positionalBehindNamed (before.any fun argument => argument.1 == .spreadNamed))
  if (← atClause) && before.isEmpty then
    let clauses ← r.clausesOf line assigned
    if r.searching && (← atSign ",") then failAt line .bareStream
    unless ← atSign ")" do stuck
    return (.plain, .comprehension .stream none value clauses)
  match value, ← peek with
  | .name s, .sign ":=" =>
    if left == (← get).rest.length + 1 then
      advance
      assigns s
      return (.plain, .assign s (← r.go .term))
    else stuck
  | _, .sign ":=" => stuck
  | _, _ => return (.plain, value)

/-- One argument behind others. -/
def argument (r : Rules) (before : WrittenArguments) (line : Nat) :
    Reader (ArgumentForm × Term) := do
  if ← atSign "*" then
    if before.any fun argument => argument.1 == .spreadNamed then
      if r.searching then failAt line .spreadBehindNamed else stuck
    advance
    return (.spread, ← r.go .term)
  if ← sign? "**" then return (.spreadNamed, ← r.go .term)
  match ← argumentName? with
  | some name => r.namedArgument before name
  | none => r.plainArgument before

/-- Arguments behind others, up to the closing parenthesis; the first of all starts on `line`. -/
def argumentsBehind (r : Rules) (line : Nat) : (fuel : Nat) → WrittenArguments →
    Reader WrittenArguments
  | 0, before => return before
  | fuel + 1, before => do
    if ← sign? ")" then return before
    let before := before ++ [← r.argument before line]
    if ← sign? "," then argumentsBehind r line fuel before
    else
      sign ")"
      return before

/-- Arguments, behind the opening parenthesis. -/
def arguments (r : Rules) : Reader WrittenArguments := do
  r.argumentsBehind (← line) (← get).rest.length []

/-- The bound of a slice, if one is written. -/
def bound? (r : Rules) : Reader (Option Term) := do
  if (← atSign ":") || (← atSign ",") || (← atSign "]") then return none
  return some (← r.go .term)

/-- The part of a slice behind its first colon. -/
def sliceBehind (r : Rules) (first : Option Term) : Reader Term := do
  sign ":"
  let last ← r.bound?
  let step ← if ← sign? ":" then r.bound? else pure none
  return .slice first last step

def oneIndex (r : Rules) : Reader Term := do
  if ← atSign ":" then r.sliceBehind none
  else
    let first ← r.item
    match first with
    | .spread _ | .assign .. => return first
    | _ => if ← atSign ":" then r.sliceBehind (some first) else return first

/-- Indices, behind the opening bracket; several make a tuple. -/
def indices (r : Rules) : Reader Term := do
  let first ← r.oneIndex
  let more ← repeated do
    if (← atSign ",") && (← peekSecond) != .sign "]" then
      advance
      return some (← r.oneIndex)
    else return none
  let trailing ← sign? ","
  sign "]"
  match first with
  | .spread _ => return .display .tuple (first :: more)
  | _ => return if more.isEmpty && !trailing then first else .display .tuple (first :: more)

/-- What is attached by the next tokens, if anything is. -/
def attachment? (r : Rules) : Reader (Option (Term → Term)) := do
  if ← sign? "." then
    match ← peek with
    | .name s =>
      advance
      return some (.member · s)
    | _ => stuck
  else if ← sign? "(" then
    let arguments ← r.arguments
    return some (.call · arguments)
  else if ← sign? "[" then
    let argument ← r.indices
    return some (.index · argument)
  else return none

end RequestRouter.Hint.Rules
