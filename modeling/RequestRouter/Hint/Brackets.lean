import RequestRouter.Hint.Rules

/-!
# What stands in brackets

Parentheses hold one term, a tuple or a stream; square brackets hold a list; braces hold a set or
entries with keys.
-/

namespace RequestRouter.Hint.Rules

open Reader

/-- A place where a function is left for a while. -/
def pause (r : Rules) : Reader Term := do
  let line ← line
  advance
  if (← get).functions == 0 then note line (.outsideFunction "yield")
  if ← word? "from" then return .pause (some (← r.go .term))
  if (← atItemsEnd) || (← peek) == .finish then return .pause none
  return .pause (some (← r.terms))

/-- Clauses behind an item, up to a closing bracket. The item started on a line, when `assigned`
names had been given to values. -/
def collected (r : Rules) (line assigned : Nat) (closing : String) (make : List Clause → Term) :
    Reader Term := do
  let clauses ← r.clausesOf line assigned
  sign closing
  return make clauses

/-- What stands in parentheses; the first of them is the next token. -/
def parenthesized (r : Rules) : Reader Term := do
  advance
  if ← sign? ")" then return .display .tuple []
  let line ← line
  if ← atWord "yield" then
    let term ← r.pause
    sign ")"
    return term
  let enclosed : Reader Unit := do
    advance
    let _ ← r.go .term
    sign ")"
  if ← atSign "**" then
    r.suspect enclosed line fun _ => .doubleStarred
    stuck
  let starred ← atSign "*"
  let before ← get
  let found ← outcome r.item
  if starred && !(← atSign ",") then
    r.suspect (do set before; enclosed) line fun _ => .starred
    r.suspect r.clauses line fun _ => .spreadElement
  let first ← settle found
  if ← atSign "," then
    let (more, _) ← r.itemsBehind
    sign ")"
    return .display .tuple (first :: more)
  if starred then stuck
  let assigned := before.assigned.length
  if ← atClause then
    r.collected line assigned ")" fun clauses => .comprehension .stream none first clauses
  else
    sign ")"
    return first

/-- Looks for clauses behind several items or a spread one. -/
def suspectClauses (r : Rules) (line : Nat) (starred several : Bool) : Reader Unit := do
  if ← atClause then
    if several then r.suspect r.clauses line fun _ => .bareTargets
    else if starred then r.suspect r.clauses line fun _ => .spreadElement

/-- Items up to a closing bracket, or one item with clauses. -/
def displayed (r : Rules) (kind : Display) (collecting : Collecting) (closing : String)
    (line assigned : Nat) (starred : Bool) (first : Term) : Reader Term := do
  let (more, trailing) ← r.itemsBehind
  let several := !more.isEmpty || trailing
  r.suspectClauses line starred several
  if (← atClause) && !several && !starred then
    r.collected line assigned closing fun clauses =>
      .comprehension collecting none first clauses
  else
    sign closing
    return .display kind (first :: more)

/-- What stands in square brackets; the first of them is the next token. -/
def bracketed (r : Rules) : Reader Term := do
  advance
  if ← sign? "]" then return .display .list []
  let line ← line
  let starred ← atSign "*"
  let assigned := (← get).assigned.length
  r.displayed .list .list "]" line assigned starred (← r.item)

/-- The value of an entry, behind the colon. -/
def entryValue (r : Rules) : Reader Term := do
  let colon ← line
  sign ":"
  if r.searching then
    let star ← line
    if ← atSign "*" then
      r.suspect (do advance; let _ ← r.go .alternatives) star fun _ => .starredValue
    if (← atSign "\x7d") || (← atSign ",") then failAt colon .missingValue
  r.go .term

def entry (r : Rules) : Reader (Option Term × Term) := do
  if ← sign? "**" then return (none, ← r.go .alternatives)
  let line ← line
  let key ← r.go .term
  if r.searching && !(← atSign ":") then failAt line .missingColon
  return (some key, ← r.entryValue)

/-- Entries behind a first one, up to the closing brace. -/
def entriesBehind (r : Rules) (first : Option Term × Term) : Reader Term := do
  let more ← repeated do
    if (← atSign ",") && (← peekSecond) != .sign "\x7d" then
      advance
      return some (← r.entry)
    else return none
  let _ ← sign? ","
  sign "\x7d"
  return .dict (first :: more)

/-- What stands in braces; the first of them is the next token. -/
def braced (r : Rules) : Reader Term := do
  advance
  if ← sign? "\x7d" then return .dict []
  let line ← line
  let assigned := (← get).assigned.length
  if ← sign? "**" then
    let first ← r.go .alternatives
    if ← atClause then
      r.suspect (do let _ ← r.clauses; sign "\x7d") line fun _ => .spreadEntry
    r.entriesBehind (none, first)
  else
    let starred ← atSign "*"
    let first ← r.item
    if (← atSign ":") && !starred then
      let value ← r.entryValue
      if ← atClause then
        r.collected line assigned "\x7d" fun clauses =>
          .comprehension .dict (some first) value clauses
      else r.entriesBehind (some first, value)
    else r.displayed .set .set "\x7d" line assigned starred first

end RequestRouter.Hint.Rules
