import RequestRouter.Hint.Lexer
import RequestRouter.Hint.Reader

/-!
# Rules that other rules share

A rule goes back to other rules through `Rules.read`, so that each rule can be stated by itself. A
text that no rules take is read a second time, in search of the mistake: then the rules also look at
what was probably meant.
-/

namespace RequestRouter.Hint

/-- The rules that others go back to. -/
inductive Goal
  /-- Any term. -/
  | term
  /-- A term without a choice. -/
  | disjunction
  | inversion
  /-- Alternatives separated by bars. -/
  | alternatives
  | factor
  /-- A unit with what is attached to it. -/
  | attached
  /-- A name, a constant or what stands in brackets. -/
  | unit

/-- The rules, as far as others need them. -/
structure Rules where
  read : (searching : Bool) → Goal → Reader Term
  /-- The text is read in search of the mistake. -/
  searching : Bool

namespace Rules

open Reader

def go (r : Rules) (goal : Goal) : Reader Term := r.read r.searching goal

/-- Looks for a mistake: what could be read instead of what no rule takes is a fault. -/
def suspect {α : Type} (r : Rules) (reader : Reader α) (line : Nat) (fault : α → GrammarFault) :
    Reader Unit := do
  if r.searching then
    match ← look reader with
    | some a => failAt line (fault a)
    | none => return ()

/-- The next token follows neither an equals sign nor an assignment. -/
def notAssigned : Reader Unit := do
  if (← atSign "=") || (← atSign ":=") then stuck

/-- Looks for an assignment that is written in another way or to something else than a name; the
term in front of it started at `before`. -/
def suspectAssignment (r : Rules) (before : Reading) (line : Nat) (first : Term) : Reader Unit := do
  if ← atSign ":=" then
    r.suspect (do advance; r.go .term) line fun _ => .assignedTerm first.kindName
  if r.searching && (← atSign "=") then
    if before.rest.length == (← get).rest.length + 1 && first.isName then
      r.suspect (do advance; let _ ← r.go .alternatives; notAssigned) line fun _ => .equalsSign
    else
      let unit ← look do
        set before
        r.go .unit
      unless unit.any Term.isBracketed do
        let assigned := do
          set before
          let target ← r.go .alternatives
          sign "="
          let _ ← r.go .alternatives
          notAssigned
          return target
        r.suspect assigned line fun target => .assignedHere target.kindName

/-- A term, possibly with a name that keeps its value. -/
def named (r : Rules) : Reader Term := do
  let start ← here
  let name ← match start.token with
    | .name s => pure (if (← peekSecond) == .sign ":=" then some s else none)
    | _ => pure none
  match name with
  | some s =>
    advance
    advance
    assigns s
    return .assign s (← r.go .term)
  | none =>
    let before ← get
    let term ← r.go .term
    r.suspectAssignment before start.line term
    if ← atSign ":=" then stuck
    return term

def item (r : Rules) : Reader Term := do
  if ← sign? "*" then return .spread (← r.go .alternatives) else r.named

def atClause : Reader Bool := return (← atWord "for") || (← atWord "async")

def atItemsEnd : Reader Bool := do
  return (← atClause) || (← atSign ")") || (← atSign "]") || (← atSign "\x7d")

/-- Further items behind commas, and whether a comma follows the last one. -/
def moreItems (r : Rules) : (fuel : Nat) → Reader (List Term × Bool)
  | 0 => return ([], false)
  | fuel + 1 => do
    if ← sign? "," then
      if ← atItemsEnd then return ([], true)
      let next ← r.item
      let (rest, trailing) ← moreItems r fuel
      return (next :: rest, trailing)
    else return ([], false)

/-- Further items behind commas, and whether a comma follows the last one. -/
def itemsBehind (r : Rules) : Reader (List Term × Bool) := do
  r.moreItems (← get).rest.length

/-- One or more terms, possibly spread, separated by commas; several make a tuple. -/
def terms (r : Rules) : Reader Term := do
  let one : Reader Term := do
    if ← sign? "*" then return .spread (← r.go .alternatives) else r.go .term
  let first ← one
  let more ← repeated (attempt (do sign ","; one))
  let trailing ← sign? ","
  return if more.isEmpty && !trailing then first else .display .tuple (first :: more)

def plainTarget (r : Rules) : Reader Term := do
  let one : Reader Term := do
    if ← sign? "*" then return .spread (← r.go .attached) else r.go .attached
  let first ← one
  let more ← repeated do
    if (← atSign ",") && (← peekSecond) != .keyword "in" then
      advance
      return some (← one)
    else return none
  let trailing ← sign? ","
  let target := if more.isEmpty && !trailing then first else .display .tuple (first :: more)
  if target.notTarget?.isSome || !(← atWord "in") then stuck
  return target

/-- What the values of a clause are assigned to. -/
def target (r : Rules) : Reader Term := do
  let line ← line
  let found ← outcome r.plainTarget
  if r.searching && !found.isOk then
    match (← look r.terms).bind Term.notTarget? with
    | some part => failAt line (.assigned part.kindName)
    | none => pure ()
  settle found

/-- A clause, if the next token starts one. -/
def clause? (r : Rules) : Reader (Option Clause) := do
  let line ← line
  if (← atWord "async") && (← peekSecond) == .keyword "for" then
    note line .asyncClause
    advance
  if ← word? "for" then
    let target ← r.target
    unless ← word? "in" do stuck
    let assigned := (← get).assigned.length
    let source ← r.go .disjunction
    if assigned < (← get).assigned.length then note line .assignedSource
    let conditions ← repeated do
      if ← word? "if" then return some (← r.go .disjunction) else return none
    return some (.mk target source conditions)
  else return none

def clauses (r : Rules) : Reader (List Clause) := do
  let found ← repeated r.clause?
  if found.isEmpty then stuck
  return found

/-- The clauses of a comprehension that started on a line, when `assigned` names had been given to
values. It must not give values to the names that its clauses run through values by. -/
def clausesOf (r : Rules) (line assigned : Nat) : Reader (List Clause) := do
  let found ← r.clauses
  let names := (← get).assigned
  let own := names.take (names.length - assigned)
  match (found.flatMap Clause.names).find? own.contains with
  | some name => note line (.rebound name)
  | none => pure ()
  return found

end Rules

end RequestRouter.Hint
