import RequestRouter.Hint.Attached
import RequestRouter.Hint.Brackets
import RequestRouter.Hint.Parameters
import RequestRouter.Hint.Quotations

/-!
# Reading text hints

The rules from a unit up to a whole term, by how closely signs bind. A text that no rules take is
read again in search of the mistake; where none is found, the line is told at which no rule went on.
A part that cannot be cut into tokens is told first, wherever it stands.
-/

namespace RequestRouter.Hint

namespace Rules

open Reader

/-- A name, a constant or what stands in brackets. -/
def unit (r : Rules) : Reader Term := do
  let constant (c : Constant) : Reader Term := do
    advance
    return .constant c
  match ← peek with
  | .name s =>
    advance
    return .name s
  | .keyword "None" => constant .none
  | .keyword "True" => constant (.truth true)
  | .keyword "False" => constant (.truth false)
  | .number (.whole n) => constant (.whole n)
  | .number (.inexact written imaginary) => constant (.inexact written imaginary)
  | .number (.tooLong digits) => fail (.tooManyDigits digits)
  | .quoted _ => r.quotations
  | .sign "..." => constant .ellipsis
  | .sign "(" => r.parenthesized
  | .sign "[" => r.bracketed
  | .sign "\x7b" => r.braced
  | _ => stuck

/-- A unit with what is attached to it, waited for if it is so marked. -/
def attached (r : Rules) : Reader Term := do
  let line ← line
  if ← word? "await" then
    let around := (← get).functions
    note line (if around == 0 then .outsideFunction "await" else .outsideAsync "await")
  let first ← r.unit
  return (← repeated r.attachment?).foldl (fun term attach => attach term) first

def unaryOp? : Reader (Option UnaryOp) := do
  if ← sign? "+" then return some .plus
  else if ← sign? "-" then return some .minus
  else if ← sign? "~" then return some .complement
  else return none

/-- A term with signs in front of it, or a power. -/
def factor (r : Rules) : Reader Term := do
  match ← unaryOp? with
  | some op => return .unary op (← r.go .factor)
  | none =>
    let base ← r.attached
    if ← sign? "**" then return .binary .power base (← r.go .factor) else return base

/-- Operations of one rank, the first ones first. -/
def operations (ops : List BinaryOp) (operand : Reader Term) : Reader Term :=
  let behind := do
    let next ← peek
    match ops.find? fun op => next == .sign op.sign with
    | some op =>
      advance
      return some op
    | none => return none
  series operand behind fun first op second => .binary op first second

/-- Alternatives separated by bars, and all that binds closer. -/
def alternatives (r : Rules) : Reader Term :=
  operations [.or] <| operations [.xor] <| operations [.and] <|
    operations [.shiftLeft, .shiftRight] <| operations [.add, .subtract] <|
      operations [.multiply, .divide, .divideWhole, .remainder, .matrix] r.factor

/-- A comparison between two terms, if one is written. -/
def relation? : Reader (Option Relation) := do
  let taking (relation : Relation) (count : Nat) : Reader (Option Relation) := do
    for _ in [0:count] do advance
    return some relation
  match ← peek with
  | .sign "==" => taking .equal 1
  | .sign "!=" => taking .unequal 1
  | .sign "<" => taking .less 1
  | .sign "<=" => taking .atMost 1
  | .sign ">" => taking .greater 1
  | .sign ">=" => taking .atLeast 1
  | .keyword "in" => taking .within 1
  | .keyword "is" => if (← peekSecond) == .keyword "not" then taking .notSame 2 else taking .same 1
  | .keyword "not" => if (← peekSecond) == .keyword "in" then taking .notWithin 2 else return none
  | _ => return none

/-- A term, possibly compared with others. -/
def comparison (r : Rules) : Reader Term := do
  let first ← r.alternatives
  let rest ← repeated do
    match ← relation? with
    | some relation => return some (relation, ← r.alternatives)
    | none => return none
  return if rest.isEmpty then first else .comparison first rest

/-- A comparison, possibly denied. -/
def inversion (r : Rules) : Reader Term := do
  if ← word? "not" then return .not (← r.go .inversion) else r.comparison

def joined (word : String) (all : Bool) (operand : Reader Term) : Reader Term := do
  let first ← operand
  let rest ← repeated do
    if ← word? word then return some (← operand) else return none
  return if rest.isEmpty then first else .junction all (first :: rest)

/-- A term without a choice. -/
def disjunction (r : Rules) : Reader Term := joined "or" false (joined "and" true r.inversion)

/-- The next tokens are no two terms without a sign between them: a name in front of a quotation may
be meant for the letters in front of one, and some names are words elsewhere. -/
def excusesNeighbour : Reader Bool := do
  match ← peek with
  | .name s =>
    let quoted := match ← peekSecond with
      | .quoted _ => true
      | _ => false
    return quoted || ["_", "case", "match"].contains s
  | _ => return false

/-- Names that are often written without the parentheses of a call. -/
def isStatementName (term : Term) : Bool :=
  match term with
  | .name s => s == "print" || s == "exec"
  | _ => false

/-- Looks for a second term right behind a first one that started at `before`. -/
def suspectNeighbour (r : Rules) (before : Reading) (line : Nat) (first : Term) : Reader Unit := do
  let between ← get
  let after ← look do
    let _ ← r.read false .term
    return (← get).rest.length
  match after with
  | none => return ()
  | some left =>
    let last := between.rest[between.rest.length - left - 1]?
    let nested := last.any fun l => l.depth != 0
    set before
    let excused ← excusesNeighbour
    set between
    if nested && !excused && !isStatementName first then failAt line .missingComma

/-- Looks for a call without parentheses at `before`. -/
def suspectCall (r : Rules) (before : Reading) (line : Nat) : Reader Unit := do
  let between ← get
  set before
  match ← peek with
  | .name s =>
    if isStatementName (.name s) && (← peekSecond) != .sign "(" then
      advance
      r.suspect r.terms line fun _ => .missingCallBrackets s
  | _ => pure ()
  set between

def term (r : Rules) : Reader Term := do
  let line ← line
  if ← atWord "lambda" then r.lambda
  else
    let before ← get
    let first ← r.disjunction
    if r.searching then
      r.suspectNeighbour before line first
      r.suspectCall before line
    if ← word? "if" then
      let test ← r.go .disjunction
      if ← word? "else" then return .choice test first (← r.go .term)
      if r.searching && !(← atSign ":") then failAt line .missingElse
      stuck
    else return first

/-- A whole text: one term or several separated by commas, and line ends. -/
def whole (r : Rules) : Reader Term := do
  let first ← r.term
  let more ← repeated do
    if (← atSign ",") && (← peekSecond) != .lineEnd && (← peekSecond) != .finish then
      advance
      return some (← r.term)
    else return none
  let trailing ← sign? ","
  let _ ← repeated do if ← take? .lineEnd then return some () else return none
  unless (← peek) == .finish do stuck
  return if more.isEmpty && !trailing then first else .display .tuple (first :: more)

/-- Reads by one rule, with rules to go back to. -/
def read' (r : Rules) : Goal → Reader Term
  | .term => r.term
  | .disjunction => r.disjunction
  | .inversion => r.inversion
  | .alternatives => r.alternatives
  | .factor => r.factor
  | .attached => r.attached
  | .unit => r.unit

/-- The rules. Whenever a rule goes back to another one it has taken a token, or is the last to do
so at its token, so `fuel` need not be greater than twice the number of characters. -/
def upTo (searching : Bool) : (fuel : Nat) → Rules
  | 0 => ⟨fun _ _ => stuck, searching⟩
  | fuel + 1 => ⟨fun searching goal => (upTo searching fuel).read' goal, searching⟩

end Rules

/-- The fault of a part that cannot be cut into tokens, if it is told before a fault on another
line. -/
def lexicalFault? (lexemes : List Lexeme) (line : Nat) : Option Malformed :=
  match lexemes.getLast? with
  | some ⟨.broken fault, place, _⟩ =>
    let first := fault.isUrgent || match fault with
      | .openBracket _ => place < line
      | _ => false
    if first then some ⟨.lexical fault, place⟩ else none
  | _ => none

/-- The fault of a text that no rules take, stuck at given tokens. -/
def stuckFault (stuck : List Lexeme) : Malformed :=
  let lexeme := stuck.headD Reader.noLexeme
  ⟨if lexeme.token == .indent then .indented else .malformed, lexeme.line⟩

/-- The term that a text writes from its first character on. -/
def Term.readExact (text : List Char) : Except Malformed Term :=
  let lexemes := lexemesOf text
  let run (searching : Bool) :=
    (Rules.upTo searching (2 * text.length + 2)).whole.run { rest := lexemes }
  match run false with
  | .ok (term, reading) =>
    match reading.later with
    | some m => .error m
    | none => .ok term
  | .error (.fails m) => .error ((lexicalFault? lexemes m.line).getD m)
  | .error (.stuck rest) =>
    let stuck := stuckFault rest
    match run true with
    | .error (.fails m) => .error ((lexicalFault? lexemes stuck.line).getD m)
    | _ =>
      if stuck.fault == .indented then .error stuck
      else .error ((lexicalFault? lexemes stuck.line).getD stuck)

/-- The term that a text writes behind blanks. -/
def Term.read (text : List Char) : Except Malformed Term :=
  Term.readExact (text.dropWhile fun c => c == ' ' || c == '\t')

end RequestRouter.Hint
