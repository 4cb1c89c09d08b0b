import RequestRouter.Hint.GrammarFault
import RequestRouter.Hint.Term

/-!
# Readers of tokens

A reader takes tokens from the front. It halts where no rule goes on, or with a fault that is told
whatever else could be tried. Tokens are looked at before they are taken; to look at a place that
could not be cut is a fault.
-/

namespace RequestRouter.Hint

structure Reading where
  rest : List Lexeme
  /-- The first mistake that counts only once a whole term has been read. -/
  later : Option Malformed := none
  /-- The number of functions without a name that are being read. -/
  functions : Nat := 0
  /-- The names that values have been given, the last one first. -/
  assigned : List String := []

/-- Why a reader halts. -/
inductive Halt
  /-- No rule goes on at the first of the tokens. -/
  | stuck (rest : List Lexeme)
  | fails (malformed : Malformed)

abbrev Reader := StateT Reading (Except Halt)

namespace Reader

/-- Keeps that a value is given to a name. -/
def assigns (name : String) : Reader Unit :=
  modify fun s => { s with assigned := name :: s.assigned }

/-- A token unless the text cannot be cut there. -/
def check (lexeme : Lexeme) : Reader Lexeme :=
  match lexeme.token with
  | .broken fault => throw (.fails ⟨.lexical fault, lexeme.line⟩)
  | _ => return lexeme

/-- The end of a text that has no lines left. -/
def noLexeme : Lexeme := ⟨.finish, 0, 0⟩

/-- The next token, with its place. -/
def here : Reader Lexeme := do check ((← get).rest.headD noLexeme)

def peek : Reader Token := return (← here).token

/-- The token behind the next one. -/
def peekSecond : Reader Token := do
  let _ ← here
  return (← check (((← get).rest.drop 1).headD noLexeme)).token

def line : Reader Nat := return (← here).line

def advance : Reader Unit := modify fun s => { s with rest := s.rest.drop 1 }

/-- Halts because no rule goes on. -/
def stuck {α : Type} : Reader α := do throw (.stuck (← get).rest)

def failAt {α : Type} (line : Nat) (fault : GrammarFault) : Reader α :=
  throw (.fails ⟨fault, line⟩)

def fail {α : Type} (fault : GrammarFault) : Reader α := do failAt (← line) fault

/-- Keeps a mistake that counts only once a whole term has been read. -/
def note (line : Nat) (fault : GrammarFault) : Reader Unit :=
  modify fun s => { s with later := s.later.or (some ⟨fault, line⟩) }

/-- Takes the next token if it is the given one. -/
def take? (token : Token) : Reader Bool := do
  if (← peek) == token then
    advance
    return true
  else return false

/-- Takes the next token if it is a given sign. -/
def sign? (s : String) : Reader Bool := take? (.sign s)

/-- Takes the next token if it is a given keyword. -/
def word? (s : String) : Reader Bool := take? (.keyword s)

/-- Takes the next token, which has to be a given sign. -/
def sign (s : String) : Reader Unit := do
  unless ← sign? s do stuck

def atSign (s : String) : Reader Bool := return (← peek) == .sign s

def atWord (s : String) : Reader Bool := return (← peek) == .keyword s

/-- Tries a reader; where it is stuck, nothing is taken, and the tokens that it is stuck at are
given. -/
def outcome {α : Type} (reader : Reader α) : Reader (Except (List Lexeme) α) := fun s =>
  match reader s with
  | .ok (a, s) => .ok (.ok a, s)
  | .error (.stuck rest) => .ok (.error rest, s)
  | .error (.fails m) => .error (.fails m)

/-- Tries a reader; where it is stuck, nothing is taken. -/
def attempt {α : Type} (reader : Reader α) : Reader (Option α) := do
  return (← outcome reader).toOption

/-- What was tried, halting where it was stuck. -/
def settle {α : Type} : Except (List Lexeme) α → Reader α
  | .ok a => return a
  | .error rest => throw (.stuck rest)

/-- What a reader would read here; nothing is taken. -/
def look {α : Type} (reader : Reader α) : Reader (Option α) := do
  let before ← get
  let found ← attempt reader
  set before
  return found

/-- Reads as long as something is found, `fuel` times at most. -/
def upTo {α : Type} : (fuel : Nat) → Reader (Option α) → Reader (List α)
  | 0, _ => return []
  | fuel + 1, reader => do
    match ← reader with
    | some a => return a :: (← upTo fuel reader)
    | none => return []

/-- Reads as long as something is found. What is found has to take a token. -/
def repeated {α : Type} (reader : Reader (Option α)) : Reader (List α) := do
  upTo (← get).rest.length reader

/-- A first term, and further ones behind signs. -/
def series {α : Type} (reader : Reader Term) (behind : Reader (Option α))
    (join : Term → α → Term → Term) :
    Reader Term := do
  let first ← reader
  let rest ← repeated do
    match ← behind with
    | some a => return some (a, ← reader)
    | none => return none
  return rest.foldl (fun term (a, next) => join term a next) first

end Reader

end RequestRouter.Hint
