import RequestRouter.Hint.Rules

/-!
# Quotations side by side

Quoted texts that stand side by side are one text, and quoted bytes are one sequence of bytes; the
two do not mix. If one of the texts is formatted, the whole is.
-/

namespace RequestRouter.Hint

/-- The parts of quotations read so far. -/
inductive Quoted
  | text (pieces : List FormatPiece) (formatted : Bool)
  | bytes (bytes : List UInt8)

namespace Quoted

def term : Quoted → Term
  | .bytes found => .constant (.bytes found)
  | .text pieces true => .formatted pieces
  | .text pieces false =>
    .constant (.text (String.join (pieces.map fun
      | .text s => s
      | .field .. => "")))

def join : Quoted → Quoted → Option Quoted
  | .text pieces f, .text more g => some (.text (pieces ++ more) (f || g))
  | .bytes found, .bytes more => some (.bytes (found ++ more))
  | _, _ => none

end Quoted

namespace Rules

open Reader

/-- The term that the expression of a field writes. It is read as if it stood in parentheses. -/
def fieldTerm (r : Rules) (line : Nat) (body : List Char) : Reader Term := do
  let lexemes := lexemesOf ('(' :: body ++ [')'])
  let functions := (← get).functions
  let reading : Reading :=
    { rest := lexemes.map fun l => { l with line := l.line + line - 1 }, functions }
  let fails (m : Malformed) : Reader Term := failAt m.line (.field m.fault)
  match (r.read false .term).run reading with
  | .ok (term, reading) =>
    if let some m := reading.later then note m.line m.fault
    return term
  | .error (.fails m) => fails m
  | .error (.stuck _) =>
    match (r.read true .term).run reading with
    | .error (.fails m) => fails m
    | _ => failAt line (.field .malformed)

/-- A text with its escapes resolved; faults are told on a line. -/
def resolved (line : Nat) (raw : Bool) (body : List Char) : Reader String :=
  match Literal.text raw body with
  | .ok found => return String.ofList found
  | .error fault => failAt line (.escape fault)

mutual

def piece (r : Rules) (line : Nat) (raw : Bool) : FormatPart → Reader FormatPiece
  | .text body => return .text (← resolved line raw body)
  | .field body conversion layout => do
    let term ← r.fieldTerm line body
    return .field term conversion (← pieces r line raw layout)

def pieces (r : Rules) (line : Nat) (raw : Bool) : List FormatPart → Reader (List FormatPiece)
  | [] => return []
  | part :: rest => do
    let first ← piece r line raw part
    return first :: (← pieces r line raw rest)

end

/-- What one quotation stands for; `line` is where it starts, and faults in its escapes are told on
the line of the token behind it. -/
def quotation (r : Rules) (line : Nat) (q : Quotation) : Reader Quoted := do
  let behind ← Reader.line
  if q.bytes then
    match Literal.bytes q.raw q.body with
    | .ok found => return .bytes found
    | .error .foreign => failAt line (.escape .foreign)
    | .error fault => failAt behind (.escape fault)
  else if q.formatted then
    match FormatPart.ofBody q.body with
    | .ok parts => return .text (← r.pieces line q.raw parts) true
    | .error fault => failAt behind (.format fault)
  else return .text [.text (← resolved behind q.raw q.body)] false

def quotations (r : Rules) : Reader Term := do
  let found ← repeated do
    let next ← here
    match next.token with
    | .quoted q =>
      advance
      return some (next.line, q)
    | _ => return none
  match found with
  | [] => stuck
  | (line, q) :: rest =>
    let first ← r.quotation line q
    let all ← rest.foldlM (fun before (line, q) => do
      match before.join (← r.quotation line q) with
      | some joined => return joined
      | none => fail .mixedQuotations) first
    return all.term

end Rules

end RequestRouter.Hint
