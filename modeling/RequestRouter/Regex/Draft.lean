import RequestRouter.Regex.ClassReader
import RequestRouter.Regex.Opening
import RequestRouter.Regex.Part
import RequestRouter.Regex.Quantifier
import RequestRouter.Regex.Width
import RequestRouter.Text.Numeral

/-!
# An expression while it is being read

Reading keeps a level for every parenthesis that is open, the expression itself being the outermost
one. A level collects the pieces of the alternative being read and the alternatives before it. A
step takes one construct off the text: a parenthesis that opens adds a level, one that closes turns
the innermost level into a piece of the one around it, and everything else changes the innermost
level only. So the number of open levels is the depth of parentheses at each point.
-/

namespace RequestRouter

/-- A piece of an alternative, as far as a quantifier after it may ask. -/
inductive Piece
  | anchor (anchor : Anchor)
  | atom (regex : Regex)
  | repeated (regex : Regex)
  /-- A closed parenthesis. -/
  | group (parts : List Part)
  deriving DecidableEq, Repr

/-- The parts that a piece adds to its alternative. -/
def Piece.parts : Piece → List Part
  | .anchor a => [.atom (.place a)]
  | .atom r => [.atom r]
  | .repeated r => [.whole r]
  | .group parts => parts

def Piece.regex (piece : Piece) : Regex := Part.termOf piece.parts

inductive Opener
  | whole
  | capture (number : Nat)
  /-- A group that records nothing, possibly with flags of its own. -/
  | bare (flagged : Bool)
  | atomic
  /-- A look around; `barrier` was in force outside of it. -/
  | look (behind negated : Bool) (barrier : Option Nat)
  | test (number : Nat)
  deriving DecidableEq, Repr

/-- An open parenthesis, or the expression itself. The last piece and the last alternative come
first; `left` is the width of the text after the parenthesis. -/
structure Level where
  opener : Opener
  left : Nat
  mode : Mode
  branches : List (List Part) := []
  pieces : List Piece := []
  deriving DecidableEq, Repr

namespace Level

/-- The alternative being read. -/
def branch (level : Level) : List Part := level.pieces.reverse.flatMap Piece.parts

def push (level : Level) (piece : Piece) : Level := { level with pieces := piece :: level.pieces }

/-- The parts of a level, without what its opener adds. -/
def content (level : Level) : List Part :=
  Part.joined level.mode.folding (level.branch :: level.branches).reverse

/-- The term of a level, without what its opener adds. -/
def term (level : Level) : Regex := Part.termOf level.content

end Level

/-- An expression while it is being read. -/
structure Draft where
  level : Level
  outer : List Level := []
  /-- The number of groups opened so far. -/
  groups : Nat := 0
  names : List (String × Nat) := []
  /-- The widths of the groups closed so far. -/
  closed : List (Nat × Width) := []
  /-- Inside a look-behind, groups from this number on cannot be referred to. -/
  barrier : Option Nat := none
  /-- Group numbers asked for by choices, in order, each with the place where it is first asked. -/
  tests : List (Nat × Nat × Nat) := []
  deriving DecidableEq, Repr

namespace Draft

def start (left : Nat) : Draft := { level := { opener := .whole, left, mode := {} } }

def widthOf (d : Draft) (number : Nat) : Width := (d.closed.lookup number).getD .zero

def isClosed (d : Draft) (number : Nat) : Bool := (d.closed.lookup number).isSome

def push (d : Draft) (piece : Piece) : Draft := { d with level := d.level.push piece }

def descend (d : Draft) (opener : Opener) (mode : Mode) (left : Nat) : Draft :=
  { d with level := { opener, left, mode }, outer := d.level :: d.outer }

def folding (d : Draft) : Folding := d.level.mode.folding

/-- Classes hold only the first 128 characters at this place. -/
def ascii (d : Draft) : Bool := d.level.mode.ascii

/-- A look-behind may refer to groups only that were closed before it. -/
def checkBarrier (d : Draft) (number : Nat) (rest : Units) : Except Halt Unit :=
  match d.barrier with
  | none => .ok ()
  | some barrier =>
    if !d.isClosed number then haltAt rest 0 .openGroup
    else if barrier ≤ number then haltAt rest 0 .groupOfSameLookBehind
    else .ok ()

/-! ## Escapes and quantifiers -/

def pieceOf (d : Draft) (rest : Units) : Escape.Meaning → Except Halt Piece
  | .code code => .ok (.atom (.one (.literal d.folding false code)))
  | .item item => .ok (.atom (.one (.classOf d.folding false [item])))
  | .anchor anchor => .ok (.anchor anchor)
  | .group number width =>
    if d.groups < number then haltAt rest (width - 1) (.noSuchGroup number)
    else if !d.isClosed number then haltAt rest width .openGroup
    else do
      d.checkBarrier number rest
      return .atom (.again d.folding number)

/-- The piece before a quantifier, repeated; the quantifier began `width` characters before
`rest`. -/
def repeatLast (d : Draft) (bounds : Bounds) (width : Nat) (rest : Units) :
    Except Halt (Draft × Units) :=
  match d.level.pieces with
  | [] | .anchor _ :: _ => haltAt rest width .nothingToRepeat
  | .repeated _ :: _ => haltAt rest width .multipleRepeat
  | piece :: before =>
    let (greed, rest) := Greed.read rest
    let piece := .repeated (.loop greed bounds.least bounds.most piece.regex)
    .ok ({ d with level := { d.level with pieces := piece :: before } }, rest)

/-! ## Parentheses -/

def testedGroup (d : Draft) (name : List Char) (rest : Units) : Except Halt (Nat × Draft) :=
  let shown := String.ofList name
  if Text.isIdentifier name then
    match d.names.lookup shown with
    | some number => .ok (number, d)
    | none => haltAt rest (name.length + 1) (.unknownGroupName shown)
  else
    match Text.readInt name with
    | .error _ => haltAt rest (name.length + 1) (.badGroupName shown)
    | .ok number =>
      if number < 0 then haltAt rest (name.length + 1) (.badGroupName shown)
      else if number == 0 then haltAt rest (name.length + 1) .badGroupNumber
      else if 2147483647 ≤ number then haltAt rest (name.length + 1) (.noSuchGroup number.toNat)
      else
        let asked := (d.tests.any fun test => test.1 == number.toNat)
        let tests :=
          if asked then d.tests else d.tests ++ [(number.toNat, rest.width, name.length + 1)]
        .ok (number.toNat, { d with tests })

/-- A header of a parenthesis after which `left` characters followed. -/
def openWith (d : Draft) (left : Nat) (rest : Units) : Opening → Except Halt Draft
  | .capture =>
    .ok { d.descend (.capture (d.groups + 1)) d.level.mode left with groups := d.groups + 1 }
  | .named name =>
    let shown := String.ofList name
    let number := d.groups + 1
    match d.names.lookup shown with
    | some earlier => haltAt rest (name.length + 1) (.groupNameTaken shown number earlier)
    | none =>
      .ok { d.descend (.capture number) d.level.mode left with
        groups := number, names := (shown, number) :: d.names }
  | .scoped on off =>
    let opener := .bare (!on.isEmpty || !off.isEmpty)
    .ok (d.descend opener (d.level.mode.withScoped on off) left)
  | .atomic => .ok (d.descend .atomic d.level.mode left)
  | .look behind negated =>
    let inside := if behind then d.barrier.or (some (d.groups + 1)) else d.barrier
    .ok { d.descend (.look behind negated d.barrier) d.level.mode left with barrier := inside }
  | .test name => do
    let (number, d) ← d.testedGroup name rest
    d.checkBarrier number rest
    return d.descend (.test number) d.level.mode left
  | .comment => .ok d
  | .flags on =>
    if d.outer.isEmpty && d.level.branches.isEmpty && d.level.pieces.isEmpty then
      .ok { d with level := { d.level with mode := d.level.mode.withGlobal on } }
    else haltAt rest (left + 1 - rest.width) .lateFlags
  | .again name =>
    let shown := String.ofList name
    match d.names.lookup shown with
    | none => haltAt rest (name.length + 1) (.unknownGroupName shown)
    | some number =>
      if !d.isClosed number then haltAt rest (name.length + 1) .openGroup
      else do
        d.checkBarrier number rest
        return d.push (.atom (.again d.folding number))

/-- The parts that the innermost level makes when it closes. -/
def closedParts (d : Draft) : List Part :=
  match d.level.opener with
  | .whole | .bare false => d.level.content
  | .bare true => [.whole d.level.term]
  | .capture number => [.whole (.group number d.level.term)]
  | .atomic => [.whole (.atomic d.level.term)]
  | .look behind negated _ =>
    let width := if behind then some (d.level.term.width d.widthOf) else none
    [.whole (.look width negated d.level.term)]
  | .test number =>
    match d.level.branches with
    | [] => [.whole (.ifGroup number (Part.termOf d.level.branch) .empty)]
    | present :: _ =>
      [.whole (.ifGroup number (Part.termOf present) (Part.termOf d.level.branch))]

/-- What closing the innermost level does to the groups and the barrier. -/
def closeMarks (d : Draft) : Draft :=
  match d.level.opener with
  | .capture number =>
    { d with closed := (number, d.level.term.width d.widthOf) :: d.closed }
  | .look _ _ barrier => { d with barrier }
  | _ => d

/-- The innermost level closes into a piece of the level around it. -/
def ascend (d : Draft) (around : Level) (outer : List Level) : Draft :=
  { d.closeMarks with level := around.push (.group d.closedParts), outer }

/-- A new alternative on the innermost level; a choice has two at most. -/
def alternate (d : Draft) (rest : Units) : Except Halt Draft :=
  let branches := d.level.branch :: d.level.branches
  let next := { d with level := { d.level with branches, pieces := [] } }
  match d.level.opener with
  | .test _ =>
    if d.level.branches.isEmpty then .ok next
    else haltAt (.char '|' :: rest) 0 .tooManyBranches
  | _ => .ok next

/-! ## Steps -/

/-- What follows the line that is left. -/
def skipLine : Units → Units
  | [] => []
  | unit :: rest => if unit == .char '\n' then rest else skipLine rest

/-- White space that is skipped where the flags say so. -/
def isLayout (c : Char) : Bool :=
  c == ' ' || c == '\t' || c == '\n' || c == '\r' || c == '\x0b' || c == '\x0c'

/-- A character that neither opens, closes nor separates. -/
def stepChar (d : Draft) (c : Char) (rest : Units) : Except Halt (Draft × Units) :=
  match c with
  | '.' => .ok (d.push (.atom (.one (.any d.level.mode.dotAll))), rest)
  | '^' => .ok (d.push (.anchor (if d.level.mode.multiline then .lineStart else .textStart)), rest)
  | '$' => .ok (d.push (.anchor (if d.level.mode.multiline then .lineEnd else .lastLineEnd)), rest)
  | '[' => do
    let (test, rest) ← ClassReader.read d.folding d.ascii rest
    return (d.push (.atom (.one test)), rest)
  | c => do
    match ← Bounds.read? c rest with
    | some (bounds, after) =>
      d.repeatLast bounds (rest.width + 1 - after.width) after
    | none => return (d.push (.atom (.one (.literal d.folding false c.toNat))), rest)

/-- One construct taken off the text, whose first unit is `unit`. -/
def step (d : Draft) (unit : Lexeme) (rest : Units) : Except Halt (Draft × Units) :=
  match unit with
  | .pair c => do
    let (meaning, rest) ← Escape.readOutside d.ascii c rest
    let piece ← d.pieceOf rest meaning
    return (d.push piece, rest)
  | .char '(' => do
    let (opening, after) ← Opening.read rest
    let d ← d.openWith rest.width after opening
    return (d, after)
  | .char ')' =>
    match d.outer with
    | [] => haltAt (.char ')' :: rest) 0 .unbalanced
    | around :: outer => .ok (d.ascend around outer, rest)
  | .char '|' => do
    let d ← d.alternate rest
    return (d, rest)
  | .char c =>
    if d.level.mode.verbose && isLayout c then .ok (d, rest)
    else if d.level.mode.verbose && c == '#' then .ok (d, skipLine rest)
    else d.stepChar c rest

/-- A parenthesis that closes nothing ends the text too soon; rival flags are noticed before. -/
def stopsAt (d : Draft) (unit : Lexeme) (rest : Units) : Option Halt :=
  if unit == .char ')' && d.outer.isEmpty && d.level.mode.ascii && d.level.mode.unicode then
    some ⟨.rivalAlphabets, Units.width (unit :: rest), 0⟩
  else none

/-- Takes constructs off the text until nothing is left. Each takes at least one unit, so the
number of units is enough fuel. -/
def run : (fuel : Nat) → Draft → Units → Except Halt Draft
  | _, d, [] => .ok d
  | 0, d, _ => .ok d
  | fuel + 1, d, unit :: rest =>
    match d.stopsAt unit rest with
    | some halt => .error halt
    | none => do
      let (d, rest) ← d.step unit rest
      run fuel d rest

/-- The end of the text: no parenthesis may be open. -/
def finish (d : Draft) : Except Halt Draft :=
  if !d.outer.isEmpty then haltAt [] (d.level.left + 1) .unterminatedGroup
  else if d.level.mode.ascii && d.level.mode.unicode then .error ⟨.rivalAlphabets, 0, 0⟩
  else
    match d.tests.find? (fun test => d.groups < test.1) with
    | some (number, left, back) => .error ⟨.malformed (.noSuchGroup number), 0, left + back⟩
    | none => .ok d

end Draft

end RequestRouter
