/-!
# Terms of text hints

The terms that text hints are read into. They are those of a general expression language, since a
text hint is evaluated like any other expression; most of them stand for no class.
-/

namespace RequestRouter.Hint

/-- A term that stands for itself. -/
inductive Constant
  | none
  | truth (b : Bool)
  | ellipsis
  | whole (n : Nat)
  /-- A number with a fraction, an exponent or an imaginary unit, as it is written. -/
  | inexact (written : String) (imaginary : Bool)
  | text (s : String)
  | bytes (bytes : List UInt8)
  deriving DecidableEq, Repr

/-- Signs in front of a term. -/
inductive UnaryOp
  | plus
  | minus
  | complement
  deriving DecidableEq, Repr

def UnaryOp.sign : UnaryOp → String
  | .plus => "+"
  | .minus => "-"
  | .complement => "~"

/-- Signs between two terms. -/
inductive BinaryOp
  | or
  | xor
  | and
  | shiftLeft
  | shiftRight
  | add
  | subtract
  | multiply
  | divide
  | divideWhole
  | remainder
  | matrix
  | power
  deriving DecidableEq, Repr

def BinaryOp.sign : BinaryOp → String
  | .or => "|"
  | .xor => "^"
  | .and => "&"
  | .shiftLeft => "<<"
  | .shiftRight => ">>"
  | .add => "+"
  | .subtract => "-"
  | .multiply => "*"
  | .divide => "/"
  | .divideWhole => "//"
  | .remainder => "%"
  | .matrix => "@"
  | .power => "**"

inductive Relation
  | equal
  | unequal
  | less
  | atMost
  | greater
  | atLeast
  | same
  | notSame
  | within
  | notWithin
  deriving DecidableEq, Repr

def Relation.sign : Relation → String
  | .equal => "=="
  | .unequal => "!="
  | .less => "<"
  | .atMost => "<="
  | .greater => ">"
  | .atLeast => ">="
  | .same => "is"
  | .notSame => "is not"
  | .within => "in"
  | .notWithin => "not in"

/-- Values that are written by listing their items. -/
inductive Display
  | list
  | tuple
  | set
  deriving DecidableEq, Repr

inductive ArgumentForm
  | plain
  | named (name : String)
  /-- The items of the argument are arguments. -/
  | spread
  /-- The entries of the argument are arguments by name. -/
  | spreadNamed
  deriving DecidableEq, Repr

/-- How a parameter of a function without a name is written. -/
inductive ParameterForm
  | plain
  /-- Takes no argument by name. -/
  | byPosition
  /-- Takes no argument by position. -/
  | byName
  | restByPosition
  | restByName
  deriving DecidableEq, Repr

/-- What is made of the values that clauses run through. -/
inductive Collecting
  | list
  | set
  | dict
  /-- Nothing, until a value is asked for. -/
  | stream
  deriving DecidableEq, Repr

mutual

inductive Term
  | constant (c : Constant)
  | name (s : String)
  /-- A text with the values of terms put into it. -/
  | formatted (pieces : List FormatPiece)
  | display (kind : Display) (items : List Term)
  /-- Entries with their keys; the entries of a value without a key are put in its place. -/
  | dict (entries : List (Option Term × Term))
  /-- The items of a value, among those of a display or as arguments. -/
  | spread (of : Term)
  | member (of : Term) (name : String)
  | index (of argument : Term)
  | slice (first last step : Option Term)
  | call (callee : Term) (arguments : List (ArgumentForm × Term))
  | not (of : Term)
  | unary (op : UnaryOp) (of : Term)
  | binary (op : BinaryOp) (first second : Term)
  /-- The first value that decides: the first false one of `all`, else the first true one. -/
  | junction (all : Bool) (terms : List Term)
  | comparison (first : Term) (rest : List (Relation × Term))
  | choice (test yes no : Term)
  | lambda (formals : List (ParameterForm × String × Option Term)) (body : Term)
  /-- The value of a term, which a name keeps. -/
  | assign (name : String) (value : Term)
  | comprehension (collecting : Collecting) (key : Option Term) (element : Term)
      (clauses : List Clause)
  /-- A place where a function without a name is left for a while. -/
  | pause (value : Option Term)

/-- Where the values of a comprehension come from. -/
inductive Clause
  | mk (target source : Term) (conditions : List Term)

inductive FormatPiece
  | text (s : String)
  | field (value : Term) (conversion : Option Char) (layout : List FormatPiece)

end

instance : Inhabited Term := ⟨.constant .none⟩

namespace Term

/-- What kind of term a term is, in the words of messages. -/
def kindName : Term → String
  | .constant .none => "None"
  | .constant (.truth b) => if b then "True" else "False"
  | .constant .ellipsis => "ellipsis"
  | .constant _ => "literal"
  | .name _ => "name"
  | .formatted _ => "f-string expression"
  | .display .list _ => "list"
  | .display .tuple _ => "tuple"
  | .display .set _ => "set display"
  | .dict _ => "dict literal"
  | .spread _ => "starred"
  | .member .. => "attribute"
  | .index .. => "subscript"
  | .slice .. => "slice"
  | .call .. => "function call"
  | .not _ | .unary .. | .binary .. | .junction .. => "expression"
  | .comparison .. => "comparison"
  | .choice .. => "conditional expression"
  | .lambda .. => "lambda"
  | .assign .. => "named expression"
  | .comprehension .list .. => "list comprehension"
  | .comprehension .set .. => "set comprehension"
  | .comprehension .dict .. => "dict comprehension"
  | .comprehension .stream .. => "generator expression"
  | .pause _ => "yield expression"

mutual

def targetNames : Term → List String
  | .name s => [s]
  | .spread of => targetNames of
  | .display _ items => targetsNames items
  | _ => []

def targetsNames : List Term → List String
  | [] => []
  | term :: rest => targetNames term ++ targetsNames rest

end

def isName : Term → Bool
  | .name _ => true
  | _ => false

/-- Behind terms of this kind an equals sign is not taken for a comparison. -/
def isBracketed : Term → Bool
  | .constant .none | .constant (.truth _) => true
  | .display .list _ | .display .tuple _ => true
  | .comprehension .stream .. => true
  | _ => false

mutual

/-- The first part of a term that nothing can be assigned to. -/
def notTarget? : Term → Option Term
  | .name _ | .member .. | .index .. => none
  | .display .list items | .display .tuple items => notTargets? items
  | .spread of => notTarget? of
  | .comparison first ((.within, _) :: _) => notTarget? first
  | term => some term

/-- The first part of several terms that nothing can be assigned to. -/
def notTargets? : List Term → Option Term
  | [] => none
  | term :: rest => (notTarget? term).or (notTargets? rest)

end

end Term

/-- The names by which a clause runs through values. -/
def Clause.names : Clause → List String
  | .mk target _ _ => target.targetNames

end RequestRouter.Hint
