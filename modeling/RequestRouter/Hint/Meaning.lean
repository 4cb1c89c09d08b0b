import RequestRouter.Handler.Function
import RequestRouter.Hint.Classes
import RequestRouter.Hint.Term

/-!
# What terms stand for

A term stands for a class or what is built from classes, for a value, or for something that can be
called. Of values that no type hint is built from, often only the class matters; these are kept by
it alone.
-/

namespace RequestRouter.Hint

/-- How the items of a row are held. -/
inductive Holder
  | list
  | tuple
  | set
  | frozen
  /-- Items that are handed out one by one, by a value of a class. -/
  | passing (c : Class)

/-- How a union was written. -/
inductive UnionStyle
  /-- With bars between its members. -/
  | bars
  /-- By a form that its members were arguments of. -/
  | listed
  deriving DecidableEq, Repr

/-- Forms that take type hints as arguments. -/
inductive Form
  | optional
  | union
  deriving DecidableEq, Repr

def Form.name : Form → String
  | .optional => "Optional"
  | .union => "Union"

def Form.shown (f : Form) : String := "typing." ++ f.name

/-- What a term stands for. -/
inductive Meaning
  | nothing
  | truth (b : Bool)
  | whole (n : Int)
  /-- A number with a fraction, or a multiple of the imaginary unit. -/
  | inexact (r : Rat) (imaginary : Bool)
  | text (s : String)
  | bytes (bytes : List UInt8)
  | ellipsis
  | items (holder : Holder) (items : List Meaning)
  | entries (entries : List (Meaning × Meaning))
  | range (first last step : Int)
  | slice (first last step : Meaning)
  | type (c : Class)
  | generic (origin : Class) (arguments : List Meaning)
  | union (style : UnionStyle) (members : List Meaning)
  /-- The name of a type hint that stands inside a form. -/
  | reference (s : String)
  | form (f : Form)
  /-- A function that is always there. -/
  | function (name : String)
  /-- A function of a class of the world, with its receiver if it has one. -/
  | method (f : Function) (receiver : Option Value)
  /-- A method of a class that is always there, without a receiver. -/
  | detached (c : Class) (name : String)
  /-- A method of a value. -/
  | attached (of : Meaning) (name : String)
  /-- A function without a name, with the names that were known where it stands. -/
  | closure (formals : List (ParameterForm × String × Option Meaning)) (body : Term)
      (known : List (String × Meaning))
  /-- Values that a term collects into a list once they are asked for. -/
  | stream (collected : Term) (known : List (String × Meaning))
  | instance (v : Value)
  /-- A value that only its class is known of. -/
  | thing (c : Class)
  deriving Inhabited

namespace Meaning

def holderClass : Holder → Class
  | .list => standardClass "list"
  | .tuple => standardClass "tuple"
  | .set => standardClass "set"
  | .frozen => standardClass "frozenset"
  | .passing c => c

def classOfValue (v : Value) : Class :=
  v.class?.getD { standardClass v.typeName with name := v.typeName, qualname := v.typeName }

def kindOf : Meaning → Class
  | .nothing => standardClass "NoneType"
  | .truth _ => standardClass "bool"
  | .whole _ => standardClass "int"
  | .inexact _ imaginary => standardClass (if imaginary then "complex" else "float")
  | .text _ => standardClass "str"
  | .bytes _ => standardClass "bytes"
  | .ellipsis => standardClass "ellipsis"
  | .items holder _ => holderClass holder
  | .entries _ => standardClass "dict"
  | .range .. => standardClass "range"
  | .slice .. => standardClass "slice"
  | .type c => kindOfClass c
  | .generic .. => standardClass "GenericAlias"
  | .union .bars _ => standardClass "UnionType"
  | .union .listed _ => standardClass "_UnionGenericAlias"
  | .reference _ => standardClass "ForwardRef"
  | .form _ => standardClass "_SpecialForm"
  | .function _ | .attached .. => standardClass "builtin_function_or_method"
  | .method _ receiver => standardClass (if receiver.isSome then "method" else "function")
  | .detached .. => standardClass "method_descriptor"
  | .closure .. => standardClass "function"
  | .stream .. => standardClass "generator"
  | .instance v => classOfValue v
  | .thing c => c

/-- The name by which the class of a meaning is told. -/
def typeName (m : Meaning) : String := tellingName m.kindOf

def noneType : Class := standardClass "NoneType"

/-- A class by its home and name, without its home where that is understood. -/
def placed (c : Class) : String := if c.home == "builtins" then c.qualname else c.key

/-- The number that a meaning counts as. -/
def number? : Meaning → Option Int
  | .truth b => some (if b then 1 else 0)
  | .whole n => some n
  | _ => none

/-- The number of items of a range. -/
def rangeCount (first last step : Int) : Nat :=
  let span := if step < 0 then first - last else last - first
  let width := step.natAbs
  if span ≤ 0 || width == 0 then 0 else (span.toNat + width - 1) / width

def rangeItems (first last step : Int) : List Int :=
  (List.range (rangeCount first last step)).map fun (i : Nat) => first + step * (i : Int)

/-- A range has as many items as are counted. -/
theorem length_rangeItems (first last step : Int) :
    (rangeItems first last step).length = rangeCount first last step := by
  simp [rangeItems]

/-- Counts as true in a test. -/
def isTrue : Meaning → Bool
  | .nothing => false
  | .truth b => b
  | .whole n => n != 0
  | .inexact r _ => r != 0
  | .text s => !s.isEmpty
  | .bytes bs => !bs.isEmpty
  | .items (.passing _) _ => true
  | .items _ row => !row.isEmpty
  | .entries row => !row.isEmpty
  | .range first last step => rangeCount first last step != 0
  | _ => true

mutual

/-- Two meanings are equal. Things of which only the class is known never are. -/
def equals : Meaning → Meaning → Bool
  | .nothing, .nothing | .ellipsis, .ellipsis => true
  | .text s, .text t => s == t
  | .bytes as, .bytes bs => as == bs
  | .inexact r i, .inexact q j => r == q && (i == j || r == 0)
  | .inexact r i, m => !i && m.number?.any fun n => r == n
  | m, .inexact r i => !i && m.number?.any fun n => r == n
  | .items .list as, .items .list bs => allEqual as bs
  | .items .tuple as, .items .tuple bs => allEqual as bs
  | .items .set as, .items .set bs => as.length == bs.length && allIn as bs
  | .items .set as, .items .frozen bs => as.length == bs.length && allIn as bs
  | .items .frozen as, .items .set bs => as.length == bs.length && allIn as bs
  | .items .frozen as, .items .frozen bs => as.length == bs.length && allIn as bs
  | .entries as, .entries bs => as.length == bs.length && allEntriesIn as bs
  | .range a b c, .range d e f => rangeItems a b c == rangeItems d e f
  | .slice a b c, .slice d e f => equals a d && equals b e && equals c f
  | .type c, .type d => c.number == d.number
  | .generic c as, .generic d bs => c.number == d.number && allEqual as bs
  | .union _ as, .union _ bs => as.length == bs.length && allIn as bs
  | .reference s, .reference t => s == t
  | .form f, .form g => f == g
  | .function f, .function g => f == g
  | .method f none, .method g none => f.same g
  | .detached c f, .detached d g => c.number == d.number && f == g
  | .instance v, .instance w => v.equals w
  | m, n => m.number?.isSome && m.number? == n.number?

def allEqual : List Meaning → List Meaning → Bool
  | [], [] => true
  | a :: as, b :: bs => equals a b && allEqual as bs
  | _, _ => false

/-- All of the first row equal one of the second. -/
def allIn : List Meaning → List Meaning → Bool
  | [], _ => true
  | a :: as, bs => bs.any (equals a) && allIn as bs

/-- All entries equal one of the second row. -/
def allEntriesIn : List (Meaning × Meaning) → List (Meaning × Meaning) → Bool
  | [], _ => true
  | (k, v) :: rest, others =>
    (others.any fun (l, w) => equals k l && equals v w) && allEntriesIn rest others

end

/-- Meanings without repetitions, the first of equal ones kept. -/
def distinct : List Meaning → List Meaning
  | [] => []
  | a :: as => a :: (distinct as).filter fun b => !equals a b

/-- An entry under a key that is equal. -/
def valueUnder? (entries : List (Meaning × Meaning)) (key : Meaning) : Option Meaning :=
  (entries.find? fun (k, _) => equals k key).map (·.2)

/-- Writes an entry; a key that is there keeps its place. -/
def putEntry (entries : List (Meaning × Meaning)) (key value : Meaning) :
    List (Meaning × Meaning) :=
  if (valueUnder? entries key).isSome then
    entries.map fun (k, v) => if equals k key then (k, value) else (k, v)
  else entries ++ [(key, value)]

mutual

/-- The class of what keeps a meaning from being a key, if anything does. -/
def unhashable? : Meaning → Option Class
  | .items .list _ => some (standardClass "list")
  | .items .set _ => some (standardClass "set")
  | .items .tuple row => unhashables? row
  | .entries _ => some (standardClass "dict")
  | .slice .. => some (standardClass "slice")
  | .generic _ arguments => unhashables? arguments
  | .union _ members => unhashables? members
  | .thing c => if c.name == "bytearray" then some c else none
  | _ => none

/-- The class of what keeps one of several meanings from being a key. -/
def unhashables? : List Meaning → Option Class
  | [] => none
  | a :: as => (unhashable? a).or (unhashables? as)

end

def ofValue : Value → Meaning
  | .null => .nothing
  | .bool b => .truth b
  | .int n => .whole n
  | .text s => .text s
  | .bytes bs => .bytes bs
  | .type c => .type c
  | v => .instance v

mutual

/-- The value that a meaning is passed on as. -/
def toValue : Meaning → Value
  | .nothing => .null
  | .truth b => .bool b
  | .whole n => .int n
  | .text s => .text s
  | .bytes bs => .bytes bs
  | .items .list row => .list (toValues row)
  | .type c => .type c
  | .instance v => v
  | m => .object m.kindOf []

def toValues : List Meaning → List Value
  | [] => []
  | a :: as => toValue a :: toValues as

end

mutual

/-- The type hint that a meaning is. What is neither a class nor built from classes is like a type
hint that stands for no class. -/
def toHint : Meaning → TypeHint Class
  | .nothing => .none
  | .text s => .text s
  | .type c => if c.number == noneType.number then .none else .type c
  | .generic c arguments => .generic c.name (toHints arguments)
  | .union _ members => .union (toHints members)
  | _ => .special .newType

def toHints : List Meaning → List (TypeHint Class)
  | [] => []
  | a :: as => toHint a :: toHints as

end

end Meaning

end RequestRouter.Hint
