import RequestRouter.Hint.Names
import RequestRouter.Hint.Place
import RequestRouter.Value.Numeric

/-!
# Functions that are always there

What functions and classes give for values, as far as nothing has to be called or looked up for it.
-/

namespace RequestRouter.Hint

open Meaning

/-- Arguments of a call. -/
structure Given where
  values : List Meaning := []
  named : Names := []

def failTyped {α : Type} (problem : TypeProblem) : Except Fault α := .error (.hint (.typed problem))

/-- A number of arguments in words. -/
def argumentCount (count : Nat) : String :=
  s!"{count} argument" ++ if count == 1 then "" else "s"

def oneArgument : List String :=
  ["abs", "all", "any", "ascii", "bin", "callable", "chr", "hash", "hex", "id", "len", "oct", "ord",
    "repr"]

/-- The least and greatest number of arguments that functions take. -/
def argumentBounds : List (String × Nat × Nat) :=
  [("isinstance", 2, 2), ("issubclass", 2, 2), ("hasattr", 2, 2), ("getattr", 2, 3),
    ("setattr", 3, 3), ("delattr", 2, 2), ("divmod", 2, 2), ("iter", 1, 2), ("next", 1, 2),
    ("format", 1, 2), ("eval", 1, 3), ("sorted", 1, 1), ("max", 1, 1000), ("min", 1, 1000),
    ("vars", 0, 1), ("dir", 0, 1)]

def checkCount (name : String) (given : Given) : Except Fault Unit := do
  let count := given.values.length
  if oneArgument.contains name then
    unless given.named.isEmpty do failTyped (.argument (name ++ "() takes no keyword arguments"))
    if count != 1 then failTyped (.takes name "exactly one argument" count)
  match argumentBounds.lookup name with
  | none => return ()
  | some (least, most) =>
    if least == most && count != least then failTyped (.expected name (argumentCount least) count)
    if count < least then failTyped (.expected name ("at least " ++ argumentCount least) count)
    if most < count then failTyped (.expected name ("at most " ++ argumentCount most) count)

def itemsOf (m : Meaning) : Except Fault (List Meaning) :=
  match items? m with
  | some row => .ok row
  | none => failTyped (.notIterable m.typeName)

/-- A whole number. -/
def wholeOf (m : Meaning) : Except Fault Int :=
  match m.number? with
  | some n => .ok n
  | none =>
    failTyped (.argument (Text.quote m.typeName ++ " object cannot be interpreted as an integer"))

/-- The number of items of a value. -/
def lengthOf (m : Meaning) : Except Fault Meaning :=
  match m with
  | .range first last step => .ok (.whole (rangeCount first last step))
  | .items (.passing _) _ | .generic .. | .union .. => .error (.misuse (.noLength m.typeName))
  | .thing c => if hasMember c "__len__" then .ok someWhole else .error (.misuse (.noLength c.name))
  | m =>
    match items? m with
    | some row => .ok (.whole row.length)
    | none => .error (.misuse (.noLength m.typeName))

def isCallable : Meaning → Bool
  | .type _ | .generic .. | .form _ | .function _ | .method .. | .detached .. | .attached ..
  | .closure .. | .union .listed _ => true
  | .thing c => hasMember c "__call__"
  | _ => false

mutual

/-- A meaning is an instance of a class, of one of several classes or of a member of a union. -/
def isInstance (m : Meaning) : Meaning → Except Fault Bool
  | .type c =>
    match c.nature with
    | .anything => .error (.misuse .anyTest)
    | .contract false _ => .error (.misuse .contractTest)
    | .contract true required => .ok (required.all m.toValue.offers)
    | .ordinary => .ok ((ancestry m.kindOf).contains c.number)
  | .items .tuple row => isInstanceOfSome m row
  | .union _ members => isInstanceOfSome m members
  | .generic .. =>
    failTyped (.argument "isinstance() argument 2 cannot be a parameterized generic")
  | .form f => failTyped (.argument (f.shown ++ " cannot be used with isinstance()"))
  | _ => failTyped (.notClassTest "isinstance" "2 must be a type, a tuple of types, or a union")

def isInstanceOfSome (m : Meaning) : List Meaning → Except Fault Bool
  | [] => .ok false
  | c :: rest => do if ← isInstance m c then return true else isInstanceOfSome m rest

end

mutual

/-- A class descends from a class, from one of several classes or from a member of a union. -/
def isSubclass (c : Class) : Meaning → Except Fault Bool
  | .type d =>
    match d.nature with
    | .contract false _ => .error (.misuse .contractTest)
    | .contract true required => .ok (required.all c.members.contains)
    | _ => .ok ((ancestry c).contains d.number)
  | .items .tuple row => isSubclassOfSome c row
  | .union _ members => isSubclassOfSome c members
  | .generic .. =>
    failTyped (.argument "issubclass() argument 2 cannot be a parameterized generic")
  | .form f => failTyped (.argument (f.shown ++ " cannot be used with issubclass()"))
  | _ => failTyped (.notClassTest "issubclass" "2 must be a class, a tuple of classes, or a union")

/-- A class descends from one of several. -/
def isSubclassOfSome (c : Class) : List Meaning → Except Fault Bool
  | [] => .ok false
  | d :: rest => do if ← isSubclass c d then return true else isSubclassOfSome c rest

end

/-- The one of two values that is wanted: the first one unless the second one goes before it. -/
def prefer (relation : Relation) (a b : Meaning) : Except Fault Meaning := do
  if ← liftTerm (ordered relation b a) then return b else return a

/-- The least or the greatest value. -/
def extreme (name : String) (relation : Relation) (given : Given) : Except Fault Meaning := do
  let row ← match given.values with
    | [m] => itemsOf m
    | row => pure row
  match row, given.named.lookup "default" with
  | [], some m => return m
  | [], none => .error (.hint (.noneGiven name))
  | a :: rest, _ => rest.foldlM (prefer relation) a

def insertOrdered (m : Meaning) : List Meaning → Except Fault (List Meaning)
  | [] => .ok [m]
  | a :: rest => do
    if ← liftTerm (ordered .less m a) then return m :: a :: rest
    else return a :: (← insertOrdered m rest)

def sortRow (row : List Meaning) : Except Fault (List Meaning) :=
  row.foldlM (fun sorted m => insertOrdered m sorted) []

/-- The name of the class that hands out the items of a value. -/
def iteratorName (m : Meaning) : String :=
  match m with
  | .text s => if s.toList.all (·.toNat < 128) then "str_ascii_iterator" else "str_iterator"
  | .bytes _ => "bytes_iterator"
  | .items .list _ => "list_iterator"
  | .items .tuple _ => "tuple_iterator"
  | .items (.passing c) _ => c.name
  | .items _ _ => "set_iterator"
  | .entries _ => "dict_keyiterator"
  | .range .. => "range_iterator"
  | _ => "generator"

/-- Items that are handed out one by one. -/
def passing (name : String) (row : List Meaning) : Meaning :=
  .items (.passing (standardClass name)) row

/-- The first of the values that are handed out. -/
def nextOf (m : Meaning) (default : Option Meaning) : Except Fault Meaning :=
  let refused := failTyped (.argument (Text.quote m.typeName ++ " object is not an iterator"))
  match m with
  | .items (.passing c) row =>
    if !hasMember c "__next__" then refused
    else match row, default with
      | a :: _, _ => .ok a
      | [], some a => .ok a
      | [], none => .error (.hint .nothingLeft)
  | _ => refused

def characterOf (m : Meaning) : Except Fault Meaning := do
  let n ← wholeOf m
  if n < 0 || 0x110000 ≤ n then .error (.hint (.badValue "chr() arg not in range(0x110000)"))
  return .text (String.singleton (Char.ofNat n.toNat))

def codeOf (m : Meaning) : Except Fault Meaning :=
  match m with
  | .text s =>
    match s.toList with
    | [c] => .ok (.whole c.toNat)
    | chars => failTyped (.argument
      s!"ord() expected a character, but string of length {chars.length} found")
  | .bytes [b] => .ok (.whole b.toNat)
  | m => failTyped (.argument s!"ord() expected string of length 1, but {m.typeName} found")

/-- A value in a layout; only the empty layout suits every value. -/
def layOut (m layout : Meaning) : Except Fault Meaning :=
  match layout with
  | .text "" => .ok (.text m.plain)
  | .text _ =>
    if (numberRank? m).isSome || m.typeName == "str" then .ok (.thing (standardClass "str"))
    else failTyped (.noLayout m.typeName)
  | _ => failTyped (.argument ("format() argument 2 must be str, not " ++ layout.typeName))

/-- What functions without a look at attributes give for values. -/
def applyFunction (name : String) (given : Given) : Except Fault Meaning := do
  checkCount name given
  let first := given.values.headD .nothing
  let second := given.values[1]?
  match name with
  | "len" => lengthOf first
  | "callable" => return .truth (isCallable first)
  | "repr" | "ascii" => return .text first.shown
  | "abs" =>
    match first.number?, first, numberRank? first with
    | some n, _, _ => return .whole n.natAbs
    | none, .inexact r false, _ => return .inexact (if r < 0 then -r else r) false
    | _, _, some _ => return someInexact
    | _, _, none =>
      failTyped (.argument ("bad operand type for abs(): " ++ Text.quote first.typeName))
  | "chr" => characterOf first
  | "ord" => codeOf first
  | "bin" | "hex" | "oct" =>
    let _ ← wholeOf first
    return .thing (standardClass "str")
  | "hash" =>
    match unhashable? first with
    | some c => failTyped (.unhashable c.name)
    | none => return someWhole
  | "id" => return someWhole
  | "any" => return .truth ((← itemsOf first).any isTrue)
  | "all" => return .truth ((← itemsOf first).all isTrue)
  | "sum" =>
    let start := (second.or (given.named.lookup "start")).getD (.whole 0)
    liftTerm ((← itemsOf first).foldlM (operate .add) start)
  | "max" => extreme "max" .greater given
  | "min" => extreme "min" .less given
  | "sorted" => return .items .list (← sortRow (← itemsOf first))
  | "isinstance" => return .truth (← isInstance first (second.getD .nothing))
  | "issubclass" =>
    match first with
    | .type c => return .truth (← isSubclass c (second.getD .nothing))
    | _ => failTyped (.notClassTest "issubclass" "1 must be a class")
  | "iter" => return passing (iteratorName first) (← itemsOf first)
  | "next" => nextOf first second
  | "divmod" =>
    return .items .tuple
      [← liftTerm (operate .divideWhole first (second.getD .nothing)),
        ← liftTerm (operate .remainder first (second.getD .nothing))]
  | "pow" => liftTerm (operate .power first (second.getD .nothing))
  | "round" =>
    if (numberRank? first).any (· < 3) then
      return (first.number?.map .whole).getD someWhole
    else failTyped (.argument s!"type {first.typeName} doesn't define __round__ method")
  | "format" => layOut first (second.getD (.text ""))
  | "print" | "setattr" | "delattr" | "exec" => return .nothing
  | "globals" | "locals" | "vars" => return .thing (standardClass "dict")
  | "dir" => return .thing (standardClass "list")
  | _ => return .thing (standardClass "object")

/-- Entries of rows of two, the key first. -/
def entriesOf (row : List Meaning) : Except Fault (List (Meaning × Meaning)) :=
  row.zipIdx.foldlM (fun entries (m, i) => do
    match items? m with
    | none => failTyped (.argument
      s!"cannot convert dictionary update sequence element #{i} to a sequence")
    | some [k, v] =>
      match unhashable? k with
      | some c => failTyped (.unhashable c.name)
      | none => return putEntry entries k v
    | some row => .error (.hint (.badValue
      s!"dictionary update sequence element #{i} has length {row.length}; 2 is required"))) []

/-- A whole number that a class makes of a value. -/
def makeWhole (given : Given) : Except Fault Meaning :=
  match given.values with
  | [] => .ok (.whole 0)
  | [.inexact r false] => .ok (.whole (if r < 0 then -(-r).floor else r.floor))
  | [.type c] => .error (.misuse (.notNumeric (Meaning.type c).typeName))
  | [m] =>
    match numberRank? m with
    | some 0 | some 1 => .ok ((m.number?.map .whole).getD someWhole)
    | _ => (m.toValue.toWhole).map .whole |>.mapError fun
      | .misuse (.notNumeric _) => .misuse (.notNumeric m.typeName)
      | fault => fault
  | _ => .ok someWhole

/-- A number with a fraction that a class makes of a value. -/
def makeInexact (given : Given) : Except Fault Meaning :=
  match given.values with
  | [] => .ok (.inexact 0 false)
  | m :: _ =>
    match fraction? m, m with
    | some r, _ => .ok (.inexact r false)
    | none, .text s =>
      if s.toList.any Char.isDigit || ["nan", "inf", "infinity"].contains s.toLower then
        .ok someInexact
      else .error (.hint (.badValue ("could not convert string to float: " ++ Text.quote s)))
    | none, m => failTyped (.argument
      ("float() argument must be a string or a real number, not " ++ Text.quote m.typeName))

def makeRow (holder : Holder) (given : Given) : Except Fault Meaning := do
  let name := (holderClass holder).name
  match given.values with
  | [] => return .items holder []
  | [m] =>
    let row ← itemsOf m
    match holder, unhashables? row with
    | .list, _ | .tuple, _ => return .items holder row
    | _, some c => failTyped (.unhashable c.name)
    | _, none => return .items holder (distinct row)
  | row => failTyped (.expected name "at most 1 argument" row.length)

def makeEntries (given : Given) : Except Fault Meaning := do
  let base ← match given.values with
    | [] => pure []
    | [.entries row] => pure row
    | [m] => entriesOf (← itemsOf m)
    | row => failTyped (.expected "dict" "at most 1 argument" row.length)
  return .entries (given.named.foldl (fun row (name, m) => putEntry row (.text name) m) base)

def makeRange (given : Given) : Except Fault Meaning := do
  match ← given.values.mapM wholeOf with
  | [last] => return .range 0 last 1
  | [first, last] => return .range first last 1
  | [first, last, step] =>
    if step == 0 then .error (.hint (.badValue "range() arg 3 must not be zero"))
    return .range first last step
  | [] => failTyped (.expected "range" "at least 1 argument" 0)
  | row => failTyped (.expected "range" "at most 3 arguments" row.length)

def makeStandard (c : Class) (given : Given) : Except Fault Meaning := do
  let count := given.values.length
  match c.name with
  | "object" =>
    if 0 < count then failTyped (.argument "object() takes no arguments")
    return .thing c
  | "type" =>
    match given.values with
    | [m] => return .type m.kindOf
    | [_, _, _] => return .thing c
    | _ => failTyped (.argument "type() takes 1 or 3 arguments")
  | "bool" =>
    if 1 < count then failTyped (.expected "bool" "at most 1 argument" count)
    return .truth (given.values.any isTrue)
  | "int" => makeWhole given
  | "float" => makeInexact given
  | "str" => return .text ((given.values.head?.map plain).getD "")
  | "list" => makeRow .list given
  | "tuple" => makeRow .tuple given
  | "set" => makeRow .set given
  | "frozenset" => makeRow .frozen given
  | "dict" => makeEntries given
  | "range" => makeRange given
  | "reversed" => return passing "reversed" (← itemsOf (given.values.headD .nothing)).reverse
  | "enumerate" =>
    let row ← itemsOf (given.values.headD .nothing)
    return passing "enumerate"
      (row.zipIdx.map fun (m, (i : Nat)) => .items .tuple [.whole (i : Int), m])
  | "zip" =>
    let rows ← given.values.mapM itemsOf
    let least := (rows.map List.length).min?.getD 0
    return passing "zip" ((List.range least).map fun i => .items .tuple (rows.filterMap (·[i]?)))
  | "slice" =>
    match given.values with
    | [last] => return .slice .nothing last .nothing
    | [first, last] => return .slice first last .nothing
    | [first, last, step] => return .slice first last step
    | row => failTyped (.expected "slice" "at least 1 argument" row.length)
  | "NoneType" | "ellipsis" | "NotImplementedType" =>
    if 0 < count then failTyped (.argument (c.name ++ " takes no arguments"))
    return match c.name with
      | "NoneType" => .nothing
      | "ellipsis" => .ellipsis
      | _ => .thing c
  | "function" | "builtin_function_or_method" | "generator" | "mappingproxy" =>
    failTyped (.argument ("cannot create " ++ Text.quote c.name ++ " instances"))
  | _ => return .thing c

end RequestRouter.Hint
