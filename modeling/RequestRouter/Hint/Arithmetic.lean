import RequestRouter.Hint.Union

/-!
# Signs in front of and between values

Numbers are calculated with exactly, also where they have a fraction. Rows are continued and
repeated, sets are joined and cut, and bars join type hints. Results that would be very long are
kept by their class alone.
-/

namespace RequestRouter.Hint

open Meaning

/-- Results that are longer than this are kept by their class alone. -/
def maxLength : Nat := 100000

/-- A whole number. -/
def someWhole : Meaning := .thing (standardClass "int")

/-- A number with a fraction. -/
def someInexact : Meaning := .thing (standardClass "float")

/-- The sign of an operation in messages about values it is not made for. -/
def BinaryOp.told : BinaryOp → String
  | .power => "** or pow()"
  | op => op.sign

/-- Two values are not joined by a sign. -/
def unsupported (op : BinaryOp) (a b : Meaning) : Except TermFault Meaning :=
  mistyped (.operands op.told a.typeName b.typeName)

/-- A function of single bits on whole numbers, negative ones having endless ones in front. -/
def bitwise (f : Bool → Bool → Bool) (m n : Int) : Int :=
  let negative := f (m < 0) (n < 0)
  let bits (k : Int) : Nat := if k < 0 then (-k - 1).toNat else k.toNat
  let g (x y : Bool) : Bool := (f (x != (m < 0)) (y != (n < 0))) != negative
  let result : Int := Nat.bitwise g (bits m) (bits n)
  if negative then -result - 1 else result

/-- A power of a whole number. -/
def wholePower (m n : Int) : Except TermFault Meaning :=
  if n < 0 then
    if m == 0 then .error (.zeroDivisor "0.0 cannot be raised to a negative power")
    else .ok (.inexact (1 / ((m : Rat) ^ n.natAbs)) false)
  else if n.natAbs * m.natAbs.log2 ≤ maxLength then .ok (.whole (m.pow n.natAbs))
  else .ok someWhole

def wholeOperation (op : BinaryOp) (m n : Int) : Except TermFault Meaning :=
  match op with
  | .or => .ok (.whole (bitwise or m n))
  | .xor => .ok (.whole (bitwise xor m n))
  | .and => .ok (.whole (bitwise and m n))
  | .shiftLeft =>
    if n < 0 then .error .negativeShift
    else if m == 0 then .ok (.whole 0)
    else if n.natAbs ≤ maxLength then .ok (.whole (m * Int.pow 2 n.natAbs))
    else .ok someWhole
  | .shiftRight =>
    if n < 0 then .error .negativeShift else .ok (.whole (m.shiftRight n.natAbs))
  | .add => .ok (.whole (m + n))
  | .subtract => .ok (.whole (m - n))
  | .multiply => .ok (.whole (m * n))
  | .divide =>
    if n == 0 then .error (.zeroDivisor "division by zero") else .ok (.inexact (m / n : Rat) false)
  | .divideWhole =>
    if n == 0 then .error (.zeroDivisor "integer division or modulo by zero")
    else .ok (.whole (m.fdiv n))
  | .remainder =>
    if n == 0 then .error (.zeroDivisor "integer modulo by zero") else .ok (.whole (m.fmod n))
  | .power => wholePower m n
  | .matrix => unsupported op (.whole m) (.whole n)

/-- An operation on numbers of which one has a fraction. -/
def inexactOperation (op : BinaryOp) (a b : Meaning) (r q : Rat) : Except TermFault Meaning :=
  let result (r : Rat) : Except TermFault Meaning := .ok (.inexact r false)
  match op with
  | .add => result (r + q)
  | .subtract => result (r - q)
  | .multiply => result (r * q)
  | .divide => if q == 0 then .error (.zeroDivisor "float division by zero") else result (r / q)
  | .divideWhole =>
    if q == 0 then .error (.zeroDivisor "float floor division by zero")
    else result ((r / q).floor : Int)
  | .remainder =>
    if q == 0 then .error (.zeroDivisor "float modulo") else result (r - q * (r / q).floor)
  | .power =>
    if r == 0 && q < 0 then .error (.zeroDivisor "0.0 cannot be raised to a negative power")
    else if q.den == 1 && q.num.natAbs ≤ 300 then
      result (if q < 0 then 1 / r ^ q.num.natAbs else r ^ q.num.natAbs)
    else .ok someInexact
  | op => unsupported op a b

/-- An operation on numbers of which one has an imaginary part. -/
def imaginaryOperation (op : BinaryOp) (a b : Meaning) : Except TermFault Meaning :=
  match op with
  | .add | .subtract | .multiply | .power => .ok (.thing (standardClass "complex"))
  | .divide =>
    if b.isTrue then .ok (.thing (standardClass "complex"))
    else .error (.zeroDivisor "complex division by zero")
  | op => unsupported op a b

/-- A number as a fraction. -/
def fraction? : Meaning → Option Rat
  | .inexact r false => some r
  | m => m.number?.map fun n => (n : Rat)

/-- The classes of numbers, from the narrowest to the widest. -/
def numberNames : List String := ["bool", "int", "float", "complex"]

/-- How wide the class of a number is. -/
def numberRank? (m : Meaning) : Option Nat := numberNames.findIdx? (· == m.typeName)

def numberOperation (op : BinaryOp) (a b : Meaning) : Except TermFault Meaning :=
  match a, b with
  | .truth x, .truth y =>
    match op with
    | .or => .ok (.truth (x || y))
    | .xor => .ok (.truth (x != y))
    | .and => .ok (.truth (x && y))
    | op => wholeOperation op (if x then 1 else 0) (if y then 1 else 0)
  | a, b =>
    match a.number?, b.number?, fraction? a, fraction? b with
    | some m, some n, _, _ => wholeOperation op m n
    | _, _, some r, some q => inexactOperation op a b r q
    | _, _, _, _ =>
      if max ((numberRank? a).getD 0) ((numberRank? b).getD 0) == 3 then imaginaryOperation op a b
      else if (numberRank? a).getD 0 ≤ 1 && (numberRank? b).getD 0 ≤ 1 && op != .divide then
        .ok someWhole
      else if [BinaryOp.or, .xor, .and, .shiftLeft, .shiftRight, .matrix].contains op then
        unsupported op a b
      else .ok someInexact

/-- The name of a row that can be continued and repeated. -/
def rowName? : Meaning → Option String
  | .text _ => some "str"
  | .bytes _ => some "bytes"
  | .items .list _ => some "list"
  | .items .tuple _ => some "tuple"
  | .thing c => if ["str", "list", "tuple"].contains c.name then some c.name else none
  | _ => none

/-- A row that another one continues. -/
def continue? (a b : Meaning) : Option (Except TermFault Meaning) :=
  match a, b with
  | .text s, .text t => some (.ok (.text (s ++ t)))
  | .bytes as, .bytes bs => some (.ok (.bytes (as ++ bs)))
  | .items .list as, .items .list bs => some (.ok (.items .list (as ++ bs)))
  | .items .tuple as, .items .tuple bs => some (.ok (.items .tuple (as ++ bs)))
  | a, b =>
    match rowName? a with
    | some "bytes" => some (mistyped (.notContinuedBytes b.typeName "bytes"))
    | some row =>
      if b.typeName == row then some (.ok (.thing a.kindOf))
      else some (mistyped (.notContinued row b.typeName))
    | none => none

/-- A row repeated a number of times. -/
def repeatRow (a : Meaning) (count : Int) : Meaning :=
  let times {α : Type} (row : List α) : List α := (List.replicate count.toNat row).flatten
  let fits (length : Nat) : Bool := length * count.toNat ≤ maxLength
  match a with
  | .text s => if fits s.length then .text (String.ofList (times s.toList)) else .thing a.kindOf
  | .bytes bs => if fits bs.length then .bytes (times bs) else .thing a.kindOf
  | .items holder row => if fits row.length then .items holder (times row) else .thing a.kindOf
  | a => a

def multiplyRow (a b : Meaning) : Except TermFault Meaning :=
  match b.number? with
  | some n => .ok (repeatRow a n)
  | none =>
    if b.typeName == "int" then .ok (.thing a.kindOf) else mistyped (.notRepeated b.typeName)

/-- The members of a set. -/
def setMembers? : Meaning → Option (List Meaning)
  | .items .set row | .items .frozen row => some row
  | .items (.passing c) row =>
    if c.name == "dict_keys" || c.name == "dict_items" then some row else none
  | _ => none

/-- An operation on two sets, if it is one; the result is held like the first one. -/
def setOperation? (op : BinaryOp) (a b : Meaning) : Option Meaning :=
  match setMembers? a, setMembers? b with
  | some as, some bs =>
    let holder : Holder := match a with
      | .items .frozen _ => .frozen
      | _ => .set
    let without (xs ys : List Meaning) := xs.filter fun x => !ys.any (equals x)
    match op with
    | .or => some (.items holder (as ++ without bs as))
    | .and => some (.items holder (as.filter fun x => bs.any (equals x)))
    | .subtract => some (.items holder (without as bs))
    | .xor => some (.items holder (without as bs ++ without bs as))
    | _ => none
  | _, _ => none

/-- A value may be put into a text by keys. -/
def fillsByKey : Meaning → Bool
  | .items .list _ | .entries _ | .bytes _ | .range .. | .generic .. | .union .. | .form _ => true
  | _ => false

/-- A text that values are put into. -/
def fill (s : String) (values : Meaning) : Except TermFault Meaning :=
  if s.toList.contains '%' then .ok (.thing (standardClass "str"))
  else match values with
    | .items .tuple row => if row.isEmpty then .ok (.text s) else mistyped .leftOver
    | m => if fillsByKey m then .ok (.text s) else mistyped .leftOver

def operate (op : BinaryOp) (a b : Meaning) : Except TermFault Meaning :=
  if (numberRank? a).isSome && (numberRank? b).isSome then numberOperation op a b
  else match setOperation? op a b with
    | some m => .ok m
    | none =>
      match op, a, b with
      | .or, .entries as, .entries bs =>
        .ok (.entries (bs.foldl (fun row (k, v) => putEntry row k v) as))
      | .or, a, b => (barUnion? a b).getD (unsupported .or a b)
      | .add, a, b => (continue? a b).getD (unsupported .add a b)
      | .multiply, a, b =>
        if (rowName? a).isSome then multiplyRow a b
        else if (rowName? b).isSome then multiplyRow b a
        else unsupported .multiply a b
      | .remainder, .text s, b => fill s b
      | op, a, b => unsupported op a b

def signed (op : UnaryOp) (m : Meaning) : Except TermFault Meaning :=
  let refused := mistyped (.operand op.sign m.typeName)
  match op, m.number?, m with
  | .plus, some n, _ => .ok (.whole n)
  | .minus, some n, _ => .ok (.whole (-n))
  | .complement, some n, _ => .ok (.whole (-n - 1))
  | .plus, _, .inexact r i => .ok (.inexact r i)
  | .minus, _, .inexact r i => .ok (.inexact (-r) i)
  | op, _, m =>
    match numberRank? m with
    | some rank => if op == .complement && 2 ≤ rank then refused else .ok m
    | none => refused

end RequestRouter.Hint
