import RequestRouter.Call.Run
import RequestRouter.Hint.Member
import RequestRouter.Hint.Method

/-!
# Evaluating terms

A term is evaluated among the names of a world. Names that a term gives to values are kept for the
terms after it. Each rule goes back to the evaluation of smaller terms through an `Evaluator`, so
that the depth is bounded in one place, by `evaluator`.
-/

namespace RequestRouter.Hint

open Meaning

/-- What evaluates terms: it keeps the names that values were given. -/
abbrev Evaluation := StateT Names Action

/-- The evaluation of a term where further names are known. -/
abbrev Evaluator := (known : Names) → Term → Evaluation Meaning

def settled {α : Type} (result : Except Fault α) : Evaluation α := liftM (Action.ofExcept result)

def settledTerm {α : Type} (result : Except TermFault α) : Evaluation α := settled (liftTerm result)

def refuse {α : Type} (problem : TypeProblem) : Evaluation α := settled (failTyped problem)

def Constant.meaning : Constant → Meaning
  | .none => .nothing
  | .truth b => .truth b
  | .ellipsis => .ellipsis
  | .whole n => .whole n
  | .inexact written imaginary => .inexact (fractionOf written) imaginary
  | .text s => .text s
  | .bytes bs => .bytes bs
where
  /-- The number that digits with a point and an exponent write. -/
  fractionOf (written : String) : Rat :=
    let isMark (c : Char) : Bool := c == 'e' || c == 'E'
    let chars := written.toList.filter fun c => c != '_' && c != 'j' && c != 'J'
    let mantissa := chars.takeWhile (!isMark ·)
    let power := (chars.dropWhile (!isMark ·)).drop 1
    let value (digits : List Char) : Nat := Text.ofBase 10 (digits.filter Char.isDigit)
    let places := ((mantissa.dropWhile (· != '.')).drop 1).length
    let base : Rat := (value mantissa : Nat) / (Nat.pow 10 places)
    let size := min (value power) 400
    if power.head? == some '-' then base / (Nat.pow 10 size) else base * (Nat.pow 10 size)

def meaningOf (known : Names) (name : String) : Evaluation Meaning := do
  match known.lookup name, (← get).lookup name with
  | some m, _ | none, some m => return m
  | none, none =>
    match (← getThe World).vocabulary.lookup name, standardMeaning? name with
    | some c, _ => return .type c
    | none, some m => return m
    | none, none => settledTerm (.error (.unknownName name))

/-! ## Giving names to values -/

/-- A target takes all the items that are left. -/
def takesRest : Term → Bool
  | .spread _ => true
  | _ => false

/-- The values for targets, of which one may take all that are left. -/
def distribute (targets : List Term) (row : List Meaning) : Except TermFault (List Meaning) :=
  match targets.findIdx? takesRest with
  | none =>
    if row.length < targets.length then .error (.tooFew targets.length row.length false)
    else if targets.length < row.length then .error (.tooMany targets.length)
    else .ok row
  | some place =>
    let least := targets.length - 1
    if row.length < least then .error (.tooFew least row.length true)
    else
      let count := row.length - least
      .ok (row.take place ++ [.items .list ((row.drop place).take count)] ++
        row.drop (place + count))

/-- Every target gets one value. -/
theorem length_distribute {targets : List Term} {row values : List Meaning}
    (h : distribute targets row = .ok values) : values.length = targets.length := by
  unfold distribute at h
  split at h
  · split at h
    · cases h
    · split at h
      · cases h
      · injection h with same
        subst same
        omega
  · next place found =>
    have inside : place < targets.length := (List.findIdx?_eq_some_iff_findIdx_eq.mp found).1
    dsimp only at h
    split at h
    · cases h
    · next enough =>
      injection h with same
      subst same
      simp only [List.length_append, List.length_take, List.length_cons, List.length_nil,
        List.length_drop]
      omega

mutual

/-- The names that a target gives to a value, in front of those that are known. -/
def giveName (known : Names) : Term → Meaning → Except TermFault Names
  | .name s, m => .ok ((s, m) :: known)
  | .spread of, m => giveName known of m
  | .display _ targets, m =>
    match items? m with
    | none => mistyped (.notUnpacked m.typeName)
    | some row => do giveNames known targets (← distribute targets row)
  | _, _ => .ok known

def giveNames (known : Names) : List Term → List Meaning → Except TermFault Names
  | target :: targets, m :: row => do giveNames (← giveName known target m) targets row
  | _, _ => .ok known

end

/-! ## Running through values -/

/-- The items of a value. Those of a stream are collected now. -/
def itemsIn (e : Evaluator) (m : Meaning) : Evaluation (List Meaning) := do
  let m ← match m with
    | .stream collected known => e known collected
    | m => pure m
  settled (itemsOf m)

/-- What is made of all values that some clauses run through, each clause inside the one before. -/
def runClauses {α : Type} (e : Evaluator) (body : Names → Evaluation (List α)) :
    List Clause → (known : Names) → Evaluation (List α)
  | [], known => body known
  | .mk target source conditions :: rest, known => do
    let row ← itemsIn e (← e known source)
    let parts ← row.mapM fun m => do
      let known ← settledTerm (giveName known target m)
      let admitted ← conditions.allM fun condition => return (← e known condition).isTrue
      if admitted then runClauses e body rest known else return []
    return parts.flatten

/-- The name under which a stream keeps the values that its first clause runs through. No term can
write it. -/
def sourceName : String := ".0"

/-- A value that may be a key. -/
def checkKey (m : Meaning) : Evaluation Unit :=
  match unhashable? m with
  | some c => refuse (.unhashable c.name)
  | none => return ()

/-- What a comprehension stands for. A stream only asks for its first source. -/
def comprehend (e : Evaluator) (known : Names) (collecting : Collecting) (key : Option Term)
    (element : Term) (clauses : List Clause) : Evaluation Meaning := do
  let elements : Evaluation (List Meaning) :=
    runClauses e (fun known => return [← e known element]) clauses known
  match collecting, clauses with
  | .list, _ => return .items .list (← elements)
  | .set, _ =>
    let row ← elements
    row.forM checkKey
    return .items .set (distinct row)
  | .dict, _ =>
    let entry (known : Names) : Evaluation (List (Meaning × Meaning)) := do
      let key ← e known (key.getD element)
      let m ← e known element
      checkKey key
      return [(key, m)]
    let row ← runClauses e entry clauses known
    return .entries (row.foldl (fun entries (k, v) => putEntry entries k v) [])
  | .stream, .mk target source conditions :: rest =>
    let row ← itemsIn e (← e known source)
    let clauses := .mk target (.name sourceName) conditions :: rest
    return .stream (.comprehension .list none element clauses)
      ((sourceName, .items .list row) :: known)
  | .stream, [] => return .nothing

/-! ## Rows, mappings and texts -/

/-- The meanings of items, of which some are spread. -/
def evaluateItems (e : Evaluator) (known : Names) (items : List Term) :
    Evaluation (List Meaning) := do
  let parts ← items.mapM fun
    | .spread of => do
      let m ← e known of
      match m, items? m with
      | .stream .., _ => itemsIn e m
      | _, some row => return row
      | m, none => refuse (.notSpread m.typeName)
    | term => do return [← e known term]
  return parts.flatten

def evaluateDisplay (e : Evaluator) (known : Names) (kind : Display) (items : List Term) :
    Evaluation Meaning := do
  let row ← evaluateItems e known items
  match kind with
  | .list => return .items .list row
  | .tuple => return .items .tuple row
  | .set =>
    row.forM checkKey
    return .items .set (distinct row)

def evaluateEntries (e : Evaluator) (known : Names) (entries : List (Option Term × Term)) :
    Evaluation Meaning := do
  let row ← entries.foldlM (fun row (key, value) => do
    match key with
    | some key =>
      let k ← e known key
      let v ← e known value
      checkKey k
      return putEntry row k v
    | none =>
      match ← e known value with
      | .entries more => return more.foldl (fun row (k, v) => putEntry row k v) row
      | m => refuse (.notMapping m.typeName)) []
  return .entries row

mutual

/-- The text of a piece of a formatted text, as far as it is known. -/
def evaluatePiece (e : Evaluator) (known : Names) : FormatPiece → Evaluation (Option String)
  | .text s => return some s
  | .field value conversion layout => do
    let m ← e known value
    let m : Meaning := match conversion with
      | none => m
      | some 's' => .text m.plain
      | some _ => .text m.shown
    match ← evaluatePieces e known layout with
    | some s =>
      match ← settled (layOut m (.text s)) with
      | .text s => return some s
      | _ => return none
    | none => return none

/-- The text of several pieces of a formatted text, as far as it is known. -/
def evaluatePieces (e : Evaluator) (known : Names) : List FormatPiece → Evaluation (Option String)
  | [] => return some ""
  | piece :: rest => do
    let front ← evaluatePiece e known piece
    let back ← evaluatePieces e known rest
    return front.bind fun s => back.map fun t => s ++ t

end

/-! ## Calls -/

/-- The name by which something that is called is told. -/
def calleeName (m : Meaning) : String :=
  match m with
  | .type c => placed c ++ "()"
  | m => ((callableName? m).map (· ++ "()")).getD m.shown

def evaluateArguments (e : Evaluator) (known : Names) (callee : Meaning)
    (arguments : List (ArgumentForm × Term)) : Evaluation Given :=
  arguments.foldlM (fun given (manner, term) => do
    let m ← e known term
    match manner, m, items? m with
    | .plain, m, _ => return { given with values := given.values ++ [m] }
    | .named name, m, _ => return { given with named := given.named ++ [(name, m)] }
    | .spread, .stream .., _ => return { given with values := given.values ++ (← itemsIn e m) }
    | .spread, _, some row => return { given with values := given.values ++ row }
    | .spread, m, none => refuse (.argumentNotSpread (calleeName callee) m.typeName)
    | .spreadNamed, .entries row, _ =>
      let named ← row.mapM fun
        | (.text name, m) => return (name, m)
        | _ => refuse (.argument "keywords must be strings")
      return { given with named := given.named ++ named }
    | .spreadNamed, m, _ => refuse (.argumentNotMapping (calleeName callee) m.typeName)) {}

def returnedMeaning (returned : Returned) : Meaning := .ofValue returned.view

def Given.passed (given : Given) : List Value × Entries String Value :=
  (toValues given.values, given.named.map fun (name, m) => (name, m.toValue))

def callClass (c : Class) (given : Given) : Evaluation Meaning := do
  if (← getThe World).bodies.has c.number then
    let (values, named) := given.passed
    return .ofValue (← liftM (c.construct values named))
  else settled (makeStandard c given)

/-- Calls a function of a class of the world. Without a receiver it takes one as its first
argument. -/
def callMethod (f : Function) (receiver : Option Value) (given : Given) : Evaluation Meaning := do
  let (values, named) := given.passed
  let f := if receiver.isSome then f else { f with formals := { name := "self" } :: f.formals }
  return returnedMeaning (← liftM (f.call receiver values named))

def ParameterForm.passing : ParameterForm → Passing
  | .plain => .either
  | .byPosition => .byPosition
  | .byName => .byName
  | .restByPosition => .restByPosition
  | .restByName => .restByName

/-- Calls a function without a name. Its arguments are bound by their numbers, which stand for them
meanwhile. -/
def callClosure (e : Evaluator) (formals : List (ParameterForm × String × Option Meaning))
    (body : Term) (known : Names) (given : Given) : Evaluation Meaning := do
  let all := given.values ++ given.named.map (·.2)
  let number (i : Nat) : Value := .int i
  let values := (List.range given.values.length).map number
  let named := given.named.zipIdx.map fun ((name, _), i) => (name, number (i + values.length))
  let plans : Binding.Formals := formals.map fun (manner, name, default) =>
    { name, default := default.map fun _ => .null, passing := manner.passing }
  let bound ← liftM (bindFor "<lambda>" plans 0 values named)
  let meaning (name : String) : Value → Meaning
    | .int i => all[i.toNat]?.getD .nothing
    | _ => ((formals.find? fun (_, other, _) => other == name).bind (·.2.2)).getD .nothing
  let own : Names := bound.map fun (name, v) => match v with
    | .list row => (name, .items .tuple (row.map (meaning name)))
    | .pairs row => (name, .entries (row.map fun (key, v) => (.text key, meaning key v)))
    | v => (name, meaning name v)
  e (own ++ known) body

def attributeNamed (m : Meaning) (name : Meaning) : Evaluation Meaning := do
  match name with
  | .text s => liftM (member m s)
  | name =>
    refuse (.argument ("attribute name must be string, not " ++ Text.quote name.typeName))

def termOf (text : String) : Except TermFault Term :=
  if text.toList.contains '\x00' then .error .nullCharacter
  else (Term.read text.toList).mapError .malformed

def callFunction (e : Evaluator) (known : Names) (name : String) (given : Given) :
    Evaluation Meaning := do
  match name, given.values with
  | "eval", .text s :: _ => e known (← settledTerm (termOf s))
  | "eval", m :: _ =>
    if m.typeName == "bytes" then return .thing (standardClass "object")
    else refuse (.argument "eval() arg 1 must be a string, bytes or code object")
  | "getattr", [m, key] => attributeNamed m key
  | "getattr", [m, key, default] =>
    tryCatch (attributeNamed m key) fun fault =>
      if fault.isA (.plain .member) then return default else throw fault
  | "hasattr", [m, key] =>
    tryCatch (do let _ ← attributeNamed m key; return .truth true) fun fault =>
      if fault.isA (.plain .member) then return .truth false else throw fault
  | name, _ => settled (applyFunction name given)

def callAttached (of : Meaning) (name : String) (given : Given) : Evaluation Meaning := do
  match of, name, given.values with
  | .type c, "mro", [] =>
    return .items .list ((ancestors (← getThe World) c).map .type)
  | .type c, "__class_getitem__", [m] => settledTerm (applyClass c m)
  | of, "__getitem__", [m] => settledTerm (bracket of m)
  | of, "__or__", [m] => settledTerm (operate .or of m)
  | .type c, "__subclasses__", [] =>
    return .items .list ((descendants (← getThe World) c).map .type)
  | .type _, name, _ => return resultOf name
  | of, name, _ => settled (applyMethod of name given)

/-- Calls a method of a class that is always there on its first argument. -/
def callDetached (c : Class) (name : String) (given : Given) : Evaluation Meaning := do
  match given.values with
  | [] => refuse (.argument s!"unbound method {c.name}.{name}() needs an argument")
  | of :: rest =>
    if (ancestry of.kindOf).contains c.number then
      callAttached of name { given with values := rest }
    else
      refuse (.argument (s!"descriptor {Text.quote name} for {Text.quote c.name} objects " ++
        s!"doesn't apply to a {Text.quote of.typeName} object"))

/-- Classes and functions that run through their arguments. -/
def consumers : List String :=
  ["list", "tuple", "set", "frozenset", "dict", "enumerate", "zip", "map", "filter", "reversed",
    "any", "all", "sum", "min", "max", "sorted", "next", "iter", "join"]

/-- The name under which a stream keeps what it calls. No term can write it. -/
def calleeKey : String := ".callee"

/-- The name of the value that a stream has reached. No term can write it. -/
def itemKey : String := ".item"

/-- The values that a function gives for items, which come from several rows at a time. -/
def mapStream (f : Meaning) (rows : List (List Meaning)) : Meaning :=
  let least := (rows.map List.length).min?.getD 0
  let source := (List.range least).map fun i => .items .tuple (rows.filterMap (·[i]?))
  let element : Term := .call (.name calleeKey) [(.spread, .name itemKey)]
  .stream (.comprehension .list none element [.mk (.name itemKey) (.name sourceName) []])
    [(sourceName, .items .list source), (calleeKey, f)]

/-- The items that a function gives a true value for, or those that are true themselves. -/
def filterStream (f : Meaning) (row : List Meaning) : Meaning :=
  let item : Term := .name itemKey
  let condition : Term := match f with
    | .nothing => item
    | _ => .call (.name calleeKey) [(.plain, item)]
  .stream (.comprehension .list none item [.mk item (.name sourceName) [condition]])
    [(sourceName, .items .list row), (calleeKey, f)]

/-- Calls a class that gives values by calling a function, if it is one. -/
def callStream? (c : Class) (given : Given) : Option (Except Fault Meaning) :=
  match c.home, c.name, given.values with
  | "builtins", "map", f :: rows@(_ :: _) => some (return mapStream f (← rows.mapM itemsOf))
  | "builtins", "map", _ =>
    some (failTyped (.argument "map() must have at least two arguments."))
  | "builtins", "filter", [f, m] => some (return filterStream f (← itemsOf m))
  | "builtins", "filter", row =>
    some (failTyped (.expected "filter" "2 arguments" row.length))
  | _, _, _ => none

/-- The arguments of a call with streams collected, where the callee runs through them. -/
def collectStreams (e : Evaluator) (callee : Meaning) (given : Given) : Evaluation Given := do
  let name := match callee with
    | .type c => c.name
    | m => (callableName? m).getD ""
  if consumers.contains name then
    let values ← given.values.mapM fun
      | .stream collected known => do
        return passing "generator" (← itemsIn e (.stream collected known))
      | m => return m
    return { given with values }
  else return given

def call (e : Evaluator) (known : Names) (callee : Meaning) (given : Given) :
    Evaluation Meaning := do
  let given ← collectStreams e callee given
  match callee with
  | .type c | .generic c _ =>
    match callStream? c given with
    | some result => settled result
    | none => callClass c given
  | .attached of "__call__" =>
    let named := given.named.map fun (name, m) => (.text name, m)
    e [(calleeKey, of), (itemKey, .items .tuple given.values), (sourceName, .entries named)]
      (.call (.name calleeKey) [(.spread, .name itemKey), (.spreadNamed, .name sourceName)])
  | .form f => refuse (.formInstance f.shown)
  | .union .listed _ => refuse (.formInstance Form.union.shown)
  | .function name => callFunction e known name given
  | .method f receiver => callMethod f receiver given
  | .attached of name => callAttached of name given
  | .detached c name => callDetached c name given
  | .closure formals body captured => callClosure e formals body captured given
  | .thing c =>
    if hasMember c "__call__" then return .thing (standardClass "object")
    else settled (.error (.misuse (.notCallable c.name)))
  | m => settled (.error (.misuse (.notCallable m.typeName)))

/-! ## Terms -/

/-- The value that decides among several: the first false one of `all`, else the first true one. -/
def evaluateJunction (e : Evaluator) (known : Names) (all : Bool) : List Term → Evaluation Meaning
  | [] => return .nothing
  | [term] => e known term
  | term :: rest => do
    let m ← e known term
    if m.isTrue == all then evaluateJunction e known all rest else return m

/-- Whether each of several values is to the next one as it should be. -/
def evaluateChain (e : Evaluator) (known : Names) (first : Meaning) :
    List (Relation × Term) → Evaluation Bool
  | [] => return true
  | (relation, term) :: rest => do
    let second ← e known term
    if ← settled (relate relation first second) then evaluateChain e known second rest
    else return false

def evaluateEnd (e : Evaluator) (known : Names) : Option Term → Evaluation Meaning
  | some term => e known term
  | none => return .nothing

/-- Evaluates a term, its parts being evaluated by `e`. -/
def step (e : Evaluator) (known : Names) : Term → Evaluation Meaning
  | .constant c => return c.meaning
  | .name s => meaningOf known s
  | .formatted pieces => do
    return ((← evaluatePieces e known pieces).map .text).getD someText
  | .display kind row => evaluateDisplay e known kind row
  | .dict row => evaluateEntries e known row
  | .spread of => e known of
  | .member of name => do
    let m ← e known of
    liftM (member m name)
  | .index of argument => do
    let m ← e known of
    settledTerm (bracket m (← e known argument))
  | .slice first last step => do
    return .slice (← evaluateEnd e known first) (← evaluateEnd e known last)
      (← evaluateEnd e known step)
  | .call callee arguments => do
    let m ← e known callee
    call e known m (← evaluateArguments e known m arguments)
  | .not of => return .truth (!(← e known of).isTrue)
  | .unary op of => do settledTerm (signed op (← e known of))
  | .binary op first second => do
    let a ← e known first
    settledTerm (operate op a (← e known second))
  | .junction all terms => evaluateJunction e known all terms
  | .comparison first rest => do
    return .truth (← evaluateChain e known (← e known first) rest)
  | .choice test yes no => do
    if (← e known test).isTrue then e known yes else e known no
  | .lambda formals body => do
    let formals ← formals.mapM fun (manner, name, default) => do
      return (manner, name, ← default.mapM (e known))
    return .closure formals body known
  | .assign name value => do
    let m ← e known value
    modify fun names => (name, m) :: names
    return m
  | .comprehension collecting key element clauses =>
    comprehend e known collecting key element clauses
  | .pause _ => return .nothing

/-- The greatest depth of terms inside terms. -/
def maxDepth : Nat := 2000

/-- What evaluates terms down to a depth. -/
def evaluator : (fuel : Nat) → Evaluator
  | 0, _, _ => settledTerm (.error .tooDeep)
  | fuel + 1, known, term => step (evaluator fuel) known term

/-- The type hint that a text writes. -/
def hintOf (text : String) : Evaluation (TypeHint Class) := do
  let term ← settledTerm (termOf text)
  return (← evaluator maxDepth [] term).toHint

end RequestRouter.Hint
