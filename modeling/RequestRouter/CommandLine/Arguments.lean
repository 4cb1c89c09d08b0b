import RequestRouter.Text.Digit
import RequestRouter.Text.Quoted

/-!
# Arguments of the command line

A command has positional arguments and one option, which asks for help. Options may stand anywhere;
a divider of two dashes makes all that follows it positional. What cannot be used is reported by the
main command, once the chosen command has all it needs.
-/

namespace RequestRouter

/-- What a command prints, and the status it exits with unless it just ends. -/
structure Console where
  exit : Option Int := none
  stdout : String := ""
  stderr : String := ""
  deriving DecidableEq, Repr

namespace Console

def print (text : String) : Console := { stdout := text }

/-- Prints a text and exits without an error. -/
def exitWith (text : String) : Console := { exit := some 0, stdout := text }

def fail (status : Int) (text : String) : Console := { exit := some status, stderr := text }

end Console

namespace CommandLine

/-! ## The commands and their texts -/

structure CommandForm where
  prog : String
  usage : String
  details : String
  needed : List String

/-- The main command, whose only argument is a command. -/
def mainForm : CommandForm where
  prog := "distroute"
  usage := "usage: distroute [-h] \x7broutes,match\x7d ...\n"
  details :=
    "\ndistroute — a regex-based request router with argument injection.\n" ++
    "\npositional arguments:\n" ++
    "  \x7broutes,match\x7d\n" ++
    "    routes        List registered routes\n" ++
    "    match         Show which route a request hits\n" ++
    "\noptions:\n" ++
    "  -h, --help      show this help message and exit\n"
  needed := []

def routesForm : CommandForm where
  prog := "distroute routes"
  usage := "usage: distroute routes [-h] router\n"
  details :=
    "\npositional arguments:\n" ++
    "  router      Import string (e.g. myapp:router)\n" ++
    "\noptions:\n" ++
    "  -h, --help  show this help message and exit\n"
  needed := ["router"]

/-- The command that shows which route a request hits. -/
def matchForm : CommandForm where
  prog := "distroute match"
  usage := "usage: distroute match [-h] router method path\n"
  details :=
    "\npositional arguments:\n" ++
    "  router      Import string (e.g. myapp:router)\n" ++
    "  method      Request method (e.g. GET)\n" ++
    "  path        Request path (e.g. /users/42)\n" ++
    "\noptions:\n" ++
    "  -h, --help  show this help message and exit\n"
  needed := ["router", "method", "path"]

def CommandForm.help (form : CommandForm) : Console := .exitWith (form.usage ++ form.details)

def CommandForm.refuse (form : CommandForm) (message : String) : Console :=
  .fail 2 (form.usage ++ form.prog ++ ": error: " ++ message ++ "\n")

/-! ## The signs of arguments -/

/-- What an argument is, by its look. -/
inductive Sign
  | positional
  | help
  /-- The option for help with a value, which it does not take. -/
  | helpWith (value : String)
  | unknown
  deriving DecidableEq, Repr

/-- The two spellings of the option. -/
def shortHelp : List Char := ['-', 'h']

def longHelp : List Char := "--help".toList

/-- A negative number: a dash and digits, perhaps with a point before the last of them. A line end
may follow. -/
def isNegativeNumber : List Char → Bool
  | '-' :: rest =>
    let body := if rest.getLast? == some '\n' then rest.dropLast else rest
    let whole := body.takeWhile isDigit
    match body.dropWhile isDigit with
    | [] => !whole.isEmpty
    | '.' :: fraction => !fraction.isEmpty && fraction.all isDigit
    | _ => false
  | _ => false
where
  isDigit (c : Char) : Bool := (Text.digitValue? c.toNat).isSome

/-- The sign of short options written together, the first of which asks for help: `value` is what
follows it. All of them must ask for help. -/
def shortSign (value : List Char) : Sign :=
  match value with
  | ['h'] => .help
  | 'h' :: rest => shortSign rest
  | _ => .helpWith (String.ofList value)

/-- The sign of an argument other than a divider. The long spelling may be shortened. -/
def signOf (argument : String) : Sign :=
  let chars := argument.toList
  let name := chars.takeWhile (· != '=')
  let value := (chars.dropWhile (· != '=')).drop 1
  let hasValue := chars.contains '='
  if chars.head? != some '-' then .positional
  else if chars == shortHelp || chars == longHelp then .help
  else if chars.length == 1 then .positional
  else if hasValue && name == shortHelp then shortSign value
  else if "--".toList.isPrefixOf chars && name.isPrefixOf longHelp then
    if hasValue then .helpWith (String.ofList value) else .help
  else if shortHelp.isPrefixOf chars then shortSign (chars.drop 2)
  else if isNegativeNumber chars || chars.contains ' ' then .positional
  else .unknown

/-- The divider after which all arguments are positional. -/
def divider : String := "--"

/-! ## Reading arguments -/

/-- How reading ends when it does not end with a command. -/
inductive Ending
  | console (console : Console)
  /-- A divider stands where a positional argument is expected. -/
  | strayDivider
  deriving DecidableEq, Repr

/-- The arguments of a command: those it needs, and those it cannot use. -/
structure Split where
  taken : List String := []
  extras : List String := []
  deriving DecidableEq, Repr

def Split.add (split : Split) (needed : Nat) (argument : String) : Split :=
  if split.taken.length < needed then { split with taken := split.taken ++ [argument] }
  else { split with extras := split.extras ++ [argument] }

/-- Splits the arguments behind a divider. `covered` tells that the divider belongs to the first of
them. -/
def splitBehind (needed : Nat) : (covered : Bool) → Split → List String → Except Ending Split
  | _, split, [] => .ok split
  | covered, split, argument :: rest =>
    if argument == divider && !covered && split.taken.length < needed then .error .strayDivider
    else splitBehind needed false (split.add needed argument) rest

/-- Splits the arguments of a command. `adjacent` tells that the argument just before was taken; a
divider then belongs to it. -/
def split (form : CommandForm) : (adjacent : Bool) → Split → List String → Except Ending Split
  | _, before, [] => .ok before
  | adjacent, before, argument :: rest =>
    let needed := form.needed.length
    if argument == divider then
      if adjacent then splitBehind needed false before rest
      else if before.taken.length < needed && !rest.isEmpty then splitBehind needed true before rest
      else splitBehind needed false { before with extras := before.extras ++ [argument] } rest
    else match signOf argument with
      | .positional =>
        split form (before.taken.length < needed) (before.add needed argument) rest
      | .help => .error (.console form.help)
      | .helpWith value => .error (.console (refuseValue form value))
      | .unknown => split form false { before with extras := before.extras ++ [argument] } rest
where
  refuseValue (form : CommandForm) (value : String) : Console :=
    form.refuse ("argument -h/--help: ignored explicit argument " ++ Text.quote value)

inductive Command
  | routes (target : String)
  | match (target method path : String)
  deriving DecidableEq, Repr

def refuseExtras (extras : List String) : Ending :=
  .console (mainForm.refuse ("unrecognized arguments: " ++ " ".intercalate extras))

/-- Reads the arguments of a command; `extras` are those before its name that cannot be used. -/
def readCommand (form : CommandForm) (extras arguments : List String) :
    Except Ending (List String) := do
  let split ← split form false {} arguments
  let missing := form.needed.drop split.taken.length
  if !missing.isEmpty then
    throw (.console (form.refuse
      ("the following arguments are required: " ++ ", ".intercalate missing)))
  let extras := extras ++ split.extras
  if !extras.isEmpty then throw (refuseExtras extras)
  return split.taken

def choose (name : String) (extras arguments : List String) : Except Ending Command := do
  if name == "routes" then
    match ← readCommand routesForm extras arguments with
    | [target] => return .routes target
    | _ => throw .strayDivider
  else if name == "match" then
    match ← readCommand matchForm extras arguments with
    | [target, method, path] => return .match target method path
    | _ => throw .strayDivider
  else
    throw (.console (mainForm.refuse
      ("argument command: invalid choice: " ++ Text.quote name ++
        " (choose from 'routes', 'match')")))

/-- Reads the arguments of the main command; `extras` are those that cannot be used so far. -/
def readMain : (extras : List String) → List String → Except Ending Command
  | extras, [] =>
    if extras.isEmpty then .error (.console mainForm.help) else .error (refuseExtras extras)
  | extras, argument :: rest =>
    if argument == divider then
      if rest.isEmpty then .error (refuseExtras (extras ++ [argument]))
      else choose argument extras rest
    else match signOf argument with
      | .positional => choose argument extras rest
      | .help => .error (.console mainForm.help)
      | .helpWith value => .error (.console (split.refuseValue mainForm value))
      | .unknown => readMain (extras ++ [argument]) rest

def read (arguments : List String) : Except Ending Command := readMain [] arguments

end CommandLine

end RequestRouter
