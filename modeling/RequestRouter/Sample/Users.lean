import RequestRouter.Dispatch.Router
import RequestRouter.Sample.Catalogue

/-!
# An application for users

A small application: users are listed and shown by a controller that is built from a repository,
visitors are greeted, and an asynchronous handler in a group counts the users.
-/

namespace RequestRouter.Users

def app (number : Nat) (name : String) : Class :=
  { number, home := "app", name, qualname := name }

/-- A path value wrapped in a type of its own. -/
def userId : Class := app 40 "UserId"

/-- The table of users. -/
def userRepository : Class := { app 41 "UserRepository" with members := ["name", "all"] }

/-- The handlers for users. -/
def userController : Class := { app 42 "UserController" with members := ["index", "show"] }

/-- The users by number. -/
def users : Entries Int String := [(1, "ada"), (2, "grace"), (7, "linus")]

/-- The names of all users in order. -/
def allNames : List String := (users.map (·.2)).mergeSort fun a b => decide (a ≤ b)

/-- A named value that an object of a class keeps; others have no such attribute. -/
def field (c : Class) (name : String) (v : Value) : Except Fault Value :=
  match v with
  | .object own fields =>
    if own.number == c.number then .ok ((Entries.get? fields name).getD .null)
    else .error (.misuse (.noAttribute v.typeName name))
  | v => .error (.misuse (.noAttribute v.typeName name))

/-- A method is called on the repository; others have no such attribute. -/
def onRepository (method : String) (v : Value) : Except Fault Unit := do
  let _ ← field userRepository method v

def respond (text : String) (status : Int := 200) : Value :=
  .response { body := .text text, status }

def argument (arguments : Entries String Value) (name : String) : Value :=
  (arguments.get? name).getD .null

/-- The number that an object holds, with the name of the user of that number. -/
def userNamed (id : Value) : Except Fault (Value × Value) := do
  let number ← field userId "value" id
  let name : Option String := match number with
    | .int n => users.get? n
    | _ => none
  return (number, name.elim .null .text)

def index (controller : Value) (_ : Entries String Value) : Except Fault Value := do
  onRepository "all" (← field userController "repo" controller)
  return respond (", ".intercalate allNames)

/-- Shows one user. -/
def profile (controller : Value) (arguments : Entries String Value) : Except Fault Value := do
  onRepository "name" (← field userController "repo" controller)
  match ← userNamed (argument arguments "id") with
  | (number, .null) => return respond ("No user " ++ number.plain) 404
  | (_, name) => return respond (name.plain ++ ": " ++ (argument arguments "tab").plain)

def hello (_ : Value) (arguments : Entries String Value) : Except Fault Value :=
  let greeting := (argument arguments "greeting").plain
  .ok (respond (greeting ++ ", " ++ (argument arguments "name").plain ++ "!"))

def stats (_ : Value) (arguments : Entries String Value) : Except Fault Value := do
  onRepository "all" (argument arguments "repo")
  let response : Response Value := { body := .text s!"{allNames.length} users" }
  return .response (response.withHeader "X-Admin" "1")

def formal (name : String) (c : Class) (default : Option Value := none) : Formal Class Value :=
  { name, hint := some (.type c), default }

def textClass : Class := Class.builtin 1 "str"

/-- A function of the application, whose runs are not recorded. -/
def function (number : Nat) (name qualname : String) (formals : List (Formal Class Value))
    (body : Value → Entries String Value → Except Fault Value) (isAsync : Bool := false) :
    Function :=
  { number, name, qualname, isAsync, formals, recorded := false, script := .compute body }

def indexMethod : Function := function 10 "index" "UserController.index" [] index

def showMethod : Function :=
  function 11 "show" "UserController.show"
    [formal "id" userId, formal "tab" textClass (some (.text "profile"))] profile

def helloFunction : Function :=
  function 12 "hello" "hello"
    [formal "name" textClass, formal "greeting" textClass (some (.text "Hello"))] hello

def statsFunction : Function :=
  function 13 "stats" "stats" [formal "repo" userRepository] stats true

def nameMethod : Function :=
  function 14 "name" "UserRepository.name" [formal "user_id" userId] fun _ arguments => do
    return (← userNamed (argument arguments "user_id")).2

/-- The names of all users. -/
def allMethod : Function :=
  function 15 "all" "UserRepository.all" [] fun _ _ => .ok (.list (allNames.map .text))

def bodies : Entries Nat ClassBody :=
  [(userId.number,
      ⟨.taking "UserId" [formal "raw" textClass] (.keeping fun arguments => do
        return [("value", .int (← (argument arguments "raw").toWhole))]), []⟩),
    (userRepository.number, ⟨.taking "UserRepository" [] (.keeping .ok),
      [("name", .method nameMethod), ("all", .method allMethod)]⟩),
    (userController.number,
      ⟨.taking "UserController" [formal "repo" userRepository] (.keeping .ok),
        [("index", .method indexMethod), ("show", .method showMethod)]⟩)]

def reference (text : String) : Target := .callee (.value (.text text))

/-- Starts the application: its services, its controller and its routes. -/
def start : Action Unit := do
  modify fun world => { world with bodies := world.bodies ++ bodies, container := {} }
  let repository ← userRepository.construct [] []
  modify fun world =>
    { world with
      container := world.container.bind (.type userRepository) repository,
      router := .ofConfig {} (some .container) [] }
  registerController userController none
  let _ ← registerRoute (.names ["GET"]) "/users" (reference "UserController@index")
    (some "users.index")
  let _ ← registerRoute (.names ["GET"]) "/users/\x7bid:(\\d+)\x7d/\x7b?tab\x7d"
    (reference "UserController@show") (some "users.show")
  let _ ← registerRoute (.names ["GET"]) "/hello/\x7bname\x7d/\x7b?greeting\x7d"
    (.callee (.function helloFunction)) none
  inGroup "/admin" do
    let _ ← registerRoute (.names ["GET", "HEAD"]) "/stats" (.callee (.function statsFunction)) none

end RequestRouter.Users
