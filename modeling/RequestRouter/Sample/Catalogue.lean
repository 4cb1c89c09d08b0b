import RequestRouter.Fault.Stated
import RequestRouter.Text.Lowercase
import RequestRouter.Value.Numeric
import RequestRouter.World.Basic

/-!
# A catalogue of classes

The classes of a small shop: values that paths are made into, services with and without contracts,
and a page that can be returned as a response. Their instances are counted.
-/

namespace RequestRouter.Catalogue

def shop (number : Nat) (name : String) : Class :=
  { number, home := "shop", name, qualname := name }

/-- Wraps the number of a user. -/
def userId : Class := shop 20 "UserId"

/-- Wraps a text in small letters. -/
def slug : Class := shop 21 "Slug"

/-- Refuses texts by how they begin. -/
def picky : Class := shop 22 "Picky"

/-- Is made of nothing. -/
def noArg : Class := shop 23 "NoArg"

/-- Is made of two values. -/
def twoArgs : Class := shop 24 "TwoArgs"

/-- Sends mail. -/
def mailer : Class := shop 25 "Mailer"

/-- A kind of mailer. -/
def fancyMailer : Class := { shop 26 "FancyMailer" with lineage := [25] }

/-- Tells the time. -/
def clock : Class := shop 27 "Clock"

/-- The name of what all notifiers do. -/
def notify : String := "notify"

/-- Meets the contracts of notifiers. -/
def emailNotifier : Class := { shop 28 "EmailNotifier" with members := [notify] }

/-- A contract that cannot be checked. -/
def notifier : Class :=
  { shop 29 "Notifier" with
    nature := .contract false [notify], ofContract := true, members := [notify] }

/-- A contract that can be checked. -/
def checkedNotifier : Class :=
  { shop 30 "CheckedNotifier" with
    nature := .contract true [notify], ofContract := true, members := [notify] }

/-- A class of its own that descends from a contract. -/
def memoryNotifier : Class :=
  { shop 31 "MemoryNotifier" with lineage := [29], ofContract := true, members := [notify] }

def outer : Class := shop 32 "Outer"

def inner : Class := { shop 33 "Inner" with qualname := "Outer.Inner" }

/-- A page, whose instances have what a response must have. -/
def page : Class := { shop 34 "Page" with fields := ["status", "headers", "body"] }

def named : List Class :=
  [userId, slug, picky, noArg, twoArgs, mailer, fancyMailer, clock, emailNotifier, notifier,
    checkedNotifier, memoryNotifier, inner, page]

/-- A parameter without a type hint. -/
def formal (name : String) (default : Option Value := none) : Formal Class Value :=
  { name, default }

def argument (arguments : Entries String Value) (name : String) : Value :=
  (arguments.get? name).getD .null

/-- A counted instance whose state is one of its arguments. -/
def keep (name : String) : Making := .counted fun arguments => .ok (argument arguments name)

/-- The text of a value that must be one, or the fault of using another like a text. -/
def textOr (method : String) : Value → Except Fault String
  | .text s => .ok s
  | v => .error (.misuse (.noAttribute v.typeName method))

/-- The beginnings of texts that are refused, with the kinds of the faults. -/
def refusals : List (String × FaultKind) :=
  [("value", .plain .value), ("type", .plain .type), ("unicode", .plain .unicode),
    ("key", .plain .key), ("lookup", .plain .lookup), ("runtime", .plain .runtime),
    ("conv", .serviceNotFound), ("config", .plain .configuration)]

def pickyState (raw : Value) : Except Fault Value := do
  let text ← textOr "startswith" raw
  match refusals.find? fun refusal => refusal.1.toList.isPrefixOf text.toList with
  | some (_, kind) => .error (.ofArguments kind [raw])
  | none => .ok raw

def slugState (raw : Value) : Except Fault Value := do
  return .text (String.ofList (Text.lower (← textOr "lower" raw).toList))

def taking (c : Class) (formals : List (Formal Class Value)) (making : Making) : Constructor :=
  .taking c.qualname formals making

/-- The constructor of a class whose instances have no state. -/
def blank (c : Class) : Constructor := taking c [] (.counted fun _ => .ok .null)

def silent (number : Nat) (c : Class) : Entries String Attribute :=
  [(notify, .method
    { number, name := notify, qualname := c.qualname ++ "." ++ notify,
      formals := [formal "message"], recorded := false, script := .give .null })]

def bodies : Entries Nat ClassBody :=
  [(userId.number, ⟨taking userId [formal "raw"] (.counted fun arguments => do
      return .int (← (argument arguments "raw").toWhole)), []⟩),
    (slug.number, ⟨taking slug [formal "raw"] (.counted fun arguments =>
      slugState (argument arguments "raw")), []⟩),
    (picky.number, ⟨taking picky [formal "raw"] (.counted fun arguments =>
      pickyState (argument arguments "raw")), []⟩),
    (noArg.number, ⟨blank noArg, []⟩),
    (twoArgs.number, ⟨taking twoArgs [formal "a", formal "b"] (.counted fun arguments =>
      .ok (.text ((argument arguments "a").plain ++ "/" ++ (argument arguments "b").plain))), []⟩),
    (mailer.number, ⟨taking mailer [formal "sender" (some (.text "noreply"))] (keep "sender"), []⟩),
    (fancyMailer.number,
      ⟨taking mailer [formal "sender" (some (.text "noreply"))] (keep "sender"), []⟩),
    (clock.number, ⟨blank clock, []⟩),
    (emailNotifier.number, ⟨blank emailNotifier, silent 1 emailNotifier⟩),
    (notifier.number, ⟨.refused .contractInstance, silent 2 notifier⟩),
    (checkedNotifier.number, ⟨.refused .contractInstance, silent 3 checkedNotifier⟩),
    (memoryNotifier.number, ⟨blank memoryNotifier, silent 4 memoryNotifier⟩),
    (outer.number, ⟨.bare, [("Inner", .value (.type inner))]⟩),
    (inner.number, ⟨taking inner [formal "raw" (some (.text "inner"))] (keep "raw"), []⟩),
    (page.number, ⟨taking page
      [{ name := "slug", hint := some (.text "Slug") },
        { name := "title", hint := some (.type (Class.builtin 1 "str")),
          default := some (.text "untitled") }] (keep "title"), []⟩),
    (Class.any.number, ⟨.refused .anyInstance, []⟩)]

/-- The number of the first function that is free for others. -/
def firstFunction : Nat := 100

/-- A world with the classes of the catalogue and nothing else. -/
def world : World where
  scope := named.map fun c => (c.qualname, c)
  vocabulary := (outer :: named).map fun c => (c.qualname, c)
  bodies := bodies
  nextFunction := firstFunction

end RequestRouter.Catalogue
