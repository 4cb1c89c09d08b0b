import RequestRouter.Entries
import RequestRouter.Message.Response
import RequestRouter.Value.Class

/-!
# Values

The values that handlers return, services supply and parameters default to.
-/

namespace RequestRouter

inductive Value
  | null
  | bool (b : Bool)
  | int (n : Int)
  | text (s : String)
  | bytes (bytes : List UInt8)
  | list (items : List Value)
  /-- A mapping in order of entry. -/
  | pairs (entries : List (String × Value))
  | type (c : Class)
  /-- An instance that is counted, with its serial number and its state. -/
  | instance (c : Class) (serial : Nat) (state : Value)
  /-- An object that keeps named values. -/
  | object (c : Class) (fields : List (String × Value))
  | response (r : Response Value)
  /-- An object with exactly the given attributes. -/
  | shape (attributes : List (String × Value))
  deriving Inhabited

namespace Value

def typeName : Value → String
  | .null => "NoneType"
  | .bool _ => "bool"
  | .int _ => "int"
  | .text _ => "str"
  | .bytes _ => "bytes"
  | .list _ => "list"
  | .pairs _ => "dict"
  | .type c => c.kindName
  | .instance c _ _ => c.name
  | .object c _ => c.name
  | .response _ => "Response"
  | .shape _ => "Shaped"

/-- The name of the class of a value, with the names of the classes around it. -/
def typeQualname : Value → String
  | .instance c _ _ => c.qualname
  | .object c _ => c.qualname
  | v => v.typeName

/-- The attributes that every response has. -/
def responseAttributes : List String := ["body", "status", "content_type", "headers", "text",
  "with_status", "with_header", "with_headers", "with_content_type"]

def hasAttribute (v : Value) (name : String) : Bool :=
  match v with
  | .type c => c.members.contains name
  | .instance c _ _ => c.members.contains name || c.fields.contains name
  | .object c fields => c.members.contains name || (Entries.get? fields name).isSome
  | .response _ => responseAttributes.contains name
  | .shape attributes => (Entries.get? attributes name).isSome
  | _ => false

/-- A value has an attribute that is not null. -/
def offers (v : Value) (name : String) : Bool :=
  match v with
  | .shape attributes =>
    match Entries.get? attributes name with
    | none | some .null => false
    | some _ => true
  | v => v.hasAttribute name

/-- The class that a value is an instance of, if it has one of its own. -/
def class? : Value → Option Class
  | .instance c _ _ => some c
  | .object c _ => some c
  | _ => none

/-- A value is an instance of a class; `none` if the class admits no such question. -/
def isInstance (v : Value) (c : Class) : Option Bool :=
  match c.nature with
  | .anything => none
  | .contract false _ => none
  | .contract true required => some (required.all v.offers)
  | .ordinary =>
    some (v.class?.any fun own => own.number == c.number || own.lineage.contains c.number)

/-- The number that a value counts as, truth values being one and nought. -/
def number? : Value → Option Int
  | .bool b => some (if b then 1 else 0)
  | .int n => some n
  | _ => none

mutual

/-- Two values are equal. Instances are equal to themselves only, which their serial numbers tell;
objects and shapes are taken to be made apart. -/
def equals : Value → Value → Bool
  | .null, .null => true
  | .text s, .text t => s == t
  | .bytes as, .bytes bs => as == bs
  | .list as, .list bs => allEqual as bs
  | .pairs as, .pairs bs => sameEntries as bs
  | .type c, .type d => c.number == d.number
  | .instance _ m _, .instance _ n _ => m == n
  | .response r, .response s => r.sameBesidesBody s && equals r.body s.body
  | v, w => v.number?.isSome && v.number? == w.number?

def allEqual : List Value → List Value → Bool
  | [], [] => true
  | v :: vs, w :: ws => equals v w && allEqual vs ws
  | _, _ => false

def sameEntries : List (String × Value) → List (String × Value) → Bool
  | [], [] => true
  | (k, v) :: vs, (l, w) :: ws => k == l && equals v w && sameEntries vs ws
  | _, _ => false

end

/-- A value can be returned as a response: it has a status, headers and a body. -/
def supportsResponse (v : Value) : Bool := ["status", "headers", "body"].all v.hasAttribute

end Value

end RequestRouter
