import RequestRouter.Value.Class

/-!
# Type hints of parameters

A type hint is a class, or is built from type hints. `κ` is how classes are given: by name while
a description is written, as classes once the names are resolved. `classify` tells the one kind of
parameter that is built from its text and looked up as a service, one annotated with a class of its
own, from all others.
-/

namespace RequestRouter

/-- Type hints that are neither classes nor built from them. -/
inductive Special
  | literal
  | callable
  | bareCallable
  | classVar
  | newType
  | typeVar
  deriving DecidableEq, Repr

/-- Type hints over classes given as `κ`. -/
inductive TypeHint (κ : Type)
  | type (c : κ)
  | none
  | union (members : List (TypeHint κ))
  /-- A union that is written with bars between its members, from left to right. -/
  | bars (members : List (TypeHint κ))
  | generic (origin : String) (arguments : List (TypeHint κ))
  | annotated (of : TypeHint κ)
  /-- A type hint given as text, which is evaluated when a signature is read. -/
  | text (s : String)
  | special (form : Special)
  deriving Inhabited

namespace TypeHint

variable {κ : Type}

def optional (a : TypeHint κ) : TypeHint κ := .union [a, .none]

mutual

/-- Two type hints are written alike. -/
def same [BEq κ] : TypeHint κ → TypeHint κ → Bool
  | .type c, .type d => c == d
  | .none, .none => true
  | .union as, .union bs => sameAll as bs
  | .bars as, .bars bs => sameAll as bs
  | .generic f as, .generic g bs => f == g && sameAll as bs
  | .annotated a, .annotated b => same a b
  | .text s, .text t => s == t
  | .special f, .special g => f == g
  | _, _ => false

def sameAll [BEq κ] : List (TypeHint κ) → List (TypeHint κ) → Bool
  | [], [] => true
  | a :: as, b :: bs => same a b && sameAll as bs
  | _, _ => false

end

mutual

/-- The members of a union, unions inside it being dissolved; another type hint is its own only
member. -/
def members : TypeHint κ → List (TypeHint κ)
  | .union as | .bars as => membersAll as
  | a => [a]

def membersAll : List (TypeHint κ) → List (TypeHint κ)
  | [] => []
  | a :: as => members a ++ membersAll as

end

/-- Type hints without repetitions, the first of equal ones kept. -/
def distinct [BEq κ] : List (TypeHint κ) → List (TypeHint κ)
  | [] => []
  | a :: as => a :: (distinct as).filter fun b => !same a b

def isNone : TypeHint κ → Bool
  | .none => true
  | _ => false

mutual

/-- The type hint with its classes given in another way, if all of them can be. -/
def resolve? {ι : Type} (f : κ → Option ι) : TypeHint κ → Option (TypeHint ι)
  | .type c => (f c).map .type
  | .none => some .none
  | .union as => (resolveAll? f as).map .union
  | .bars as => (resolveAll? f as).map .bars
  | .generic origin as => (resolveAll? f as).map (.generic origin)
  | .annotated a => (resolve? f a).map .annotated
  | .text s => some (.text s)
  | .special form => some (.special form)

def resolveAll? {ι : Type} (f : κ → Option ι) : List (TypeHint κ) → Option (List (TypeHint ι))
  | [] => some []
  | a :: as => do
    let a ← resolve? f a
    let as ← resolveAll? f as
    return a :: as

end

end TypeHint

inductive Kind
  /-- Takes its text as it is. -/
  | builtin
  /-- Is an instance of a class. -/
  | named (c : Class)
  deriving DecidableEq, Repr

/-- The kind that a type hint other than a union gives. -/
def Kind.ofMember : TypeHint Class → Kind
  | .type c => if c.home == "builtins" then .builtin else .named c
  | _ => .builtin

/-- The kind of a parameter with a given type hint. A union counts as its only member other than
nothing, if it has just one. -/
def classify (hint : TypeHint Class) : Kind :=
  match hint with
  | .union _ | .bars _ =>
    match (TypeHint.distinct hint.members).filter (!·.isNone) with
    | [a] => Kind.ofMember a
    | _ => .builtin
  | a => Kind.ofMember a

end RequestRouter
