import RequestRouter.Entries

/-!
# Responses

A response is changed by making a new one. `β` is what its body may be.
-/

namespace RequestRouter

structure Response (β : Type) where
  body : β
  status : Int := 200
  contentType : String := "text/plain; charset=utf-8"
  headers : List (String × String) := []
  deriving DecidableEq, Repr, Inhabited

inductive ResponseChange
  | status (status : Int)
  | header (name value : String)
  /-- Several headers; a repeated name keeps its first place and its last value. -/
  | headers (pairs : List (String × String))
  | contentType (contentType : String)
  deriving DecidableEq, Repr

namespace Response

variable {β : Type}

/-- The same response with another status. -/
def withStatus (r : Response β) (status : Int) : Response β := { r with status }

/-- The same response with one more header. -/
def withHeader (r : Response β) (name value : String) : Response β :=
  { r with headers := r.headers ++ [(name, value)] }

/-- The same response with the headers of a table after its own. -/
def withHeaders (r : Response β) (headers : Entries String String) : Response β :=
  { r with headers := r.headers ++ headers }

/-- The same response with another content type. -/
def withContentType (r : Response β) (contentType : String) : Response β := { r with contentType }

def change (r : Response β) : ResponseChange → Response β
  | .status status => r.withStatus status
  | .header name value => r.withHeader name value
  | .headers pairs => r.withHeaders (Entries.ofPairs pairs)
  | .contentType contentType => r.withContentType contentType

/-- Two responses with the same body differ in nothing else. -/
def sameBesidesBody (r s : Response β) : Bool :=
  r.status == s.status && r.contentType == s.contentType && r.headers == s.headers

/-- What changes make of a response one after another, each result with whether it equals the one
before it. -/
def stages (r : Response β) : List ResponseChange → List (Response β × Bool)
  | [] => []
  | change :: rest =>
    let next := r.change change
    (next, next.sameBesidesBody r) :: next.stages rest

end Response

end RequestRouter
