import RequestRouter.Message.Url

/-!
# Requests

Routing reads the method and the path of a request. Headers are found whatever the case of their
names.
-/

namespace RequestRouter

structure Request where
  method : String
  path : String
  query : String := ""
  headers : List (String × String) := []
  deriving DecidableEq, Repr

namespace Request

/-- The request for an address; an empty path stands for the root. -/
def ofUrl (method url : String) (headers : List (String × String)) : Except UrlFault Request := do
  let url ← Url.ofText url
  return { method, path := if url.path.isEmpty then "/" else url.path, query := url.query, headers }

/-- The first header of a name in any case. -/
def header? (request : Request) (name : String) : Option String :=
  (request.headers.find? fun header =>
    Text.lower header.1.toList == Text.lower name.toList).map (·.2)

/-- The first header of a name, or a default. -/
def header (request : Request) (name : String) (default : Option String) : Option String :=
  (request.header? name).or default

end Request

end RequestRouter
