import RequestRouter.Routing.Router

/-!
# Verbs

The request methods that routes are commonly registered for, each with a name of its own.
-/

namespace RequestRouter

/-- A verb of registration. -/
inductive Verb
  | get
  | post
  | put
  | patch
  | delete
  | options
  | head
  | trace
  /-- Every method. -/
  | any
  deriving DecidableEq, Repr

namespace Verb

/-- All verbs. -/
def all : List Verb := [.get, .post, .put, .patch, .delete, .options, .head, .trace, .any]

def word : Verb → String
  | .get => "get"
  | .post => "post"
  | .put => "put"
  | .patch => "patch"
  | .delete => "delete"
  | .options => "options"
  | .head => "head"
  | .trace => "trace"
  | .any => "any"

def ofWord? (word : String) : Option Verb := all.find? (·.word == word)

def methods : Verb → List String
  | .get => ["GET"]
  | .post => ["POST"]
  | .put => ["PUT"]
  | .patch => ["PATCH"]
  | .delete => ["DELETE"]
  | .options => ["OPTIONS"]
  | .head => ["HEAD"]
  | .trace => ["TRACE"]
  | .any => []

end Verb

end RequestRouter
