import RequestRouter.Regex.Reader

/-!
# Usable fragments

A fragment can stand in for a placeholder if it is one capturing group that spans it and if it is an
expression by itself. Whether one pair of parentheses spans it is told by counting, where escaped
characters and the members of bracketed classes do not count.
-/

namespace RequestRouter

/-- Where a scan over an expression text stands: outside of classes, after an opening bracket, after
the circumflex behind it, or further inside a class. -/
inductive ScanMode
  | outside
  | opened
  | negated
  | inside
  deriving DecidableEq, Repr

/-- The mode after a member of a class, or after the bracket that ends it. A closing bracket is a
member where it comes first. -/
def ScanMode.afterMember (mode : ScanMode) (c : Char) : ScanMode :=
  match mode with
  | .outside => .outside
  | .opened => if c == '^' then .negated else .inside
  | .negated => .inside
  | .inside => if c == ']' then .outside else .inside

/-- The parenthesis that brings the depth to zero is the last character. -/
def spans : ScanMode → (depth : Nat) → List Char → Bool
  | _, _, [] => false
  | _, _, ['\\'] => false
  | mode, depth, '\\' :: _ :: rest =>
    spans (if mode = .outside then .outside else .inside) depth rest
  | .outside, depth, c :: rest =>
    if c == '[' then spans .opened depth rest
    else if c == '(' then spans .outside (depth + 1) rest
    else if c == ')' then
      if depth == 1 then rest.isEmpty else spans .outside (depth - 1) rest
    else spans .outside depth rest
  | mode, depth, c :: rest => spans (mode.afterMember c) depth rest

/-- One pair of parentheses spans the fragment. -/
def isSingleGroup (fragment : List Char) : Bool :=
  fragment.head? == some '(' && spans .outside 0 fragment

/-- What keeps a fragment from standing in for a placeholder. -/
inductive FragmentProblem
  | notOneGroup
  | notCapturing
  | malformed (error : ReadError)
  deriving DecidableEq, Repr

def FragmentProblem.message : FragmentProblem → String
  | .notOneGroup => "must be a single parenthesized group"
  | .notCapturing => "must be a capturing group"
  | .malformed error => "is not a valid regular expression (" ++ error.message ++ ")"

/-- What keeps a fragment from standing in for a placeholder, if anything. A number or a flag in it
that does not fit is an error of its own. -/
def fragmentProblem (fragment : List Char) : Except ReadError (Option FragmentProblem) :=
  if !isSingleGroup fragment then .ok (some .notOneGroup)
  else if "(?".toList.isPrefixOf fragment && !"(?P<".toList.isPrefixOf fragment then
    .ok (some .notCapturing)
  else match Expression.read fragment with
    | .ok _ => .ok none
    | .error error => if error.isMalformed then .ok (some (.malformed error)) else .error error

end RequestRouter
