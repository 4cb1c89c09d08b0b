import RequestRouter.Regex.Reader
import RequestRouter.Regex.Search

/-!
# Parameters and placeholders in a route pattern

A parameter of a route pattern has a name and a fragment, an expression text that its value must
match as a whole.

A placeholder is written in braces: an optional question mark, a name of word characters, and
optionally a colon and a fragment in parentheses. The pieces that match this shape are found from
left to right; everything between them is literal text.
-/

namespace RequestRouter

/-! ## Path parameters -/

/-- The fragment of placeholders that give none: some characters other than the slash, as few as
possible. -/
def defaultFragment : List Char := "([^/]+?)".toList

/-- A named path parameter declared by a route pattern. -/
structure Parameter where
  name : List Char
  fragment : List Char
  optional : Bool
  deriving DecidableEq, Repr

/-- A fragment, read on its own, matches a whole value. -/
def fragmentAccepts (fragment value : List Char) : Except MatchFault Bool :=
  match Expression.read fragment with
  | .error error => .error (.unreadable error)
  | .ok e => e.accepts value

def Parameter.accepts (p : Parameter) (value : List Char) : Except MatchFault Bool :=
  fragmentAccepts p.fragment value

/-! ## The shape of placeholders -/

namespace Placeholder

def literal (c : Char) : Regex := .one (.literal .exact false c.toNat)

/-- The shape of a placeholder. -/
def shapeText : List Char := "\\\x7b(\\??)(\\w+?)(?::(\\(.+?\\)))?\\\x7d".toList

/-- The shape of a placeholder, as an expression. -/
def shape : Regex :=
  .seqAll
    [literal '{', .group 1 (.loop .greedy 0 (some 1) (literal '?')),
      .group 2 (.loop .lazy 1 none (.one (.oneOf .exact false [.named .word false false]))),
      .loop .greedy 0 (some 1)
        (.seq (literal ':')
          (.group 3 (.seqAll
            [literal '(', .loop .lazy 1 none (.one (.any false)), literal ')']))),
      literal '}']

/-- The shape of a placeholder without a name. -/
def namelessText : List Char := "\\\x7b\\??(?::[^\x7d]*)?\\\x7d".toList

/-- The shape of a placeholder without a name, as an expression. -/
def nameless : Regex :=
  .seqAll
    [literal '{', .loop .greedy 0 (some 1) (literal '?'),
      .loop .greedy 0 (some 1)
        (.seq (literal ':') (.loop .greedy 0 none (.one (.literal .exact true '}'.toNat)))),
      literal '}']

/-- The shapes are what their texts write. -/
theorem read_shapeText : Expression.read shapeText = .ok ⟨shape, 3, 3⟩ := by rfl

theorem read_namelessText : Expression.read namelessText = .ok ⟨nameless, 0, 2⟩ := by rfl

end Placeholder

/-- A stretch of literal text and the placeholder that ends it. -/
structure Segment where
  literal : List Char
  parameter : Parameter
  deriving DecidableEq, Repr

/-- A pattern cut at its placeholders: literal text with a placeholder after it, any number of
times, and the literal text at the end. -/
structure Cut where
  segments : List Segment
  tail : List Char
  deriving DecidableEq, Repr

namespace Cut

def parameterOf (text : Array Char) (fallback : List Char) (found : Found) : Parameter where
  name := (found.group text 2).getD []
  fragment := (found.group text 3).getD fallback
  optional := found.group text 1 == some ['?']

def segmentsFrom (text : Array Char) (fallback : List Char) :
    (pos : Nat) → List Found → Cut
  | pos, [] => ⟨[], slice text pos text.size⟩
  | pos, found :: rest =>
    let cut := segmentsFrom text fallback found.last rest
    { cut with
      segments := ⟨slice text pos found.first, parameterOf text fallback found⟩ :: cut.segments }

/-- A pattern cut at its placeholders; `fallback` is the fragment of those that give none. -/
def ofPattern (pattern fallback : List Char) : Cut :=
  let text := pattern.toArray
  segmentsFrom text fallback 0 (Placeholder.shape.findAll text)

/-- The parameters, in order of appearance. -/
def parameters (cut : Cut) : List Parameter := cut.segments.map Segment.parameter

/-- The literal text, without the placeholders. -/
def literals (cut : Cut) : List Char := cut.segments.flatMap Segment.literal ++ cut.tail

end Cut

/-- The parameters that a pattern declares, in order of appearance. -/
def parseParameters (pattern fallback : List Char) : List Parameter :=
  (Cut.ofPattern pattern fallback).parameters

end RequestRouter
