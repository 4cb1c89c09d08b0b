/-!
# Closed ranges of code points

A class of characters is an ascending list of closed ranges `(first, last)`. Membership walks the
list and stops at the first range that starts beyond the code, so a question about a small code
looks at few ranges.
-/

namespace RequestRouter.Text

/-- Ascending closed ranges of code points. -/
abbrev Spans := List (Nat × Nat)

def Spans.has : Spans → Nat → Bool
  | [], _ => false
  | (first, last) :: rest, code =>
    if code < first then false else if code ≤ last then true else Spans.has rest code

end RequestRouter.Text
