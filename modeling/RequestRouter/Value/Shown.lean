import RequestRouter.Text.Quoted
import RequestRouter.Value.Basic

/-!
# Values inside messages

`shown` is the form that tells a text from a number; `plain` is the same but for a text, which
stands for itself.
-/

namespace RequestRouter.Value

def quoteByte (delimiter : Char) (b : UInt8) : List Char :=
  let c := Char.ofNat b.toNat
  if c == delimiter || c == '\\' then ['\\', c]
  else if c == '\n' then ['\\', 'n']
  else if c == '\r' then ['\\', 'r']
  else if c == '\t' then ['\\', 't']
  else if 32 ≤ b && b ≤ 126 then [c]
  else '\\' :: 'x' :: Text.hexDigits 2 b.toNat

def quoteBytes (bytes : List UInt8) : String :=
  let delimiter := Text.delimiterOf (bytes.map fun b => Char.ofNat b.toNat)
  String.ofList ('b' :: delimiter :: bytes.flatMap (quoteByte delimiter) ++ [delimiter])

mutual

/-- A value as it is shown inside a message. -/
def shown : Value → String
  | .null => "None"
  | .bool b => if b then "True" else "False"
  | .int n => toString n
  | .text s => Text.quote s
  | .bytes bs => quoteBytes bs
  | .list items => "[" ++ ", ".intercalate (shownAll items) ++ "]"
  | .pairs entries => "\x7b" ++ ", ".intercalate (shownEntries entries) ++ "\x7d"
  | .type c => "<class '" ++ c.key ++ "'>"
  | .instance c _ _ => "<" ++ c.key ++ " object>"
  | .object c _ => "<" ++ c.key ++ " object>"
  | .response _ => "<Response object>"
  | .shape _ => "<Shaped object>"

def shownAll : List Value → List String
  | [] => []
  | v :: rest => shown v :: shownAll rest

def shownEntries : List (String × Value) → List String
  | [] => []
  | (key, v) :: rest => (Text.quote key ++ ": " ++ shown v) :: shownEntries rest

end

/-- A value as the text of a message. -/
def plain : Value → String
  | .text s => s
  | v => v.shown

/-- Several values in parentheses; a single one is followed by a comma. -/
def shownTuple (items : List Value) : String :=
  match items with
  | [v] => "(" ++ v.shown ++ ",)"
  | items => "(" ++ ", ".intercalate (shownAll items) ++ ")"

end RequestRouter.Value
