import RequestRouter.Text.Utf8
import RequestRouter.Value.Basic

/-!
# Bodies of responses as text
-/

namespace RequestRouter.Value

/-- The text of a body: bytes are decoded, and what is no byte string is taken as it is. -/
def bodyText : Value → Value
  | .bytes bs => .text (String.ofList (Text.decodeUtf8 bs))
  | body => body

end RequestRouter.Value
