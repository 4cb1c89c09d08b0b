import RequestRouter.Fault.Basic

/-!
# Values read as whole numbers
-/

namespace RequestRouter.Value

/-- The whole number that a text, a byte string or a number stands for. -/
def toWhole : Value → Except Fault Int
  | .text s =>
    match Text.readInt s.toList with
    | .ok n => .ok n
    | .error fault => .error (.numeral s fault)
  | .bytes bs =>
    let text := bs.map fun b => if b < 128 then Char.ofNat b.toNat else '?'
    match Text.readInt text with
    | .ok n => .ok n
    | .error fault => .error (.stated .value [.text (fault.message (quoteBytes bs))])
  | v =>
    match v.number? with
    | some n => .ok n
    | none => .error (.misuse (.notNumeric v.typeName))

end RequestRouter.Value
