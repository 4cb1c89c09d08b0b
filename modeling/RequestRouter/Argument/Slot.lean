import RequestRouter.Hint.Evaluate

/-!
# Slots

A slot is what a caller has to fill for one parameter: its name, its kind, its default, and whether
it is filled by name. Parameters that collect further arguments have no slot.
-/

namespace RequestRouter

/-- One declared parameter of a handler or a constructor. -/
structure Slot where
  name : String
  kind : Kind := .builtin
  default : Option Value := none
  byName : Bool := false

/-- The kind that a type hint gives, where there is one. -/
def Kind.ofHint : Option (TypeHint Class) → Kind
  | none => .builtin
  | some hint => classify hint

namespace Slot

def ofFormal (f : Formal Class Value) : Slot where
  name := f.name
  kind := Kind.ofHint f.hint
  default := f.default
  byName := f.passing == .byName

/-- The slots of parameters, in order. -/
def ofFormals (formals : List (Formal Class Value)) : List Slot :=
  (formals.filter fun f => !f.passing.isVariadic).map ofFormal

end Slot

/-- A parameter with its text hint evaluated. A text that stands for a text stays one. -/
def Formal.evaluate {δ : Type} (f : Formal Class δ) : Hint.Evaluation (Formal Class δ) := do
  match f.hint with
  | some (.text text) => return { f with hint := some (← Hint.hintOf text) }
  | _ => return f

/-- The slots of parameters. The type hints of all parameters are evaluated, also of those that have
no slot; names that one of them gives to values are known to the next ones. -/
def slotsOf (formals : List (Formal Class Value)) : Action (List Slot) := do
  let (formals, _) ← (formals.mapM Formal.evaluate).run []
  return Slot.ofFormals formals

end RequestRouter
