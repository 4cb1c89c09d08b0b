import RequestRouter.Proofs.Call.Invocations

/-!
# The questions behind an argument

A slot without a path value asks its lookup for a service: first under the name of the slot and only
then under the key of its class, and a service is fetched right after the lookup has said that it is
there (`Lookup.Search`). What is fetched is used if it fits; there is no second search for what does
not (`Slot.resolve_search`).
-/

namespace RequestRouter

/-- The questions to lookups so far. -/
def World.queries (world : World) : List Query := world.trace.filterMap Event.query?

/-- A value, or the default of a slot in place of none. -/
def Slot.orDefault (slot : Slot) : Value → Value
  | .null => slot.default.getD .null
  | value => value

namespace Lookup

section Search

variable {asked : Lookup} {name key : String} {world after : World} {queries : List Query}
  {found : Except Fault (Option (String × Value))}

end Search

/-! ## Services by searching -/

variable {asked : Lookup} {slot : Slot} {target : Class} {key : String}
  {world between after : World}

end Lookup

/-! ## Arguments -/

section Arguments

variable {slot : Slot} {target : Class} {world after : World}

theorem run_convert (name : String) (target : Class) (raw : String) :
    (convert name target raw).run world =
      (((target.construct [.text raw] []).run world).1.mapError (conversionOf name target raw),
        ((target.construct [.text raw] []).run world).2) := by
  rw [convert, Action.run_tryCatch]
  cases (target.construct [.text raw] []).run world with
  | mk made after =>
  cases made with
  | ok value => rfl
  | error raised =>
    change _ = (Except.error (conversionOf name target raw raised), after)
    dsimp only [conversionOf]
    split <;> rfl

/-- The default of a slot stands in for null, wherever that comes from. -/
theorem fallback_eq (slot : Slot) (lookup : Option Lookup) : slot.fallback lookup = (do
    let value ← match lookup, slot.kind with
      | some asked, .named target => asked.service slot.name target
      | _, _ => pure .null
    return slot.orDefault value) := by
  obtain ⟨name, kind, default, byName⟩ := slot
  cases lookup with
  | none => cases default <;> rfl
  | some asked =>
    cases kind with
    | builtin => cases default <;> rfl
    | named target =>
      refine bind_congr fun value => ?_
      cases value <;> cases default <;> rfl

end Arguments

/-! ## A service of the wrong class -/

end RequestRouter
