import RequestRouter.Proofs.Call.Bound
import RequestRouter.Proofs.Call.Questions
import RequestRouter.Proofs.Value.Unions

/-!
# Slots that take texts as they are

A parameter without a type hint takes the text of a path value as it is, and so does one whose type
hint asks for no class of its own (`TypeHint.Plain`). Filling the slot of such a parameter
(`Slot.TakesText`) asks nothing and cannot fail. `Any` is the exception, alone or made optional: it
is a class that lives among the other forms, and its slot asks for instances that nobody can make
(`Formal.takesText_iff`).
-/

namespace RequestRouter

/-! ## Type hints that ask for no class of their own -/

/-- Type hints that are built from what is always there: the classes that are always there, forms,
and classes with arguments. A union is one of them if it joins several types, whatever they are, or
if what it makes optional is. -/
inductive TypeHint.Plain : TypeHint Class → Prop
  | always {c} : c.home = "builtins" → Plain (.type c)
  | any : Plain (.type .any)
  | none : Plain .none
  | special (form) : Plain (.special form)
  | generic (origin arguments) : Plain (.generic origin arguments)
  | annotated (a) : Plain (.annotated a)
  | several {u a b} : u.Choice a → u.Choice b → a ≠ b → Plain u
  | optional {u} : u.isUnion = true → (∀ a, u.Choice a → Plain a) → Plain u

/-- `Any` is all that a type hint leaves to choose from. -/
def TypeHint.IsAny (a : TypeHint Class) : Prop := ∀ m, a.Choice m ↔ m = .type .any

/-- The type hint of a parameter comes down to `Any`. -/
def Formal.IsAny (f : Formal Class Value) : Prop := ∃ hint, f.hint = some hint ∧ hint.IsAny

theorem classify_eq_any_iff {a : TypeHint Class} : classify a = .named .any ↔ a.IsAny := by
  rw [classify_eq_named_iff]
  exact ⟨fun h => h.2, fun h => ⟨by decide, h⟩⟩

/-- By cases of how the type hint is built: its only choice is no class of its own. -/
theorem TypeHint.Plain.eq_any {a : TypeHint Class} {c : Class} (h : a.Plain)
    (hkind : classify a = .named c) : c = .any := by
  obtain ⟨hhome, honly⟩ := classify_eq_named_iff.mp hkind
  have hself : a.isUnion = false → a ≠ .none → a = .type c := fun hunion hne =>
    (honly a).mp ((choice_self hunion).mpr ⟨rfl, hne⟩)
  induction h with
  | always hc =>
    obtain ⟨⟩ := hself rfl nofun
    exact absurd hc hhome
  | any =>
    obtain ⟨⟩ := hself rfl nofun
    rfl
  | none => exact absurd ((honly _).mpr rfl) not_choice_none
  | special | generic | annotated => cases hself rfl nofun
  | several ha hb hne => exact absurd (((honly _).mp ha).trans ((honly _).mp hb).symm) hne
  | optional _ _ ih =>
    have hc : Choice _ (.type c) := (honly _).mpr rfl
    have hclass : ∀ m, (TypeHint.type c).Choice m ↔ m = .type c := fun m => choice_eq rfl nofun
    exact ih _ hc (classify_eq_named_iff.mpr ⟨hhome, hclass⟩) hclass fun _ _ => rfl

/-! ## Slots that take texts -/

/-- What a slot is given where only path values and its default count. -/
def Slot.given (slot : Slot) (values : Entries String String) : Value :=
  match values.get? slot.name with
  | some raw => .text raw
  | none => slot.default.getD .null

/-- A slot takes texts as they are. Resolving it does nothing, whatever the lookup; so nothing is
asked and nothing fails. A callee that is called with resolved arguments gets the text. -/
structure Slot.TakesText (slot : Slot) : Prop where
  kind : slot.kind = .builtin
  resolve : ∀ lookup values, slot.resolve lookup values = pure (slot.given values)
  bound : ∀ {callee : Callee} {lookup : Option Lookup} {values : Entries String String}
    {world inspected after : World} {formals : List (Formal Class Value)} {slots : List Slot}
    {arguments : Arguments},
    callee.formals.run world = (.ok formals, world) → (formals.map Formal.name).Nodup →
    callee.slots.run world = (.ok slots, inspected) → slot ∈ slots →
    (resolveAll lookup values slots).run inspected = (.ok arguments, after) →
    ∃ bound : Entries String Value, bound.get? slot.name = some (slot.given values) ∧
      ∀ reached, callee.formals.run reached = (.ok formals, reached) →
        (callee.call arguments.positional arguments.named).run reached =
          (callee.proceed bound).run reached

section TakesText

variable {slot : Slot} (hkind : slot.kind = .builtin)

include hkind

theorem Slot.resolve_eq_given (lookup : Option Lookup) (values : Entries String String) :
    slot.resolve lookup values = pure (slot.given values) := by
  obtain ⟨name, kind, default, byName⟩ := slot
  obtain rfl : kind = .builtin := hkind
  rw [resolve, given]
  cases values.get? name with
  | some raw => rfl
  | none => cases lookup <;> cases default <;> rfl

theorem Resolved.eq_given {lookup : Option Lookup} {values : Entries String String}
    {world final : World} {found : List (Slot × Value)}
    (h : Resolved lookup values world found final) {value : Value}
    (hmem : (slot, value) ∈ found) : value = slot.given values := by
  induction h with
  | nil => cases hmem
  | cons hresolve _ ih =>
    rcases List.mem_cons.mp hmem with heq | hmem
    · cases heq
      rw [Slot.resolve_eq_given hkind] at hresolve
      cases hresolve
      rfl
    · exact ih hmem

theorem Slot.takesText_of_kind : slot.TakesText where
  kind := hkind
  resolve := Slot.resolve_eq_given hkind
  bound := by
    intro callee lookup values world inspected after formals slots arguments hformals hnames hslots
      hslot hresolve
    obtain ⟨others, hothers, hslotsOf⟩ := Callee.formals_of_slots hslots
    obtain rfl : others = formals := by
      rw [hformals] at hothers
      cases hothers
      rfl
    obtain ⟨found, hfound, hfirst, rfl, hfits⟩ :=
      resolved_of_resolveAll (mirrors_of_slotsOf hslotsOf) hnames hresolve
    obtain ⟨bound, hbinds, hbind⟩ := exists_binds hfits
    rw [← hfirst, List.mem_map] at hslot
    obtain ⟨⟨_, value⟩, hmem, rfl⟩ := hslot
    refine ⟨bound, ?_, fun reached hreached => Callee.run_call hbind hreached⟩
    rw [hbinds.found _ _ hmem, hfound.eq_given hkind hmem]

end TakesText

/-! ## Slots that ask for `Any` -/

/-- A slot asks for instances of `Any`. Where that class cannot be called, no path value will do;
and a service that is found cannot be told to be an instance, so it will not do either. -/
structure Slot.AsksForAny (slot : Slot) : Prop where
  kind : slot.kind = .named .any
  refused : ∀ {lookup : Option Lookup} {values : Entries String String} {raw : String}
    {world : World}, values.get? slot.name = some raw →
    (world.bodyOf .any).constructor = .refused .anyInstance →
    (slot.resolve lookup values).run world =
      (.error (.conversion slot.name .any raw (some (.plain .type))), world)
  untested : ∀ {asked : Lookup} {values : Entries String String} {key : String} {value : Value}
    {world between after : World}, values.get? slot.name = none →
    (asked.keyFor slot.name .any).run world = (.ok (some key), between) →
    (asked.get key).run between = (.ok value, after) →
    (slot.resolve (some asked) values).run world = (.error (.misuse .anyTest), after)

theorem Class.run_construct_refused {c : Class} {reason : Misuse} {world : World}
    (h : (world.bodyOf c).constructor = .refused reason) (values : List Value)
    (named : Entries String Value) :
    (c.construct values named).run world = (.error (.misuse reason), world) := by
  rw [construct, Action.run_bind_ok (Action.run_bodyOf c), h]
  rfl

theorem Slot.asksForAny_of_kind {slot : Slot} (hkind : slot.kind = .named .any) :
    slot.AsksForAny where
  kind := hkind
  refused := by
    intro lookup values raw world hvalue hrefused
    rw [resolve, hvalue, hkind]
    simp only
    rw [run_convert, Class.run_construct_refused hrefused]
    rfl
  untested := by
    intro asked values key value world between after hvalue hkey hget
    have hservice :
        (asked.service slot.name .any).run world = (.error (.misuse .anyTest), after) := by
      rw [Lookup.service, Action.run_bind_ok hkey]
      simp only
      rw [Action.run_bind_ok hget]
      rfl
    rw [resolve, hvalue]
    simp only
    rw [fallback_eq, hkind]
    exact Action.run_bind_error hservice

/-- A parameter without a type hint, or with one that asks for no class of its own, takes texts as
they are if and only if its type hint does not come down to `Any`. If it does, then its slot asks
for instances of that class. -/
theorem Formal.takesText_iff {f : Formal Class Value}
    (hplain : ∀ hint, f.hint = some hint → hint.Plain) :
    ((Slot.ofFormal f).TakesText ↔ ¬ f.IsAny) ∧ (f.IsAny → (Slot.ofFormal f).AsksForAny) := by
  have hany : f.IsAny → (Slot.ofFormal f).kind = .named .any := by
    rintro ⟨hint, hhint, hisAny⟩
    show Kind.ofHint f.hint = _
    rw [hhint]
    exact classify_eq_any_iff.mpr hisAny
  refine ⟨⟨fun htakes hisAny => ?_, fun hnot => Slot.takesText_of_kind ?_⟩,
    fun hisAny => Slot.asksForAny_of_kind (hany hisAny)⟩
  · have hkind := htakes.kind
    rw [hany hisAny] at hkind
    cases hkind
  · show Kind.ofHint f.hint = _
    cases hhint : f.hint with
    | none => rfl
    | some hint =>
      cases hkind : classify hint with
      | builtin => exact hkind
      | named c =>
        rw [(hplain hint hhint).eq_any hkind] at hkind
        exact absurd ⟨hint, hhint, classify_eq_any_iff.mp hkind⟩ hnot

/-- A parameter for a list that may be missing. -/
def Formal.tags : Formal Class Value :=
  { name := "tags", hint := some (.optional (.generic "list" [.type Catalogue.userId])) }

/-- A parameter for anything that may be missing. -/
def Formal.extra : Formal Class Value := { name := "extra", hint := some (.optional (.type .any)) }

/-- A lookup that has a service under the name of a parameter does not matter for a list, and a path
value does not help where `Any` is asked for. -/
theorem Formal.takesText_iff_optional :
    (∀ hint, Formal.tags.hint = some hint → hint.Plain) ∧
    (Slot.ofFormal .tags).resolve (some (Lookup.table [("tags", .int 1)]).recorded)
      [("tags", "a")] = pure (.text "a") ∧
    (∀ hint, Formal.extra.hint = some hint → hint.Plain) ∧
    ((Slot.ofFormal .extra).resolve none [("extra", "a")]).run Catalogue.world =
      (.error (.conversion "extra" .any "a" (some (.plain .type))), Catalogue.world) := by
  have htags : ∀ a, (TypeHint.generic "list" [.type Catalogue.userId]).optional.Choice a ↔
      a = .generic "list" [.type Catalogue.userId] := fun a =>
    TypeHint.choice_optional.trans (TypeHint.choice_eq rfl nofun)
  have hextra : ∀ a, (TypeHint.type Class.any).optional.Choice a ↔ a = .type .any := fun a =>
    TypeHint.choice_optional.trans (TypeHint.choice_eq rfl nofun)
  have hplain : ∀ hint, Formal.tags.hint = some hint → hint.Plain := by
    rintro _ ⟨⟩
    refine .optional rfl fun a ha => ?_
    rw [(htags a).mp ha]
    exact .generic _ _
  have hplain' : ∀ hint, Formal.extra.hint = some hint → hint.Plain := by
    rintro _ ⟨⟩
    refine .optional rfl fun a ha => ?_
    rw [(hextra a).mp ha]
    exact .any
  refine ⟨hplain, ?_, hplain', ?_⟩
  · have hnot : ¬ Formal.tags.IsAny := by
      rintro ⟨_, ⟨⟩, hisAny⟩
      cases (htags _).mp ((hisAny _).mpr rfl)
    exact ((Formal.takesText_iff hplain).1.mpr hnot).resolve _ _
  · exact ((Formal.takesText_iff hplain').2 ⟨_, rfl, hextra⟩).refused rfl rfl

end RequestRouter
