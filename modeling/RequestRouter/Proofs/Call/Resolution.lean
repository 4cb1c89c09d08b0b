import RequestRouter.Proofs.Call.Binding
import RequestRouter.Proofs.World.Runs
import RequestRouter.Argument.Prepare

/-!
# What resolving the slots of a signature gives

The slots of a signature are its parameters that take one argument, in order (`Mirrors`). They are
resolved one after another, each in the world that the one before has left (`Resolved`), and each
value goes to the slot that it was found for: by position if the slot is not filled by name.
-/

namespace RequestRouter

/-! ## Slots of signatures -/

/-- Slots stand for the parameters of a signature that take one argument, in order. -/
def Mirrors (slots : List Slot) (formals : List (Formal Class Value)) : Prop :=
  slots.map (fun slot => (slot.name, slot.byName, slot.default)) =
    (formals.filter (!·.passing.isVariadic)).map fun f => (f.name, f.passing == .byName, f.default)

/-- Evaluating the hint of a parameter changes nothing else of it. -/
theorem Formal.evaluate_eq_ok {f evaluated : Formal Class Value} {names after : Hint.Names}
    {world final : World}
    (h : (f.evaluate.run names).run world = (.ok (evaluated, after), final)) :
    evaluated.name = f.name ∧ evaluated.default = f.default ∧ evaluated.passing = f.passing := by
  unfold Formal.evaluate at h
  split at h
  · obtain ⟨⟨hint, between⟩, _, -, hreturn⟩ := Action.run_bind_eq_ok h
    cases hreturn
    exact ⟨rfl, rfl, rfl⟩
  · cases h
    exact ⟨rfl, rfl, rfl⟩

theorem mirrors_of_evaluate {formals evaluated : List (Formal Class Value)}
    {names after : Hint.Names} {world final : World}
    (h : ((formals.mapM Formal.evaluate).run names).run world = (.ok (evaluated, after), final)) :
    Mirrors (Slot.ofFormals evaluated) formals := by
  induction formals generalizing evaluated names world with
  | nil =>
    cases h
    rfl
  | cons f rest ih =>
    rw [List.mapM_cons] at h
    obtain ⟨⟨first, between⟩, reached, hfirst, h⟩ := Action.run_bind_eq_ok h
    obtain ⟨⟨others, last⟩, _, hothers, h⟩ := Action.run_bind_eq_ok h
    cases h
    obtain ⟨hname, hdefault, hpassing⟩ := Formal.evaluate_eq_ok hfirst
    have hrest := ih hothers
    unfold Mirrors Slot.ofFormals at hrest ⊢
    rw [List.filter_cons, List.filter_cons, hpassing]
    split
    · rw [List.map_cons, List.map_cons, List.map_cons, hrest]
      simp only [Slot.ofFormal, hname, hdefault, hpassing]
    · exact hrest

theorem mirrors_of_slotsOf {formals : List (Formal Class Value)} {slots : List Slot}
    {world final : World} (h : (slotsOf formals).run world = (.ok slots, final)) :
    Mirrors slots formals := by
  obtain ⟨⟨evaluated, after⟩, _, hevaluated, hreturn⟩ := Action.run_bind_eq_ok h
  cases hreturn
  exact mirrors_of_evaluate hevaluated

namespace Mirrors

variable {slots : List Slot} {formals : List (Formal Class Value)} (h : Mirrors slots formals)

include h

theorem names_eq : slots.map Slot.name =
    (formals.filter (!·.passing.isVariadic)).map Formal.name := by
  have hnames := congrArg (List.map Prod.fst) h
  rw [List.map_map, List.map_map] at hnames
  exact hnames

/-- Of the slots and of the parameters, those that are filled in one of the two ways. -/
theorem names_filter (way : Bool) : (slots.filter (·.byName == way)).map Slot.name =
    ((formals.filter (!·.passing.isVariadic)).filter
      fun f => (f.passing == .byName) == way).map Formal.name := by
  have hways := congrArg (fun row => (row.filter fun entry => entry.2.1 == way).map Prod.fst) h
  simp only [List.filter_map, List.map_map] at hways
  exact hways

theorem names_positional :
    (slots.filter (·.byName == false)).map Slot.name = Binding.namesInOrder formals := by
  rw [h.names_filter, List.filter_filter, Binding.namesInOrder, Binding.positionals]
  congr 1
  apply List.filter_congr
  intro f _
  cases f.passing <;> rfl

theorem names_named :
    (slots.filter (·.byName == true)).map Slot.name = Binding.namesOnly formals := by
  rw [h.names_filter, List.filter_filter, Binding.namesOnly]
  congr 1
  apply List.filter_congr
  intro f _
  cases f.passing <;> rfl

end Mirrors

/-! ## Resolving slots -/

/-- Slots were resolved one after another, each to the value beside it. -/
inductive Resolved (lookup : Option Lookup) (values : Entries String String) :
    World → List (Slot × Value) → World → Prop
  | nil {world : World} : Resolved lookup values world [] world
  | cons {world between final : World} {slot : Slot} {value : Value}
      {rest : List (Slot × Value)} :
      (slot.resolve lookup values).run world = (.ok value, between) →
      Resolved lookup values between rest final →
      Resolved lookup values world ((slot, value) :: rest) final

/-- The values found for slots that are filled in one of the two ways, under the names of the
slots. -/
def foundFor (way : Bool) (found : List (Slot × Value)) : Entries String Value :=
  (found.filter (·.1.byName == way)).map fun entry => (entry.1.name, entry.2)

theorem keys_foundFor (way : Bool) (found : List (Slot × Value)) :
    (foundFor way found).keys =
      ((found.map Prod.fst).filter (·.byName == way)).map Slot.name := by
  rw [foundFor, Entries.keys, List.map_map, List.filter_map, List.map_map]
  rfl

theorem mem_foundFor {found : List (Slot × Value)} {slot : Slot} {value : Value}
    (h : (slot, value) ∈ found) :
    (slot.name, value) ∈ foundFor false found ++ foundFor true found := by
  have hmem : (slot.name, value) ∈ foundFor slot.byName found :=
    List.mem_map.mpr ⟨_, List.mem_filter.mpr ⟨h, beq_self_eq_true _⟩, rfl⟩
  cases hway : slot.byName with
  | false =>
    rw [hway] at hmem
    exact List.mem_append_left _ hmem
  | true =>
    rw [hway] at hmem
    exact List.mem_append_right _ hmem

section Resolution

variable {lookup : Option Lookup} {values : Entries String String} {world final : World}

/-- By induction on the slots. The names of those that are filled by name are new each time, so that
their values come behind the others. -/
theorem resolved_of_resolveFrom {slots : List Slot} {arguments given : Arguments}
    (h : (resolveFrom lookup values given slots).run world = (.ok arguments, final))
    (hnodup : (slots.map Slot.name).Nodup)
    (hfresh : ∀ slot ∈ slots, slot.name ∉ given.named.keys) :
    ∃ found, Resolved lookup values world found final ∧ found.map Prod.fst = slots ∧
      arguments.positional = given.positional ++ (foundFor false found).map Prod.snd ∧
      arguments.named = given.named ++ foundFor true found := by
  induction slots generalizing given world with
  | nil =>
    cases h
    exact ⟨[], .nil, rfl, (List.append_nil _).symm, (List.append_nil _).symm⟩
  | cons slot rest ih =>
    obtain ⟨value, between, hvalue, h⟩ := Action.run_bind_eq_ok h
    obtain ⟨hnew, hnodup⟩ := List.nodup_cons.mp hnodup
    have hslot : slot.name ∉ given.named.keys := hfresh slot List.mem_cons_self
    cases hway : slot.byName with
    | true =>
      rw [hway, if_pos rfl, Entries.put_of_not_mem hslot] at h
      have hfresh' : ∀ other ∈ rest,
          other.name ∉ Entries.keys (given.named ++ [(slot.name, value)]) := by
        intro other hother
        rw [Entries.keys, List.map_append, List.mem_append, not_or]
        refine ⟨hfresh other (List.mem_cons_of_mem _ hother), ?_⟩
        intro hmem
        obtain heq := List.mem_singleton.mp hmem
        exact hnew (List.mem_map.mpr ⟨other, hother, heq⟩)
      obtain ⟨found, hfound, hslots, hpositional, hnamed⟩ := ih h hnodup hfresh'
      refine ⟨(slot, value) :: found, .cons hvalue hfound, ?_, ?_, ?_⟩
      · rw [List.map_cons, hslots]
      · rw [hpositional]
        simp [foundFor, hway]
      · rw [hnamed]
        simp [foundFor, hway]
    | false =>
      rw [hway, if_neg Bool.false_ne_true] at h
      change (resolveFrom lookup values
        { given with positional := given.positional ++ [value] } rest).run between = _ at h
      have hfresh' : ∀ other ∈ rest, other.name ∉ given.named.keys := fun other hother =>
        hfresh other (List.mem_cons_of_mem _ hother)
      obtain ⟨found, hfound, hslots, hpositional, hnamed⟩ := ih h hnodup hfresh'
      refine ⟨(slot, value) :: found, .cons hvalue hfound, ?_, ?_, ?_⟩
      · rw [List.map_cons, hslots]
      · rw [hpositional]
        simp [foundFor, hway]
      · rw [hnamed]
        simp [foundFor, hway]

/-- Resolving the slots of a signature whose parameters have different names gives arguments that
fit it. -/
theorem resolved_of_resolveAll {slots : List Slot} {formals : List (Formal Class Value)}
    {arguments : Arguments} (hmirrors : Mirrors slots formals)
    (hnames : (formals.map Formal.name).Nodup)
    (h : (resolveAll lookup values slots).run world = (.ok arguments, final)) :
    ∃ found, Resolved lookup values world found final ∧ found.map Prod.fst = slots ∧
      arguments = ⟨(foundFor false found).map Prod.snd, foundFor true found⟩ ∧
      Binding.Fits formals (foundFor false found) (foundFor true found) := by
  have hnodup : (slots.map Slot.name).Nodup := by
    rw [hmirrors.names_eq]
    exact hnames.sublist (List.filter_sublist.map _)
  obtain ⟨found, hfound, rfl, hpositional, hnamed⟩ :=
    resolved_of_resolveFrom h hnodup fun _ _ => List.not_mem_nil
  refine ⟨found, hfound, rfl, ?_, ?_⟩
  · obtain ⟨positional, named⟩ := arguments
    cases hpositional
    cases hnamed
    rfl
  · exact
      { distinct := hnames
        inOrder := by rw [keys_foundFor, hmirrors.names_positional]
        byName := by rw [keys_foundFor, hmirrors.names_named] }

end Resolution

end RequestRouter
