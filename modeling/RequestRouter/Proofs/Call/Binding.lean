import RequestRouter.Call.Binding

/-!
# Arguments that fit

Parameters with different names are called with as many arguments by position as there are parameters
that take them in order, and with one argument by name for each of the others. Then the arguments
fit, whatever the defaults are (`Binding.bind_fitting`): no name is strange or given twice, nothing is
left over, and no parameter is without an argument.
-/

namespace RequestRouter

namespace Binding

variable {formals : Formals}

/-- The names of the parameters that take an argument by position. -/
def namesInOrder (formals : Formals) : List String := (positionals formals).map Formal.name

/-- The names of the parameters that take an argument by name only. -/
def namesOnly (formals : Formals) : List String :=
  (formals.filter (·.passing == .byName)).map Formal.name

/-- Two parameters of one name are one where all names are different. -/
theorem eq_of_name_eq (hdistinct : (formals.map Formal.name).Nodup) {f g : Formal Class Value}
    (hf : f ∈ formals) (hg : g ∈ formals) (hname : f.name = g.name) : f = g := by
  induction formals with
  | nil => cases hf
  | cons first rest ih =>
    obtain ⟨hfirst, hrest⟩ := List.nodup_cons.mp hdistinct
    rcases List.mem_cons.mp hf with rfl | hf' <;> rcases List.mem_cons.mp hg with rfl | hg'
    · rfl
    · rw [hname] at hfirst
      exact absurd (List.mem_map_of_mem hg') hfirst
    · rw [← hname] at hfirst
      exact absurd (List.mem_map_of_mem hf') hfirst
    · exact ih hrest hf' hg'

/-- Arguments that fit: one for each parameter that does not collect any. -/
structure Fits (formals : Formals) (front named : Entries String Value) : Prop where
  distinct : (formals.map Formal.name).Nodup
  inOrder : front.keys = namesInOrder formals
  byName : named.keys = namesOnly formals

namespace Fits

variable {front named : Entries String Value} (h : Fits formals front named)

include h

/-- The parameters that take one argument by position and those that take one by name are different
ones. -/
theorem nodup_keys : (Entries.keys (front ++ named)).Nodup := by
  have hkeys : Entries.keys (front ++ named) = namesInOrder formals ++ namesOnly formals := by
    rw [← h.inOrder, ← h.byName, Entries.keys, List.map_append]
    rfl
  rw [hkeys, List.nodup_append]
  have hsub : ∀ p : Formal Class Value → Bool, ((formals.filter p).map Formal.name).Nodup :=
    fun p => h.distinct.sublist (List.filter_sublist.map _)
  refine ⟨hsub _, hsub _, ?_⟩
  rintro _ hfirst other hsecond rfl
  obtain ⟨f, hf, rfl⟩ := List.mem_map.mp hfirst
  obtain ⟨g, hg, hname⟩ := List.mem_map.mp hsecond
  obtain ⟨hf, hposition⟩ := List.mem_filter.mp hf
  obtain ⟨hg, honly⟩ := List.mem_filter.mp hg
  obtain rfl : g = f := eq_of_name_eq h.distinct hg hf hname
  rw [eq_of_beq honly] at hposition
  cases hposition

theorem byPosition_eq : byPosition formals (front.map Prod.snd) = front := by
  rw [byPosition]
  have hnames : (positionals formals).map (·.name) = front.map Prod.fst := h.inOrder.symm
  rw [hnames]
  exact (List.zip_of_prod rfl rfl).symm

theorem drop_eq : (front.map Prod.snd).drop (positionals formals).length = [] := by
  have hlength := congrArg List.length h.inOrder
  rw [Entries.keys, namesInOrder, List.length_map, List.length_map] at hlength
  apply List.drop_eq_nil_of_le
  rw [List.length_map]
  exact Nat.le_of_eq hlength

/-- By induction on the arguments by name that are left: those before them are bound. -/
theorem byName_eq {all : Entries String Value} {done left : Entries String Value}
    (hnamed : named = done ++ left) :
    Binding.byName formals all (front ++ done) [] left = .ok (front ++ named, []) := by
  induction left generalizing done with
  | nil =>
    rw [hnamed, List.append_nil]
    rfl
  | cons entry rest ih =>
    obtain ⟨name, value⟩ := entry
    have hmem : name ∈ namesOnly formals := by
      rw [← h.byName, hnamed]
      simp [Entries.keys]
    obtain ⟨f, hf, hname⟩ := List.mem_map.mp hmem
    obtain ⟨hf, honly⟩ := List.mem_filter.mp hf
    have htaken : (formals.any fun f => f.passing.takesName && f.name == name) = true := by
      refine List.any_eq_true.mpr ⟨f, hf, ?_⟩
      rw [eq_of_beq honly, hname]
      simp [Passing.takesName]
    have hfresh : name ∉ Entries.keys (front ++ done) := by
      have hnodup := h.nodup_keys
      rw [hnamed, ← List.append_assoc, Entries.keys, List.map_append, List.nodup_append] at hnodup
      intro hdone
      exact hnodup.2.2 name hdone name List.mem_cons_self rfl
    rw [Binding.byName, if_pos htaken, Entries.has_eq_false hfresh]
    rw [Entries.put_of_not_mem hfresh, List.append_assoc]
    exact ih (by rw [hnamed, List.append_assoc]; rfl)

omit h in
theorem unfilled_eq {some : Formals} (hsome : ∀ f ∈ some, f.name ∈ Entries.keys (front ++ named)) :
    unfilled some (front ++ named) = [] := by
  rw [unfilled, List.filter_eq_nil_iff]
  intro f hf
  have hhas := (Entries.has_iff_mem_keys (front ++ named) f.name).mpr (hsome f hf)
  rw [hhas]
  simp

theorem mem_keys_of_position {f : Formal Class Value} (hf : f ∈ positionals formals) :
    f.name ∈ Entries.keys (front ++ named) := by
  rw [Entries.keys, List.map_append]
  apply List.mem_append_left
  have hname : f.name ∈ namesInOrder formals := List.mem_map.mpr ⟨f, hf, rfl⟩
  rwa [← h.inOrder] at hname

theorem mem_keys_of_name {f : Formal Class Value}
    (hf : f ∈ formals.filter (·.passing == .byName)) :
    f.name ∈ Entries.keys (front ++ named) := by
  rw [Entries.keys, List.map_append]
  apply List.mem_append_right
  have hname : f.name ∈ namesOnly formals := List.mem_map.mpr ⟨f, hf, rfl⟩
  rwa [← h.byName] at hname

/-- Arguments that fit are bound. -/
theorem bind_eq (implicit : Nat) :
    bind formals implicit (front.map Prod.snd) named =
      .ok (formals.map fun f => (f.name, valueOf (front ++ named) [] [] f)) := by
  have hnamed : Binding.byName formals named front [] named = .ok (front ++ named, []) := by
    have hempty : Binding.byName formals named (front ++ []) [] named = .ok (front ++ named, []) :=
      h.byName_eq (List.nil_append named).symm
    rwa [List.append_nil] at hempty
  rw [bind, h.drop_eq, h.byPosition_eq, hnamed]
  simp only [Bind.bind, Except.bind]
  rw [unfilled_eq fun f hf => h.mem_keys_of_position hf,
    unfilled_eq fun f hf => h.mem_keys_of_name hf]
  rfl

/-- What is bound for fitting arguments, seen through the names of the parameters. -/
theorem get?_of_mem_formals {f : Formal Class Value} (hf : f ∈ formals) :
    Entries.get? (formals.map fun f => (f.name, valueOf (front ++ named) [] [] f)) f.name =
      some (valueOf (front ++ named) [] [] f) := by
  apply Entries.get?_of_mem
  · rw [Entries.keys, List.map_map]
    exact h.distinct
  · exact List.mem_map.mpr ⟨f, hf, rfl⟩

/-- A parameter that takes one argument gets the one that was given for it. -/
theorem get?_of_mem {name : String} {value : Value} (hmem : (name, value) ∈ front ++ named) :
    Entries.get? (formals.map fun f => (f.name, valueOf (front ++ named) [] [] f)) name =
      some value := by
  have hvalue := Entries.get?_of_mem h.nodup_keys hmem
  have hsingle : ∀ f ∈ formals, f.name = name → f.passing.isVariadic = false →
      Entries.get? (formals.map fun f => (f.name, valueOf (front ++ named) [] [] f)) name =
        some value := by
    rintro f hf rfl hpassing
    rw [h.get?_of_mem_formals hf, valueOf, hvalue]
    cases hcase : f.passing with
    | byPosition | either | byName => rfl
    | restByPosition | restByName =>
      rw [hcase] at hpassing
      cases hpassing
  rcases List.mem_append.mp hmem with hfront | hback
  · have hname : name ∈ namesInOrder formals := by
      rw [← h.inOrder]
      exact List.mem_map.mpr ⟨_, hfront, rfl⟩
    obtain ⟨f, hf, hname⟩ := List.mem_map.mp hname
    obtain ⟨hf, hposition⟩ := List.mem_filter.mp hf
    refine hsingle f hf hname ?_
    cases hcase : f.passing with
    | byPosition | either | byName => rfl
    | restByPosition | restByName =>
      rw [hcase] at hposition
      cases hposition
  · have hname : name ∈ namesOnly formals := by
      rw [← h.byName]
      exact List.mem_map.mpr ⟨_, hback, rfl⟩
    obtain ⟨f, hf, hname⟩ := List.mem_map.mp hname
    obtain ⟨hf, honly⟩ := List.mem_filter.mp hf
    refine hsingle f hf hname ?_
    rw [eq_of_beq honly]
    rfl

end Fits

end Binding

end RequestRouter
