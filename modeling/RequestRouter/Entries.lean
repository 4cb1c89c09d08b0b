/-!
# Tables in order of entry

A table is the list of its entries, each key once, in the order in which the keys came in. Writing
to a key that is there keeps its place. A table is seen through `get?` and `keys`; what each change
does to these two is said beside it.
-/

namespace RequestRouter

/-- A table in order of entry. -/
abbrev Entries (κ α : Type) := List (κ × α)

namespace Entries

variable {κ α : Type} [BEq κ]

/-- Writes an entry; a key that is there keeps its place. -/
def put : Entries κ α → κ → α → Entries κ α
  | [], key, value => [(key, value)]
  | (k, v) :: rest, key, value =>
    if k == key then (k, value) :: rest else (k, v) :: put rest key value

/-- The table without a key. -/
def erase (entries : Entries κ α) (key : κ) : Entries κ α :=
  entries.filter fun entry => !(entry.1 == key)

def get? : Entries κ α → κ → Option α
  | [], _ => none
  | (k, v) :: rest, key => if k == key then some v else get? rest key

def has (entries : Entries κ α) (key : κ) : Bool := (get? entries key).isSome

/-- A table from entries, the last one under a key winning. -/
def ofPairs (pairs : List (κ × α)) : Entries κ α :=
  pairs.foldl (fun entries pair => put entries pair.1 pair.2) []

/-- The keys, in the order in which they came in. -/
def keys (entries : Entries κ α) : List κ := entries.map (·.1)

/-! ## Changes seen through `get?` and `keys` -/

theorem get?_append (front back : Entries κ α) (key : κ) :
    get? (front ++ back) key = (get? front key).or (get? back key) := by
  induction front with
  | nil => rfl
  | cons entry rest ih =>
    rw [List.cons_append, get?, get?]
    split
    · rfl
    · exact ih

theorem nodup_keys_erase {entries : Entries κ α} (h : (keys entries).Nodup) (key : κ) :
    (keys (erase entries key)).Nodup :=
  h.sublist (List.filter_sublist.map _)

section Laws

variable [LawfulBEq κ]

/-- A written key has the value that was written. -/
theorem get?_put_self (entries : Entries κ α) (key : κ) (value : α) :
    get? (put entries key value) key = some value := by
  induction entries with
  | nil => simp [put, get?]
  | cons entry rest ih =>
    simp only [put]
    split
    · next h => simp [get?, h]
    · next h => simp [get?, h, ih]

/-- Other keys keep their values. -/
theorem get?_put_of_ne (entries : Entries κ α) {key other : κ} (value : α) (h : key ≠ other) :
    get? (put entries key value) other = get? entries other := by
  induction entries with
  | nil => simp [put, get?, h]
  | cons entry rest ih =>
    simp only [put]
    split
    · next hk =>
      have own : entry.1 = key := eq_of_beq hk
      simp [get?, own, h]
    · next hk => simp [get?, ih]

/-- An erased key is gone. -/
theorem get?_erase_self (entries : Entries κ α) (key : κ) :
    get? (erase entries key) key = none := by
  induction entries with
  | nil => rfl
  | cons entry rest ih =>
    simp only [erase, List.filter_cons]
    split
    · next h =>
      have other : ¬(entry.1 == key) = true := by simpa using h
      simp only [get?, other]
      exact ih
    · exact ih

/-- Erasing a key leaves the others alone. -/
theorem get?_erase_of_ne (entries : Entries κ α) {key other : κ} (h : key ≠ other) :
    get? (erase entries key) other = get? entries other := by
  induction entries with
  | nil => rfl
  | cons entry rest ih =>
    simp only [erase, List.filter_cons]
    split
    · simp only [get?]
      rw [← ih, erase]
    · next hk =>
      have own : entry.1 = key := by simpa using hk
      simp only [get?, own, beq_iff_eq, h, if_false]
      exact ih

/-- There is an entry under the keys that are listed, and under no others. -/
theorem has_iff_mem_keys (entries : Entries κ α) (key : κ) :
    has entries key = true ↔ key ∈ keys entries := by
  induction entries with
  | nil => simp [has, get?, keys]
  | cons entry rest ih =>
    simp only [has, keys, get?, List.map_cons, List.mem_cons] at ih ⊢
    split
    · next hk => simp [eq_of_beq hk]
    · next hk =>
      have other : key ≠ entry.1 := fun same => hk (by simp [same])
      simp [ih, other]

/-- Writing keeps the order of the keys; a key that is new comes last. -/
theorem keys_put (entries : Entries κ α) (key : κ) (value : α) :
    keys (put entries key value) =
      if has entries key then keys entries else keys entries ++ [key] := by
  induction entries with
  | nil => simp [put, keys, has, get?]
  | cons entry rest ih =>
    simp only [put, has, get?]
    split
    · next hk => simp [keys, eq_of_beq hk]
    · next hk =>
      simp only [keys, has, List.map_cons] at ih ⊢
      rw [ih]
      by_cases there : (get? rest key).isSome = true <;> simp [there]

theorem mem_keys_put {entries : Entries κ α} {key other : κ} {value : α} :
    other ∈ keys (put entries key value) ↔ other = key ∨ other ∈ keys entries := by
  rw [keys_put]
  split
  · next hhas =>
    have hmem := (has_iff_mem_keys entries key).mp hhas
    exact ⟨.inr, fun h => h.elim (fun heq => heq ▸ hmem) id⟩
  · rw [List.mem_append, List.mem_singleton]
    exact or_comm

theorem mem_keys_erase {entries : Entries κ α} {key other : κ} :
    other ∈ keys (erase entries key) ↔ other ≠ key ∧ other ∈ keys entries := by
  simp only [keys, erase, List.mem_map, List.mem_filter, Bool.not_eq_true', beq_eq_false_iff_ne]
  constructor
  · rintro ⟨entry, ⟨hentry, hne⟩, rfl⟩
    exact ⟨hne, entry, hentry, rfl⟩
  · rintro ⟨hne, entry, hentry, rfl⟩
    exact ⟨entry, ⟨hentry, hne⟩, rfl⟩

/-- No change brings a key in twice. -/
theorem nodup_keys_put {entries : Entries κ α} (h : (keys entries).Nodup) (key : κ) (value : α) :
    (keys (put entries key value)).Nodup := by
  rw [keys_put]
  split
  · exact h
  · next hhas =>
    rw [List.nodup_append]
    refine ⟨h, List.pairwise_singleton _ key, ?_⟩
    rintro _ hmem other hother rfl
    rw [List.mem_singleton] at hother
    rw [hother] at hmem
    exact hhas ((has_iff_mem_keys entries key).mpr hmem)

/-- With different keys, a table is seen through its entries. -/
theorem get?_of_mem {entries : Entries κ α} (hnodup : entries.keys.Nodup) {key : κ} {value : α}
    (h : (key, value) ∈ entries) : get? entries key = some value := by
  induction entries with
  | nil => cases h
  | cons entry rest ih =>
    rw [keys, List.map_cons, List.nodup_cons] at hnodup
    obtain ⟨hfresh, hrest⟩ := hnodup
    rcases List.mem_cons.mp h with rfl | hmem
    · rw [get?, beq_self_eq_true, if_pos rfl]
    · have hne : (entry.1 == key) = false := by
        rw [beq_eq_false_iff_ne]
        rintro rfl
        exact hfresh (List.mem_map.mpr ⟨_, hmem, rfl⟩)
      rw [get?, hne]
      exact ih hrest hmem

theorem put_of_not_mem {entries : Entries κ α} {key : κ} (h : key ∉ entries.keys) (value : α) :
    put entries key value = entries ++ [(key, value)] := by
  induction entries with
  | nil => rfl
  | cons entry rest ih =>
    rw [keys, List.map_cons, List.mem_cons, not_or] at h
    obtain ⟨hne, hrest⟩ := h
    have hbeq : (entry.1 == key) = false := by
      rw [beq_eq_false_iff_ne]
      exact Ne.symm hne
    rw [put, hbeq]
    exact congrArg (entry :: ·) (ih hrest)

theorem has_eq_false {entries : Entries κ α} {key : κ} (h : key ∉ entries.keys) :
    entries.has key = false := by
  rw [Bool.eq_false_iff]
  intro hhas
  exact h ((has_iff_mem_keys entries key).mp hhas)

end Laws

end Entries

end RequestRouter
