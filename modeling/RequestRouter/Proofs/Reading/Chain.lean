import RequestRouter.Proofs.Reading.Renumber

/-!
# Parts in a row

The parts of an alternative are read from left to right, and so are the alternatives of a choice. If
the groups of each begin where those of the one before end (`Part.Chain`, `Part.Chains`), so do
those of what the alternatives are joined to (`Part.chain_joined`), although a common beginning of
theirs then stands only once: it is a row of tests and holds no groups.
-/

namespace RequestRouter

namespace Part

/-- A tame part whose groups are numbered from `first + 1` to `last`; an atom is a test. -/
structure Link (possessive : Bool) (first last : Nat) (part : Part) : Prop where
  tame : part.regex.Tame possessive
  numbered : part.regex.Numbered first last
  atom : part.isAtom = true → ∃ test, part.regex = .one test

/-- Parts whose groups are numbered in order. -/
def Chain (possessive : Bool) : (first last : Nat) → List Part → Prop
  | first, last, [] => first = last
  | first, last, part :: rest =>
    ∃ middle, Link possessive first middle part ∧ Chain possessive middle last rest

/-- Alternatives whose groups are numbered in order. -/
def Chains (possessive : Bool) : (first last : Nat) → List (List Part) → Prop
  | first, last, [] => first = last
  | first, last, alternative :: rest =>
    ∃ middle, Chain possessive first middle alternative ∧ Chains possessive middle last rest

variable {possessive : Bool} {first last : Nat}

theorem Link.of_test (test : CharTest) (count : Nat) :
    Link possessive count count (.atom (.one test)) :=
  ⟨trivial, rfl, fun _ => ⟨test, rfl⟩⟩

theorem Link.eq_of_atom {part : Part} (h : Link possessive first last part)
    (hatom : part.isAtom = true) : first = last := by
  obtain ⟨test, htest⟩ := h.atom hatom
  have hnumbered := h.numbered
  rw [htest] at hnumbered
  exact hnumbered

theorem chain_append {a b : List Part} :
    Chain possessive first last (a ++ b) ↔
      ∃ middle, Chain possessive first middle a ∧ Chain possessive middle last b := by
  induction a generalizing first with
  | nil =>
    constructor
    · intro h
      exact ⟨first, rfl, h⟩
    · rintro ⟨_, rfl, h⟩
      exact h
  | cons part a ih =>
    constructor
    · rintro ⟨middle, hpart, hrest⟩
      obtain ⟨next, ha, hb⟩ := ih.mp hrest
      exact ⟨next, ⟨middle, hpart, ha⟩, hb⟩
    · rintro ⟨next, ⟨middle, hpart, ha⟩, hb⟩
      exact ⟨middle, hpart, ih.mpr ⟨next, ha, hb⟩⟩

theorem chains_append {a b : List (List Part)} :
    Chains possessive first last (a ++ b) ↔
      ∃ middle, Chains possessive first middle a ∧ Chains possessive middle last b := by
  induction a generalizing first with
  | nil =>
    constructor
    · intro h
      exact ⟨first, rfl, h⟩
    · rintro ⟨_, rfl, h⟩
      exact h
  | cons alternative a ih =>
    constructor
    · rintro ⟨middle, hone, hrest⟩
      obtain ⟨next, ha, hb⟩ := ih.mp hrest
      exact ⟨next, ⟨middle, hone, ha⟩, hb⟩
    · rintro ⟨next, ⟨middle, hone, ha⟩, hb⟩
      exact ⟨middle, hone, ih.mpr ⟨next, ha, hb⟩⟩

theorem chain_singleton {part : Part} :
    Chain possessive first last [part] ↔ Link possessive first last part := by
  constructor
  · rintro ⟨_, h, rfl⟩
    exact h
  · intro h
    exact ⟨last, h, rfl⟩

theorem chain_map_shift {parts : List Part} {count : Nat} (h : Chain possessive first last parts) :
    Chain possessive (first + count) (last + count) (parts.map (shift count)) := by
  induction parts generalizing first with
  | nil => exact congrArg (· + count) h
  | cons part rest ih =>
    obtain ⟨middle, hpart, hrest⟩ := h
    refine ⟨middle + count, ⟨?_, ?_, ?_⟩, ih hrest⟩
    · rw [regex_shift]
      exact Regex.tame_shift hpart.tame
    · rw [regex_shift]
      exact Regex.numbered_shift hpart.numbered
    · intro hatom
      rw [isAtom_shift] at hatom
      obtain ⟨test, htest⟩ := hpart.atom hatom
      exact ⟨test, by rw [regex_shift, htest]; rfl⟩

theorem termOf_of_chain {parts : List Part} (h : Chain possessive first last parts) :
    (termOf parts).Tame possessive ∧ (termOf parts).Numbered first last := by
  induction parts generalizing first with
  | nil => exact ⟨trivial, h⟩
  | cons part rest ih =>
    obtain ⟨middle, hpart, hrest⟩ := h
    cases rest with
    | nil =>
      obtain rfl : middle = last := hrest
      exact ⟨hpart.tame, hpart.numbered⟩
    | cons next rest =>
      obtain ⟨htame, hnumbered⟩ := ih hrest
      exact ⟨⟨hpart.tame, htame⟩, middle, hpart.numbered, hnumbered⟩

theorem eitherAll_of_chains {alternatives : List (List Part)}
    (h : Chains possessive first last alternatives) :
    (Regex.eitherAll (alternatives.map termOf)).Tame possessive ∧
      (Regex.eitherAll (alternatives.map termOf)).Numbered first last := by
  induction alternatives generalizing first with
  | nil => exact ⟨trivial, h⟩
  | cons alternative rest ih =>
    obtain ⟨middle, hone, hrest⟩ := h
    have hterm := termOf_of_chain hone
    cases rest with
    | nil =>
      obtain rfl : middle = last := hrest
      exact hterm
    | cons next rest =>
      obtain ⟨htame, hnumbered⟩ := ih hrest
      exact ⟨⟨hterm.1, htame⟩, middle, hterm.2, hnumbered⟩

/-! ## Joining alternatives -/

theorem chain_drop {parts : List Part} {count : Nat} (h : Chain possessive first last parts)
    (hatoms : ∀ part ∈ parts.take count, part.isAtom = true) :
    Chain possessive first first (parts.take count) ∧
      Chain possessive first last (parts.drop count) := by
  induction count generalizing parts with
  | zero => exact ⟨rfl, h⟩
  | succ count ih =>
    cases parts with
    | nil => exact ⟨rfl, h⟩
    | cons part rest =>
      obtain ⟨middle, hpart, hrest⟩ := h
      obtain rfl := hpart.eq_of_atom (hatoms part List.mem_cons_self)
      obtain ⟨htake, hdrop⟩ := ih hrest fun part h => hatoms part (List.mem_cons_of_mem _ h)
      exact ⟨⟨first, hpart, htake⟩, hdrop⟩

/-- What is shared at the front consists of atoms, in each of the alternatives. -/
theorem isAtom_of_shared {alternative : List Part} {others : List (List Part)} :
    (∀ part ∈ alternative.take (sharedLength alternative others), part.isAtom = true) ∧
      ∀ other ∈ others, ∀ part ∈ other.take (sharedLength alternative others),
        part.isAtom = true := by
  induction alternative generalizing others with
  | nil => simp [sharedLength]
  | cons part rest ih =>
    unfold sharedLength
    split
    · next hshared =>
      obtain ⟨hatom, hheads⟩ := Bool.and_eq_true_iff.mp hshared
      obtain ⟨hrest, hothers⟩ := @ih (others.map (·.drop 1))
      refine ⟨?_, fun other hother => ?_⟩
      · intro p hp
        rw [List.take_succ_cons] at hp
        rcases List.mem_cons.mp hp with rfl | hp
        · exact hatom
        · exact hrest p hp
      · have hhead := eq_of_beq (List.all_eq_true.mp hheads other hother)
        obtain ⟨tail, rfl⟩ := List.head?_eq_some_iff.mp hhead
        intro p hp
        rw [List.take_succ_cons] at hp
        rcases List.mem_cons.mp hp with rfl | hp
        · exact hatom
        · exact hothers tail (List.mem_map.mpr ⟨_, hother, rfl⟩) p hp
    · simp

theorem chains_drop {alternatives : List (List Part)} {count : Nat}
    (h : Chains possessive first last alternatives)
    (hatoms : ∀ alternative ∈ alternatives, ∀ part ∈ alternative.take count, part.isAtom = true) :
    Chains possessive first last (alternatives.map (·.drop count)) := by
  induction alternatives generalizing first with
  | nil => exact h
  | cons alternative rest ih =>
    obtain ⟨middle, hone, hrest⟩ := h
    refine ⟨middle, (chain_drop hone (hatoms alternative List.mem_cons_self)).2, ?_⟩
    exact ih hrest fun other hother => hatoms other (List.mem_cons_of_mem _ hother)

/-- Alternatives that are single members of a class hold no groups. -/
theorem eq_of_members {alternatives : List (List Part)} {members : List (List ClassItem)}
    (h : Chains possessive first last alternatives)
    (hmembers : alternatives.mapM onlyMembers? = some members) : first = last := by
  induction alternatives generalizing first members with
  | nil => exact h
  | cons alternative rest ih =>
    obtain ⟨middle, hone, hrest⟩ := h
    rw [List.mapM_cons] at hmembers
    obtain ⟨items, hitems, hmembers⟩ := Option.bind_eq_some_iff.mp hmembers
    obtain ⟨others, hothers, -⟩ := Option.bind_eq_some_iff.mp hmembers
    have hmiddle : first = middle := by
      cases alternative with
      | nil => exact hone
      | cons part more =>
        cases more with
        | cons next more => cases hitems
        | nil =>
          refine (chain_singleton.mp hone).eq_of_atom ?_
          cases part with
          | atom r => rfl
          | whole r => cases hitems
    rw [hmiddle]
    exact ih hrest hothers

theorem link_choice (folding : Folding) {alternatives : List (List Part)}
    (h : Chains possessive first last alternatives) :
    Link possessive first last (choice folding alternatives) := by
  unfold choice
  split
  · next members hmembers =>
    obtain rfl := eq_of_members h hmembers
    exact Link.of_test _ _
  · obtain ⟨htame, hnumbered⟩ := eitherAll_of_chains h
    exact ⟨htame, hnumbered, fun h => (nomatch h)⟩

theorem chain_joined (folding : Folding) {alternatives : List (List Part)}
    (h : Chains possessive first last alternatives) :
    Chain possessive first last (joined folding alternatives) := by
  cases alternatives with
  | nil => exact h
  | cons alternative others =>
    cases others with
    | nil =>
      obtain ⟨middle, hone, rfl⟩ := h
      exact hone
    | cons second others =>
      obtain ⟨hatoms, hothers⟩ := @isAtom_of_shared alternative (second :: others)
      obtain ⟨middle, hone, -⟩ := id h
      refine chain_append.mpr ⟨first, (chain_drop hone hatoms).1, chain_singleton.mpr ?_⟩
      refine link_choice folding (chains_drop h fun other hother => ?_)
      rcases List.mem_cons.mp hother with rfl | hother
      · exact hatoms
      · exact hothers other hother

end Part

end RequestRouter
