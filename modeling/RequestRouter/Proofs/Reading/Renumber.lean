import RequestRouter.Proofs.Matching.Whole
import RequestRouter.Regex.Part

/-!
# Groups numbered further on

A fragment that is read inside of a larger expression has the groups that it has alone, numbered
further on by the number of groups before it. `Regex.shift` does that to a term. It changes nothing
of what the term takes, and choices are joined in the same way (`Part.joined_shift`).
-/

namespace RequestRouter

namespace Regex

/-- The term with its groups numbered `count` further on. -/
def shift (count : Nat) : Regex → Regex
  | .empty => .empty
  | .one test => .one test
  | .place anchor => .place anchor
  | .seq a b => .seq (a.shift count) (b.shift count)
  | .alternative r => .alternative (r.shift count)
  | .either a b => .either (a.shift count) (b.shift count)
  | .group number r => .group (number + count) (r.shift count)
  | .loop greed least most r => .loop greed least most (r.shift count)
  | .atomic r => .atomic (r.shift count)
  | .look behind negated r => .look behind negated (r.shift count)
  | .again folding number => .again folding (number + count)
  | .ifGroup number a b => .ifGroup (number + count) (a.shift count) (b.shift count)

theorem shift_injective {count : Nat} {a b : Regex} (h : a.shift count = b.shift count) :
    a = b := by
  induction a generalizing b with
  | empty | one | place => cases b <;> simp_all [shift]
  | again folding number => cases b <;> simp_all [shift]
  | seq a₁ a₂ ih₁ ih₂ =>
    cases b with
    | seq b₁ b₂ =>
      simp only [shift, seq.injEq] at h
      rw [ih₁ h.1, ih₂ h.2]
    | _ => cases h
  | either a₁ a₂ ih₁ ih₂ =>
    cases b with
    | either b₁ b₂ =>
      simp only [shift, either.injEq] at h
      rw [ih₁ h.1, ih₂ h.2]
    | _ => cases h
  | ifGroup number a₁ a₂ ih₁ ih₂ =>
    cases b with
    | ifGroup number' b₁ b₂ =>
      simp only [shift, ifGroup.injEq] at h
      rw [Nat.add_right_cancel h.1, ih₁ h.2.1, ih₂ h.2.2]
    | _ => cases h
  | alternative a ih =>
    cases b with
    | alternative b =>
      simp only [shift, alternative.injEq] at h
      rw [ih h]
    | _ => cases h
  | atomic a ih =>
    cases b with
    | atomic b =>
      simp only [shift, atomic.injEq] at h
      rw [ih h]
    | _ => cases h
  | group number a ih =>
    cases b with
    | group number' b =>
      simp only [shift, group.injEq] at h
      rw [Nat.add_right_cancel h.1, ih h.2]
    | _ => cases h
  | loop greed least most a ih =>
    cases b with
    | loop greed' least' most' b =>
      simp only [shift, loop.injEq] at h
      obtain ⟨rfl, rfl, rfl, h⟩ := h
      rw [ih h]
    | _ => cases h
  | look behind negated a ih =>
    cases b with
    | look behind' negated' b =>
      simp only [shift, look.injEq] at h
      obtain ⟨rfl, rfl, h⟩ := h
      rw [ih h]
    | _ => cases h

variable {count : Nat} {r : Regex}

/-- What a term takes does not depend on the numbers of its groups. -/
theorem takes_shift {text : Array Char} {p q : Nat} :
    (r.shift count).Takes text p q ↔ r.Takes text p q := by
  induction r generalizing p q with
  | empty | one | place | atomic | look | again | ifGroup => exact Iff.rfl
  | seq a b iha ihb => simp only [shift, Takes, iha, ihb]
  | either a b iha ihb => simp only [shift, Takes, iha, ihb]
  | alternative r ih | group _ r ih => exact ih
  | loop greed least most r ih =>
    have hbody : (r.shift count).Takes text = r.Takes text := by
      funext p q
      exact propext ih
    simp only [shift, Takes, hbody]

theorem test?_shift : (r.shift count).test? = r.test? := by
  cases r <;> rfl

theorem tame_shift {possessive : Bool} (h : r.Tame possessive) :
    (r.shift count).Tame possessive := by
  induction r with
  | empty | one => trivial
  | seq a b iha ihb | either a b iha ihb => exact ⟨iha h.1, ihb h.2⟩
  | alternative r ih | group _ r ih => exact ih h
  | loop _ _ _ r ih => exact ⟨h.1, h.2.1, ih h.2.2⟩
  | place | atomic | look | again | ifGroup => exact h.elim

theorem keepsSingly_shift : (r.shift count).keepsSingly = r.keepsSingly := by
  induction r with
  | empty | one | place | again => rfl
  | seq a b iha ihb | either a b iha ihb => simp only [shift, keepsSingly, iha, ihb]
  | ifGroup _ a b iha ihb => simp only [shift, keepsSingly, iha, ihb]
  | alternative r ih | group _ r ih | atomic r ih | look _ _ r ih => exact ih
  | loop _ _ _ r ih => simp only [shift, keepsSingly, ih, test?_shift]

theorem numbered_shift {first last : Nat} (h : r.Numbered first last) :
    (r.shift count).Numbered (first + count) (last + count) := by
  induction r generalizing first last with
  | empty | one | place | again => exact congrArg (· + count) h
  | seq a b iha ihb | either a b iha ihb | ifGroup _ a b iha ihb =>
    obtain ⟨middle, ha, hb⟩ := h
    exact ⟨middle + count, iha ha, ihb hb⟩
  | alternative r ih | loop _ _ _ r ih | atomic r ih | look _ _ r ih => exact ih h
  | group number r ih =>
    obtain ⟨rfl, h⟩ := h
    have hbody := ih h
    rw [Nat.add_right_comm] at hbody
    exact ⟨Nat.add_right_comm first 1 count, hbody⟩

end Regex

namespace Part

variable {count : Nat}

/-- The part with its groups numbered further on. -/
def shift (count : Nat) : Part → Part
  | .atom r => .atom (r.shift count)
  | .whole r => .whole (r.shift count)

theorem shift_inj {a b : Part} : a.shift count = b.shift count ↔ a = b := by
  constructor
  · intro h
    cases a <;> cases b <;> simp only [shift, reduceCtorEq, atom.injEq, whole.injEq] at h ⊢
    · exact Regex.shift_injective h
    · exact Regex.shift_injective h
  · rintro rfl
    rfl

theorem regex_shift (part : Part) : (part.shift count).regex = part.regex.shift count := by
  cases part <;> rfl

theorem isAtom_shift (part : Part) : (part.shift count).isAtom = part.isAtom := by
  cases part <;> rfl

theorem members?_shift (part : Part) : (part.shift count).members? = part.members? := by
  cases part with
  | whole r => rfl
  | atom r => cases r <;> rfl

theorem termOf_shift (parts : List Part) :
    termOf (parts.map (shift count)) = (termOf parts).shift count := by
  induction parts with
  | nil => rfl
  | cons part rest ih =>
    cases rest with
    | nil => exact regex_shift part
    | cons next rest =>
      have hseq : ∀ a b : Part, ∀ l : List Part,
          termOf (a :: b :: l) = .seq a.regex (termOf (b :: l)) := fun _ _ _ => rfl
      rw [hseq, Regex.shift, ← ih, List.map_cons, List.map_cons, hseq, regex_shift]

theorem eitherAll_shift (terms : List Regex) :
    Regex.eitherAll (terms.map (Regex.shift count)) = (Regex.eitherAll terms).shift count := by
  induction terms with
  | nil => rfl
  | cons r rest ih =>
    cases rest with
    | nil => rfl
    | cons next rest =>
      have heither : ∀ a b : Regex, ∀ l : List Regex,
          Regex.eitherAll (a :: b :: l) = .either (.alternative a) (.eitherAll (b :: l)) :=
        fun _ _ _ => rfl
      rw [heither, Regex.shift, ← ih, List.map_cons, List.map_cons, heither]
      rfl

theorem sharedLength_shift (first : List Part) (others : List (List Part)) :
    sharedLength (first.map (shift count)) (others.map (List.map (shift count))) =
      sharedLength first others := by
  induction first generalizing others with
  | nil => rfl
  | cons part rest ih =>
    have hheads : ((others.map (List.map (shift count))).all (·.head? == some (part.shift count))) =
        others.all (·.head? == some part) := by
      rw [List.all_map]
      congr 1
      funext alternative
      cases alternative with
      | nil => rfl
      | cons first rest =>
        rw [Bool.eq_iff_iff]
        simp [shift_inj]
    have hdrops : (others.map (List.map (shift count))).map (·.drop 1) =
        (others.map (·.drop 1)).map (List.map (shift count)) := by
      simp [List.map_map, Function.comp_def]
    simp only [List.map_cons, sharedLength, isAtom_shift, hheads, hdrops, ih]

theorem onlyMembers?_shift (alternative : List Part) :
    onlyMembers? (alternative.map (shift count)) = onlyMembers? alternative := by
  cases alternative with
  | nil => rfl
  | cons part rest =>
    cases rest with
    | nil => exact members?_shift part
    | cons next rest => rfl

theorem choice_shift (folding : Folding) (alternatives : List (List Part)) :
    choice folding (alternatives.map (List.map (shift count))) =
      (choice folding alternatives).shift count := by
  have hmembers : (alternatives.map (List.map (shift count))).mapM onlyMembers? =
      alternatives.mapM onlyMembers? := by
    rw [List.mapM_map]
    congr 1
    funext alternative
    exact onlyMembers?_shift alternative
  have hterms : (alternatives.map (List.map (shift count))).map termOf =
      (alternatives.map termOf).map (Regex.shift count) := by
    simp [List.map_map, Function.comp_def, termOf_shift]
  unfold choice
  rw [hmembers]
  split
  · rfl
  · rw [hterms, eitherAll_shift]
    rfl

theorem joined_shift (folding : Folding) (alternatives : List (List Part)) :
    joined folding (alternatives.map (List.map (shift count))) =
      (joined folding alternatives).map (shift count) := by
  cases alternatives with
  | nil => rfl
  | cons first others =>
    cases others with
    | nil => rfl
    | cons second others =>
      have hshared : sharedLength (first.map (shift count))
          ((second :: others).map (List.map (shift count))) =
            sharedLength first (second :: others) :=
        sharedLength_shift first (second :: others)
      have hjoined : ∀ a b : List Part, ∀ l : List (List Part), joined folding (a :: b :: l) =
          a.take (sharedLength a (b :: l)) ++
            [choice folding ((a :: b :: l).map (·.drop (sharedLength a (b :: l))))] :=
        fun _ _ _ => rfl
      have hdrops : ∀ shared, ((first :: second :: others).map (List.map (shift count))).map
          (·.drop shared) = ((first :: second :: others).map (·.drop shared)).map
            (List.map (shift count)) := by
        intro shared
        simp [List.map_map, Function.comp_def, List.map_drop]
      rw [List.map_cons, List.map_cons, hjoined, hjoined]
      rw [List.map_cons] at hshared
      rw [hshared, ← List.map_cons, ← List.map_cons, hdrops, choice_shift]
      simp only [List.map_append, List.map_take, List.map_cons, List.map_nil]

end Part

end RequestRouter
