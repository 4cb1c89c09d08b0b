import RequestRouter.Proofs.Reading.Escapes

/-!
# Bracketed classes on a longer text

The reader of a class has fuel; `ClassReader.Members` says without it how the members are taken, one
by one up to the closing bracket. A class that is read from a text is read from a longer one too.
-/

namespace RequestRouter

open RequestRouter.Units

namespace ClassReader

variable {rest more after : Units}

theorem readMember_append {ascii : Bool} {unit : Lexeme} {item : ClassItem}
    (h : readMember ascii unit rest = .ok (item, after)) (hs : Sealed (unit :: rest) more) :
    Passes rest after ∧ readMember ascii unit (rest ++ more) = .ok (item, after ++ more) := by
  cases unit with
  | char c =>
    cases h
    exact ⟨Passes.refl _, rfl⟩
  | pair c => exact Escape.readInClass_append h (hs.tail (by rintro ⟨⟩))

theorem rangeOf_append (more : Units) {first last : Lexeme} {low high item : ClassItem}
    (h : rangeOf first last low high rest = .ok (item, after)) :
    after = rest ∧ rangeOf first last low high (rest ++ more) = .ok (item, after ++ more) := by
  unfold rangeOf at h ⊢
  dsimp only at h ⊢
  split at h
  · split at h
    · cases h
    · next hle =>
      cases h
      rw [if_neg hle]
      exact ⟨rfl, rfl⟩
  · cases h

/-- The members of a class, taken one after another up to the closing bracket. -/
inductive Members (ascii : Bool) : List ClassItem → Units → List ClassItem → Units → Prop
  | close {items rest} (hitems : items ≠ []) : Members ascii items (.char ']' :: rest) items rest
  | hyphen {items unit rest low after} (hunit : ¬ (unit = .char ']' ∧ items ≠ []))
      (hlow : readMember ascii unit rest = .ok (low, .char '-' :: .char ']' :: after)) :
      Members ascii items (unit :: rest) (items ++ [low, .single 45]) after
  | range {items unit rest low last rest₁ high rest₂ range found after}
      (hunit : ¬ (unit = .char ']' ∧ items ≠ []))
      (hlow : readMember ascii unit rest = .ok (low, .char '-' :: last :: rest₁))
      (hlast : last ≠ .char ']') (hhigh : readMember ascii last rest₁ = .ok (high, rest₂))
      (hrange : rangeOf unit last low high rest₂ = .ok (range, rest₂))
      (hmore : Members ascii (items ++ [range]) rest₂ found after) :
      Members ascii items (unit :: rest) found after
  | single {items unit rest low rest₁ found after} (hunit : ¬ (unit = .char ']' ∧ items ≠ []))
      (hlow : readMember ascii unit rest = .ok (low, rest₁)) (hnext :
        rest₁.head? ≠ some (.char '-'))
      (hmore : Members ascii (items ++ [low]) rest₁ found after) :
      Members ascii items (unit :: rest) found after

theorem ends_iff {unit : Lexeme} {items : List ClassItem} :
    (unit == .char ']' && !items.isEmpty) = true ↔ unit = .char ']' ∧ items ≠ [] := by
  cases items <;> simp

theorem members_of_readMembers {ascii : Bool} {left fuel : Nat} {items found : List ClassItem}
    (h : readMembers ascii left fuel items rest = .ok (found, after)) :
    Members ascii items rest found after := by
  induction fuel generalizing items rest with
  | zero => cases h
  | succ fuel ih =>
    unfold readMembers at h
    split at h
    · cases h
    · next unit rest =>
      split at h
      · next hend =>
        obtain ⟨rfl, hitems⟩ := ends_iff.mp hend
        cases h
        exact .close hitems
      · next hend =>
        rw [ends_iff] at hend
        obtain ⟨⟨low, rest₁⟩, hlow, h⟩ := exists_of_bind_ok h
        dsimp only at h
        split at h
        · split at h
          · cases h
          · cases h
            exact .hyphen hend hlow
          · next last rest₂ hlast =>
            obtain ⟨⟨high, rest₃⟩, hhigh, h⟩ := exists_of_bind_ok h
            obtain ⟨⟨range, rest₄⟩, hrange, hmore⟩ := exists_of_bind_ok h
            obtain ⟨rfl, -⟩ := rangeOf_append [] hrange
            exact .range hend hlow hlast hhigh hrange (ih hmore)
        · next hnext =>
          refine .single hend hlow (fun hhead => ?_) (ih h)
          obtain ⟨rest₂, heq⟩ := List.head?_eq_some_iff.mp hhead
          exact hnext rest₂ heq

theorem readMembers_of_members {ascii : Bool} (left : Nat) {fuel : Nat} {items found :
    List ClassItem}
    (h : Members ascii items rest found after) (hfuel : rest.length ≤ fuel) :
    readMembers ascii left fuel items rest = .ok (found, after) := by
  have hmember : ∀ {unit : Lexeme} {rest after : Units} {item : ClassItem},
      readMember ascii unit rest = .ok (item, after) → after.length ≤ rest.length := fun h =>
    (readMember_append h (.inl rfl : Sealed _ [.char ')'])).1.suffix.length_le
  induction h generalizing fuel with
  | close hitems =>
    obtain ⟨fuel, rfl⟩ : ∃ f, fuel = f + 1 := ⟨fuel - 1, by simp at hfuel; omega⟩
    unfold readMembers
    simp [hitems]
  | hyphen hunit hlow =>
    obtain ⟨fuel, rfl⟩ : ∃ f, fuel = f + 1 := ⟨fuel - 1, by simp at hfuel; omega⟩
    rw [← ends_iff] at hunit
    unfold readMembers
    simp only [hunit, hlow, bind, Except.bind, Bool.false_eq_true, if_false]
  | range hunit hlow hlast hhigh hrange hmore ih =>
    obtain ⟨fuel, rfl⟩ : ∃ f, fuel = f + 1 := ⟨fuel - 1, by simp at hfuel; omega⟩
    have hlen := hmember hlow
    have hlen' := hmember hhigh
    simp only [List.length_cons] at hlen hfuel
    rw [← ends_iff] at hunit
    unfold readMembers
    simp only [hunit, hlow, hhigh, hrange, bind, Except.bind, Bool.false_eq_true, if_false]
    exact ih (by omega)
  | single hunit hlow hnext hmore ih =>
    obtain ⟨fuel, rfl⟩ : ∃ f, fuel = f + 1 := ⟨fuel - 1, by simp at hfuel; omega⟩
    have hlen := hmember hlow
    simp only [List.length_cons] at hfuel
    rw [← ends_iff] at hunit
    unfold readMembers
    simp only [hunit, hlow, bind, Except.bind, Bool.false_eq_true, if_false]
    split
    · exact absurd rfl hnext
    · exact ih (by omega)

/-- A class ends at its own bracket, so all that a seam must not do is to end a row of digits. -/
theorem Members.append {ascii : Bool} {items found : List ClassItem}
    (h : Members ascii items rest found after) (hs : Sealed rest more) :
    after <:+ rest ∧ Members ascii items (rest ++ more) found (after ++ more) := by
  have hne : ∀ {items found : List ClassItem} {rest after : Units},
      Members ascii items rest found after → rest ≠ [] := by
    rintro items found rest after (_ | _ | _ | _) <;> exact List.cons_ne_nil _ _
  induction h with
  | close hitems => exact ⟨List.suffix_cons _ _, .close hitems⟩
  | hyphen hunit hlow =>
    obtain ⟨hpasses, hlow'⟩ := readMember_append hlow hs
    refine ⟨?_, .hyphen hunit hlow'⟩
    have hsuffix := hpasses.suffix
    exact (List.suffix_cons _ _).trans ((List.suffix_cons _ _).trans
      (hsuffix.trans (List.suffix_cons _ _)))
  | @range _ unit rest _ last rest₁ _ rest₂ _ _ _ hunit hlow hlast hhigh hrange hmore ih =>
    obtain ⟨hpasses, hlow'⟩ := readMember_append hlow hs
    have hsuffix : .char '-' :: last :: rest₁ <:+ unit :: rest :=
      hpasses.suffix.trans (List.suffix_cons _ _)
    have hsuffix' := (List.suffix_cons _ _).trans hsuffix
    obtain ⟨hpasses', hhigh'⟩ := readMember_append hhigh (hs.suffix hsuffix' (List.cons_ne_nil _ _))
    obtain ⟨-, hrange'⟩ := rangeOf_append more hrange
    have hsuffix'' := hpasses'.suffix.trans ((List.suffix_cons _ _).trans hsuffix')
    obtain ⟨hafter, hgo⟩ := ih (hs.suffix hsuffix'' (hne hmore))
    exact ⟨hafter.trans hsuffix'', .range hunit hlow' hlast hhigh' hrange' hgo⟩
  | @single _ unit rest _ rest₁ _ _ hunit hlow hnext hmore ih =>
    obtain ⟨hpasses, hlow'⟩ := readMember_append hlow hs
    have hsuffix : rest₁ <:+ unit :: rest := hpasses.suffix.trans (List.suffix_cons _ _)
    obtain ⟨hafter, hgo⟩ := ih (hs.suffix hsuffix (hne hmore))
    refine ⟨hafter.trans hsuffix, .single hunit hlow' ?_ hgo⟩
    obtain ⟨next, others, rfl⟩ := List.exists_cons_of_ne_nil (hne hmore)
    exact hnext

/-- What is taken off a text as a class: a circumflex, if there is one, and the members. -/
theorem read_eq_ok_iff {folding : Folding} {ascii : Bool} {test : CharTest} :
    read folding ascii rest = .ok (test, after) ↔
      ∃ complement inner items, (rest.accept '^' = some inner ∧ complement = true ∨
          rest.accept '^' = none ∧ inner = rest ∧ complement = false) ∧
        Members ascii [] inner items after ∧ test = testOf folding complement items := by
  unfold read
  cases hcaret : rest.accept '^' with
  | none =>
    constructor
    · intro h
      obtain ⟨⟨items, left⟩, hitems, h⟩ := exists_of_bind_ok h
      cases h
      exact ⟨false, rest, items, .inr ⟨rfl, rfl, rfl⟩, members_of_readMembers hitems, rfl⟩
    · rintro ⟨complement, inner, items, ⟨h, -⟩ | ⟨-, rfl, rfl⟩, hmembers, rfl⟩
      · cases h
      · simp only [readMembers_of_members _ hmembers (Nat.le_succ _), bind, Except.bind]
        rfl
  | some inner =>
    constructor
    · intro h
      obtain ⟨⟨items, left⟩, hitems, h⟩ := exists_of_bind_ok h
      cases h
      exact ⟨true, inner, items, .inl ⟨rfl, rfl⟩, members_of_readMembers hitems, rfl⟩
    · rintro ⟨complement, inner', items, ⟨h, rfl⟩ | ⟨h, -⟩, hmembers, rfl⟩
      · cases h
        simp only [readMembers_of_members _ hmembers (Nat.le_succ _), bind, Except.bind]
        rfl
      · cases h

theorem read_append {folding : Folding} {ascii : Bool} {test : CharTest}
    (h : read folding ascii rest = .ok (test, after)) (hs : Sealed rest more) :
    after <:+ rest ∧ read folding ascii (rest ++ more) = .ok (test, after ++ more) := by
  obtain ⟨complement, inner, items, hcaret, hmembers, rfl⟩ := read_eq_ok_iff.mp h
  have haccept := accept_append (c := '^') (by decide) hs
  rcases hcaret with ⟨hcaret, rfl⟩ | ⟨hcaret, rfl, rfl⟩
  · have hrest := accept_eq_some hcaret
    rw [hrest] at hs
    obtain ⟨hsuffix, hmore⟩ := hmembers.append (hs.tail (by decide))
    refine ⟨hrest ▸ hsuffix.trans (List.suffix_cons _ _), ?_⟩
    refine read_eq_ok_iff.mpr ⟨true, inner ++ more, items, .inl ⟨?_, rfl⟩, hmore, rfl⟩
    rw [haccept, hcaret, Option.map_some]
  · obtain ⟨hsuffix, hmore⟩ := hmembers.append hs
    refine ⟨hsuffix, ?_⟩
    refine read_eq_ok_iff.mpr ⟨false, inner ++ more, items, .inr ⟨?_, rfl, rfl⟩, hmore, rfl⟩
    rw [haccept, hcaret, Option.map_none]

end ClassReader

end RequestRouter
