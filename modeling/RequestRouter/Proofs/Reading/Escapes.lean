import RequestRouter.Proofs.Reading.Seam

/-!
# Escapes and quantifiers on a longer text

For each reader of an escape or a quantifier: it passes over no bracket, and on a sealed text with
more behind it, it reads the same and leaves the same with more behind it.
-/

namespace RequestRouter

open RequestRouter.Units

variable {rest more after : Units}

theorem hexDigit_of_bracket : ∀ c ∈ brackets, Text.isHexDigit c = false :=
  forall_mem_of_all (by decide)

theorem octalDigit_of_bracket : ∀ c ∈ brackets, Text.isOctalDigit c = false :=
  forall_mem_of_all (by decide)

theorem digit_of_bracket : ∀ c ∈ brackets, c.isDigit = false := forall_mem_of_all (by decide)

/-! ## Escapes -/

namespace Escape

theorem readHex_append {c : Char} {count code : Nat} (h : readHex c count rest = .ok (code, after))
    (hs : Sealed rest more) :
    Passes rest after ∧ readHex c count (rest ++ more) = .ok (code, after ++ more) := by
  have hpasses := takeUpTo_passes hexDigit_of_bracket count rest
  have happend := takeUpTo_append hexDigit_of_bracket count hs
  unfold readHex at h ⊢
  rw [happend]
  generalize takeUpTo Text.isHexDigit count rest = taken at h hpasses
  obtain ⟨digits, left⟩ := taken
  dsimp only at h hpasses ⊢
  split at h
  · cases h
  · next hlength =>
    split at h
    · cases h
    · next hcode =>
      cases h
      rw [if_neg hlength, if_neg hcode]
      exact ⟨hpasses, rfl⟩

theorem readNamed_append (more : Units) {code : Nat} (h : readNamed rest = .ok (code, after)) :
    Passes rest after ∧ readNamed (rest ++ more) = .ok (code, after ++ more) := by
  unfold readNamed at h
  split at h
  · cases h
  · next inner hinner =>
    obtain rfl := accept_eq_some hinner
    obtain ⟨⟨name, left⟩, hname, hcode⟩ := exists_of_bind_ok h
    obtain ⟨-, hmore⟩ := readName_append more hname
    dsimp only at hcode
    split at hcode
    · next found hfound =>
      cases hcode
      have hpasses := readName_passes hname (Text.not_mem_brackets_of_characterNamed? hfound)
      refine ⟨.cons rfl (hpasses.trans (.cons rfl (Passes.refl _))), ?_⟩
      simp only [readNamed, List.cons_append, accept, beq_self_eq_true, if_true, hmore, bind,
        Except.bind, hfound]
    · cases hcode

/-- An escape with a code of its own is one in any text, and reads as the same code. -/
theorem readCode?_append {c : Char} {code : Nat} {reading : Reading Nat}
    (h : readCode? c rest = some reading) (hok : reading = .ok (code, after))
    (hs : Sealed rest more) :
    Passes rest after ∧ readCode? c (rest ++ more) = some (.ok (code, after ++ more)) := by
  subst hok
  unfold readCode? at h ⊢
  split at h
  · obtain ⟨hpasses, hmore⟩ := readHex_append (Option.some.inj h) hs
    exact ⟨hpasses, congrArg some hmore⟩
  · obtain ⟨hpasses, hmore⟩ := readHex_append (Option.some.inj h) hs
    exact ⟨hpasses, congrArg some hmore⟩
  · obtain ⟨hpasses, hmore⟩ := readHex_append (Option.some.inj h) hs
    exact ⟨hpasses, congrArg some hmore⟩
  · obtain ⟨hpasses, hmore⟩ := readNamed_append more (Option.some.inj h)
    exact ⟨hpasses, congrArg some hmore⟩
  · cases h

theorem readCode?_eq_none {c : Char} (h : readCode? c rest = none) (other : Units) :
    readCode? c other = none := by
  unfold readCode? at h ⊢
  split at h
  · cases h
  · cases h
  · cases h
  · cases h
  · rfl

theorem readPlain_append (more : Units) {c : Char} {code : Nat} (h : readPlain c rest =
    .ok (code, after)) :
    after = rest ∧ readPlain c (rest ++ more) = .ok (code, after ++ more) := by
  unfold readPlain at h ⊢
  split at h
  · cases h
  · next hletter =>
    cases h
    rw [if_neg hletter]
    exact ⟨rfl, rfl⟩

theorem readInClass_append {ascii : Bool} {c : Char} {item : ClassItem}
    (h : readInClass ascii c rest = .ok (item, after)) (hs : Sealed rest more) :
    Passes rest after ∧ readInClass ascii c (rest ++ more) = .ok (item, after ++ more) := by
  unfold readInClass at h ⊢
  cases hcontrol : Text.controlOf? c with
  | some code =>
    simp only [hcontrol] at h ⊢
    cases h
    exact ⟨Passes.refl _, rfl⟩
  | none =>
    cases hclass : class? ascii c with
    | some named =>
      simp only [hcontrol, hclass] at h ⊢
      cases h
      exact ⟨Passes.refl _, rfl⟩
    | none =>
      cases hcode : readCode? c rest with
      | some reading =>
        simp only [hcontrol, hclass, hcode] at h
        obtain ⟨⟨code, left⟩, hok, heq⟩ := exists_of_map_ok h
        obtain ⟨rfl, rfl⟩ := Prod.mk.inj heq
        obtain ⟨hpasses, hmore⟩ := readCode?_append hcode hok hs
        simp only [hmore]
        exact ⟨hpasses, rfl⟩
      | none =>
        simp only [hcontrol, hclass, hcode, readCode?_eq_none hcode] at h ⊢
        split at h
        · next hoctal =>
          have hpasses := takeUpTo_passes octalDigit_of_bracket 2 rest
          have happend := takeUpTo_append octalDigit_of_bracket 2 hs
          rw [if_pos hoctal, happend]
          generalize takeUpTo Text.isOctalDigit 2 rest = taken at h hpasses
          obtain ⟨digits, left⟩ := taken
          dsimp only at h hpasses ⊢
          split at h
          · cases h
          · next hlarge =>
            cases h
            rw [if_neg hlarge]
            exact ⟨hpasses, rfl⟩
        · next hoctal =>
          rw [if_neg hoctal]
          split at h
          · cases h
          · next hdigit =>
            rw [if_neg hdigit]
            obtain ⟨⟨code, left⟩, hok, heq⟩ := exists_of_map_ok h
            obtain ⟨rfl, rfl⟩ := Prod.mk.inj heq
            obtain ⟨rfl, hmore⟩ := readPlain_append more hok
            rw [hmore]
            exact ⟨Passes.refl _, rfl⟩

theorem readNumber_append {c : Char} {meaning : Meaning}
    (h : readNumber c rest = .ok (meaning, after)) (hs : Sealed rest more) :
    Passes rest after ∧ readNumber c (rest ++ more) = .ok (meaning, after ++ more) := by
  have hclose : ∀ {left : Units}, Sealed [] left → ∃ left', left = .char ')' :: left' := by
    intro left hs
    rcases hs.ne_nil_or with hne | hmore
    · exact absurd rfl hne
    · exact List.head?_eq_some_iff.mp hmore
  cases rest with
  | nil =>
    obtain ⟨more, rfl⟩ := hclose hs
    cases h
    exact ⟨Passes.refl _, rfl⟩
  | cons unit rest =>
    cases unit with
    | pair d =>
      cases h
      exact ⟨Passes.refl _, rfl⟩
    | char d =>
      simp only [readNumber, List.cons_append] at h ⊢
      by_cases hd : d.isDigit = true
      · have hs := hs.tail (by rintro ⟨⟩; cases hd)
        simp only [hd, Bool.not_true, Bool.false_eq_true, if_false] at h ⊢
        cases rest with
        | nil =>
          obtain ⟨more, rfl⟩ := hclose hs
          cases h
          have hoctal : Text.isOctalDigit ')' = false := by decide
          simp only [List.nil_append, hoctal, Bool.and_false, Bool.false_eq_true, if_false]
          exact ⟨.cons (isBracket_of_among digit_of_bracket hd) (Passes.refl _), trivial⟩
        | cons next rest =>
          cases next with
          | pair e =>
            cases h
            exact ⟨.cons (isBracket_of_among digit_of_bracket hd) (Passes.refl _), rfl⟩
          | char e =>
            dsimp only [List.cons_append] at h ⊢
            split at h
            · next hoctal =>
              rw [if_pos hoctal]
              split at h
              · cases h
              · next hlarge =>
                cases h
                rw [if_neg hlarge]
                have he : Text.isOctalDigit e = true := (Bool.and_eq_true_iff.mp hoctal).2
                have hd := isBracket_of_among digit_of_bracket hd
                have he := isBracket_of_among octalDigit_of_bracket he
                exact ⟨.cons hd (.cons he (Passes.refl _)), rfl⟩
            · next hoctal =>
              cases h
              rw [if_neg hoctal]
              exact ⟨.cons (isBracket_of_among digit_of_bracket hd) (Passes.refl _), rfl⟩
      · simp only [hd, Bool.not_false, if_true] at h ⊢
        cases h
        exact ⟨Passes.refl _, rfl⟩

theorem readOutside_append {ascii : Bool} {c : Char} {meaning : Meaning}
    (h : readOutside ascii c rest = .ok (meaning, after)) (hs : Sealed rest more) :
    Passes rest after ∧ readOutside ascii c (rest ++ more) = .ok (meaning, after ++ more) := by
  unfold readOutside at h ⊢
  cases hanchor : anchor? ascii c with
  | some anchor =>
    simp only [hanchor] at h
    cases h
    exact ⟨Passes.refl _, rfl⟩
  | none =>
    cases hclass : class? ascii c with
    | some named =>
      simp only [hanchor, hclass] at h
      cases h
      exact ⟨Passes.refl _, rfl⟩
    | none =>
      cases hcontrol : Text.controlOf? c with
      | some code =>
        simp only [hanchor, hclass, hcontrol] at h
        cases h
        exact ⟨Passes.refl _, rfl⟩
      | none =>
        simp only [hanchor, hclass, hcontrol] at h ⊢
        cases hcode : readCode? c rest with
        | some reading =>
          simp only [hcode] at h
          obtain ⟨⟨code, left⟩, hok, heq⟩ := exists_of_map_ok h
          obtain ⟨rfl, rfl⟩ := Prod.mk.inj heq
          obtain ⟨hpasses, hmore⟩ := readCode?_append hcode hok hs
          simp only [hmore]
          exact ⟨hpasses, rfl⟩
        | none =>
          simp only [hcode, readCode?_eq_none hcode] at h ⊢
          split at h
          · next hzero =>
            have hpasses := takeUpTo_passes octalDigit_of_bracket 2 rest
            have happend := takeUpTo_append octalDigit_of_bracket 2 hs
            rw [if_pos hzero, happend]
            cases h
            exact ⟨hpasses, rfl⟩
          · next hzero =>
            rw [if_neg hzero]
            split at h
            · next hdigit =>
              rw [if_pos hdigit]
              exact readNumber_append h hs
            · next hdigit =>
              rw [if_neg hdigit]
              obtain ⟨⟨code, left⟩, hok, heq⟩ := exists_of_map_ok h
              obtain ⟨rfl, rfl⟩ := Prod.mk.inj heq
              obtain ⟨rfl, hmore⟩ := readPlain_append more hok
              rw [hmore]
              exact ⟨Passes.refl _, rfl⟩

end Escape

/-! ## Quantifiers -/

namespace Bounds

theorem ofDigits_eq {digits : List Char} {count : Option Nat} (h : ofDigits digits rest = .ok count)
    (other : Units) : ofDigits digits other = .ok count := by
  unfold ofDigits at h ⊢
  split at h
  · next hempty =>
    rw [if_pos hempty]
    exact h
  · next hempty =>
    rw [if_neg hempty]
    split at h
    · cases h
    · next hlong =>
      rw [if_neg hlong]
      dsimp only at h ⊢
      split at h
      · cases h
      · next hlarge =>
        rw [if_neg hlarge]
        exact h

theorem split_append (hs : Sealed rest more) :
    split (rest ++ more) =
      (split rest).map fun found => (found.1, found.2.1, found.2.2 ++ more) := by
  have hlow := hs.takeAll digit_of_bracket
  unfold split
  rw [takeAll_append_right digit_of_bracket hs]
  generalize takeAll Char.isDigit rest = first at hlow
  obtain ⟨low, rest⟩ := first
  dsimp only at hlow ⊢
  rw [accept_append (by decide) hlow]
  cases hcomma : rest.accept ',' with
  | none =>
    simp only [Option.map_none]
    rw [accept_append (by decide) hlow, Option.map_map, Option.map_map]
    rfl
  | some inner =>
    obtain rfl := accept_eq_some hcomma
    have hinner := hlow.tail (by decide)
    have hhigh := hinner.takeAll digit_of_bracket
    simp only [Option.map_some, takeAll_append_right digit_of_bracket hinner]
    rw [accept_append (by decide) hhigh, Option.map_map, Option.map_map]
    rfl

theorem split_sealed {low high : List Char} (h : split rest = some (low, high, after))
    (hs : Sealed rest more) : Passes rest after ∧ Sealed after more := by
  have hlow := hs.takeAll digit_of_bracket
  have hpasses := takeAll_passes digit_of_bracket rest
  unfold split at h
  generalize takeAll Char.isDigit rest = first at h hlow hpasses
  obtain ⟨low', left⟩ := first
  dsimp only at h hlow hpasses
  cases hcomma : left.accept ',' with
  | none =>
    simp only [hcomma] at h
    obtain ⟨after', hbrace, heq⟩ := Option.map_eq_some_iff.mp h
    cases heq
    obtain rfl := accept_eq_some hbrace
    exact ⟨hpasses.trans (.cons rfl (Passes.refl _)), hlow.tail (by decide)⟩
  | some inner =>
    obtain rfl := accept_eq_some hcomma
    have hinner := hlow.tail (by decide)
    have hhigh := hinner.takeAll digit_of_bracket
    have hpasses' := takeAll_passes digit_of_bracket inner
    simp only [hcomma] at h
    obtain ⟨after', hbrace, heq⟩ := Option.map_eq_some_iff.mp h
    cases heq
    rw [accept_eq_some hbrace] at hhigh hpasses'
    refine ⟨?_, hhigh.tail (by decide)⟩
    exact hpasses.trans (.cons rfl (hpasses'.trans (.cons rfl (Passes.refl _))))

theorem readBraced_append {found : Option (Bounds × Units)} (h : readBraced rest = .ok found)
    (hs : Sealed rest more) :
    readBraced (rest ++ more) = .ok (found.map fun found => (found.1, found.2 ++ more)) ∧
      ∀ bounds after, found = some (bounds, after) → Passes rest after ∧ Sealed after more := by
  unfold readBraced at h ⊢
  rw [accept_append (by decide) hs, Option.isSome_map]
  split at h
  · next hbrace =>
    cases h
    rw [if_pos hbrace]
    exact ⟨rfl, fun _ _ h => nomatch h⟩
  · next hbrace =>
    rw [if_neg hbrace, split_append hs]
    cases hsplit : split rest with
    | none =>
      simp only [hsplit] at h
      cases h
      exact ⟨rfl, fun _ _ h => nomatch h⟩
    | some parts =>
      obtain ⟨low, high, left⟩ := parts
      simp only [hsplit] at h
      simp only [Option.map_some]
      obtain ⟨least, hleast, h⟩ := exists_of_bind_ok h
      obtain ⟨most, hmost, h⟩ := exists_of_bind_ok h
      rw [ofDigits_eq hleast, ofDigits_eq hmost]
      split at h
      · cases h
      · next hbounds =>
        cases h
        refine ⟨?_, ?_⟩
        · show (if most.any (· < least.getD 0) then _ else _) = _
          rw [if_neg hbounds]
          rfl
        · rintro _ _ ⟨⟩
          exact split_sealed hsplit hs

theorem read?_append {c : Char} {found : Option (Bounds × Units)} (h : read? c rest = .ok found)
    (hc : c ≠ ')') (hs : Sealed (.char c :: rest) more) :
    read? c (rest ++ more) = .ok (found.map fun found => (found.1, found.2 ++ more)) ∧
      ∀ bounds after, found = some (bounds, after) → Passes rest after ∧ Sealed after more := by
  have hrest : Sealed rest more := hs.tail (by rintro ⟨⟩; exact hc rfl)
  clear hs
  unfold read? at h ⊢
  split at h
  · cases h
    exact ⟨rfl, by rintro _ _ ⟨⟩; exact ⟨Passes.refl _, hrest⟩⟩
  · cases h
    exact ⟨rfl, by rintro _ _ ⟨⟩; exact ⟨Passes.refl _, hrest⟩⟩
  · cases h
    exact ⟨rfl, by rintro _ _ ⟨⟩; exact ⟨Passes.refl _, hrest⟩⟩
  · exact readBraced_append h hrest
  · cases h
    exact ⟨rfl, fun _ _ h => nomatch h⟩

end Bounds

namespace Greed

theorem read_passes (rest : Units) : Passes rest (read rest).2 := by
  unfold read
  split
  · exact .cons rfl (Passes.refl _)
  · exact .cons rfl (Passes.refl _)
  · exact Passes.refl _

/-- The sign behind a quantifier is looked for on this side of a seam. -/
theorem read_append (hs : Sealed rest more) :
    read (rest ++ more) = ((read rest).1, (read rest).2 ++ more) := by
  cases rest with
  | nil =>
    rcases hs.ne_nil_or with hne | hmore
    · exact absurd rfl hne
    · obtain ⟨more, rfl⟩ := List.head?_eq_some_iff.mp hmore
      rfl
  | cons unit rest =>
    unfold read
    split
    · next heq => cases heq; rfl
    · next heq => cases heq; rfl
    · next hlazy hpossessive =>
      split
      · next heq => cases heq; exact absurd rfl (hlazy _)
      · next heq => cases heq; exact absurd rfl (hpossessive _)
      · rfl

end Greed

end RequestRouter
