import RequestRouter.Proofs.Reading.Seam

/-!
# Headers of parentheses on a longer text

A header of a parenthesis that is read from a text is read from a longer one too. `Opening.Spans`
says which brackets it passes over: none, except that a header which is complete by itself ends with
a closing parenthesis, and a choice names its group in parentheses.
-/

namespace RequestRouter

open RequestRouter.Units

variable {rest more after : Units}

/-! ## Flags -/

/-- The brackets that a change of flags passes over. -/
def FlagChange.Spans (rest after : Units) : FlagChange → Prop
  | .whole _ => Passes rest (.char ')' :: after)
  | .scoped _ _ => Passes rest after

theorem FlagChange.Spans.cons {change : FlagChange} {c : Char} (h : change.Spans rest after)
    (hc : (Lexeme.char c).isBracket = false) : change.Spans (.char c :: rest) after := by
  cases change <;> exact Passes.cons hc h

theorem FlagChange.Spans.suffix {change : FlagChange} (h : change.Spans rest after) :
    after <:+ rest := by
  cases change
  · exact (List.suffix_cons _ _).trans (Passes.suffix h)
  · exact Passes.suffix h

namespace Flag

theorem isBracket_of_ofChar? {c : Char} {flag : Flag} (h : ofChar? c = some flag) :
    (Lexeme.char c).isBracket = false := by
  have hletters : ∀ c ∈ brackets, ofChar? c = none := forall_mem_of_all (by decide)
  refine Bool.eq_false_iff.mpr fun hc => ?_
  rw [hletters c (List.contains_iff_mem.mp hc)] at h
  cases h

theorem not_letter {α : Type} {unit : Lexeme} {expected : Cause} {x : α × Units} :
    (notALetter unit rest expected : Except Halt (α × Units)) ≠ .ok x := by
  cases unit <;> rintro ⟨⟩

theorem readOff_append (more : Units) {on off : List Flag} {flag : Flag} {change : FlagChange}
    (h : readOff on off flag rest = .ok (change, after)) :
    change.Spans rest after ∧ readOff on off flag (rest ++ more) = .ok (change, after ++ more) := by
  induction rest generalizing off flag with
  | nil =>
    unfold readOff at h
    split at h <;> cases h
  | cons unit rest ih =>
    rw [List.cons_append]
    by_cases hflag : flag.choosesAlphabet = true
    · unfold readOff at h
      rw [if_pos hflag] at h
      cases h
    · cases unit with
      | pair c =>
        simp only [readOff, hflag, Bool.false_eq_true, if_false] at h
        exact absurd h not_letter
      | char c =>
        by_cases hcolon : c = ':'
        · subst hcolon
          simp only [readOff, hflag, Bool.false_eq_true, if_false] at h ⊢
          split at h
          · cases h
          · next hglobal =>
            split at h
            · cases h
            · next hboth =>
              cases h
              rw [if_neg hglobal, if_neg hboth]
              exact ⟨Passes.cons rfl (Passes.refl _), rfl⟩
        · simp only [readOff, hflag, Bool.false_eq_true, if_false] at h ⊢
          cases hnext : ofChar? c with
          | none =>
            simp only [hnext] at h
            exact absurd h not_letter
          | some next =>
            simp only [hnext] at h ⊢
            obtain ⟨hspans, hmore⟩ := ih h
            exact ⟨hspans.cons (isBracket_of_ofChar? hnext), hmore⟩

theorem readHyphen_append (more : Units) {on : List Flag} {change : FlagChange}
    (h : readHyphen on rest = .ok (change, after)) :
    change.Spans rest after ∧ readHyphen on (rest ++ more) = .ok (change, after ++ more) := by
  unfold readHyphen at h ⊢
  split at h
  · cases h
  · next hglobal =>
    rw [if_neg hglobal]
    cases rest with
    | nil => cases h
    | cons unit rest =>
      cases unit with
      | pair c => exact absurd h not_letter
      | char c =>
        dsimp only [List.cons_append] at h ⊢
        cases hnext : ofChar? c with
        | none =>
          simp only [hnext] at h
          exact absurd h not_letter
        | some next =>
          simp only [hnext] at h ⊢
          obtain ⟨hspans, hmore⟩ := readOff_append more h
          exact ⟨hspans.cons (isBracket_of_ofChar? hnext), hmore⟩

theorem readOn_append (more : Units) {on : List Flag} {flag : Flag} {change : FlagChange}
    (h : readOn on flag rest = .ok (change, after)) :
    change.Spans rest after ∧ readOn on flag (rest ++ more) = .ok (change, after ++ more) := by
  induction rest generalizing on flag with
  | nil =>
    unfold readOn at h
    split at h
    · cases h
    · dsimp only at h
      split at h <;> cases h
  | cons unit rest ih =>
    rw [List.cons_append]
    by_cases hlocale : (flag == .locale) = true
    · unfold readOn at h
      rw [if_pos hlocale] at h
      cases h
    · by_cases hrival : (flag.choosesAlphabet &&
          (on ++ [flag]).any fun other => other.choosesAlphabet && other != flag) = true
      · unfold readOn at h
        rw [if_neg hlocale] at h
        dsimp only at h
        rw [if_pos hrival] at h
        cases h
      · cases unit with
        | pair c =>
          simp only [readOn, hlocale, hrival, Bool.false_eq_true, if_false] at h
          exact absurd h not_letter
        | char c =>
          by_cases hclose : c = ')'
          · subst hclose
            simp only [readOn, hlocale, hrival, Bool.false_eq_true, if_false] at h ⊢
            cases h
            exact ⟨Passes.refl _, rfl⟩
          · by_cases hcolon : c = ':'
            · subst hcolon
              simp only [readOn, hlocale, hrival, Bool.false_eq_true, if_false] at h ⊢
              split at h
              · cases h
              · next hglobal =>
                cases h
                rw [if_neg hglobal]
                exact ⟨Passes.cons rfl (Passes.refl _), rfl⟩
            · by_cases hhyphen : c = '-'
              · subst hhyphen
                unfold readOn at h ⊢
                simp only [hlocale, hrival, Bool.false_eq_true, if_false] at h ⊢
                obtain ⟨hspans, hmore⟩ := readHyphen_append more h
                exact ⟨hspans.cons rfl, hmore⟩
              · unfold readOn at h ⊢
                simp only [hlocale, hrival, Bool.false_eq_true, if_false] at h ⊢
                cases hnext : ofChar? c with
                | none =>
                  simp only [hnext] at h
                  exact absurd h not_letter
                | some next =>
                  simp only [hnext] at h ⊢
                  obtain ⟨hspans, hmore⟩ := ih h
                  exact ⟨hspans.cons (isBracket_of_ofChar? hnext), hmore⟩

end Flag

/-! ## Headers -/

namespace Opening

/-- The brackets that a header passes over. A comment may hold any. -/
def Spans (rest after : Units) : Opening → Prop
  | .capture => after = rest
  | .named _ | .scoped _ _ | .atomic | .look _ _ => Passes rest after
  | .flags _ | .again _ => Passes rest (.char ')' :: after)
  | .test name =>
    ∃ inner, rest = .char '?' :: .char '(' :: inner ∧
      ((∀ c ∈ name, c ∉ brackets) → Passes inner (.char ')' :: after))
  | .comment => True

theorem skipComment_append (more : Units) (h : skipComment rest = some after) :
    after <:+ rest ∧ skipComment (rest ++ more) = some (after ++ more) := by
  induction rest with
  | nil => cases h
  | cons unit rest ih =>
    simp only [List.cons_append, skipComment] at h ⊢
    split at h
    · next hclose =>
      cases h
      rw [if_pos hclose]
      exact ⟨List.suffix_cons _ _, rfl⟩
    · next hclose =>
      rw [if_neg hclose]
      obtain ⟨hsuffix, hmore⟩ := ih h
      exact ⟨hsuffix.trans (List.suffix_cons _ _), hmore⟩

theorem not_mem_brackets_of_isIdentifier {name : List Char} (h : Text.isIdentifier name = true) :
    ∀ c ∈ name, c ∉ brackets := by
  have hstart : ∀ c ∈ brackets, Text.identifierStartSpans.has c.toNat = false :=
    forall_mem_of_all (by decide)
  have hlater : ∀ c ∈ brackets, Text.identifierSpans.has c.toNat = false :=
    forall_mem_of_all (by decide)
  cases name with
  | nil => cases h
  | cons first rest =>
    obtain ⟨hfirst, hrest⟩ := Bool.and_eq_true_iff.mp h
    intro c hc hbracket
    rcases List.mem_cons.mp hc with rfl | hc
    · rw [hstart c hbracket] at hfirst
      cases hfirst
    · have hpasses := List.all_eq_true.mp hrest c hc
      rw [hlater c hbracket] at hpasses
      cases hpasses

theorem readGroupName_append (more : Units) {terminator : Char} {name : List Char}
    (h : readGroupName terminator rest = .ok (name, after)) :
    Passes rest (.char terminator :: after) ∧
      readGroupName terminator (rest ++ more) = .ok (name, after ++ more) := by
  obtain ⟨⟨name', left⟩, hname, h⟩ := exists_of_bind_ok h
  dsimp only at h
  split at h
  · next hidentifier =>
    cases h
    refine ⟨readName_passes hname (not_mem_brackets_of_isIdentifier hidentifier), ?_⟩
    obtain ⟨-, hmore⟩ := readName_append more hname
    unfold readGroupName
    simp only [hmore, bind, Except.bind, hidentifier, if_true]
    rfl
  · cases h

theorem not_unknown {before : String} {unit : Lexeme} {x : Opening × Units} :
    unknown before unit rest ≠ .ok x := by
  rintro ⟨⟩

theorem readNamed_append (more : Units) {opening : Opening}
    (h : readNamed rest = .ok (opening, after)) :
    (∀ {before}, Passes before rest → opening.Spans before after) ∧ after <:+ rest ∧
      readNamed (rest ++ more) = .ok (opening, after ++ more) := by
  unfold readNamed at h
  split at h
  · obtain ⟨⟨name, left⟩, hname, h⟩ := exists_of_bind_ok h
    cases h
    obtain ⟨hpasses, hmore⟩ := readGroupName_append more hname
    have hheader : Passes (.char '<' :: _) after :=
      .cons rfl (hpasses.trans (.cons rfl (Passes.refl _)))
    refine ⟨fun hbefore => hbefore.trans hheader, hheader.suffix, ?_⟩
    simp only [List.cons_append, readNamed, hmore, bind, Except.bind]
    rfl
  · obtain ⟨⟨name, left⟩, hname, h⟩ := exists_of_bind_ok h
    cases h
    obtain ⟨hpasses, hmore⟩ := readGroupName_append more hname
    have hheader : Passes (.char '=' :: _) (.char ')' :: after) := .cons rfl hpasses
    refine ⟨fun hbefore => hbefore.trans hheader, ?_, ?_⟩
    · exact (List.suffix_cons _ _).trans hheader.suffix
    · simp only [List.cons_append, readNamed, hmore, bind, Except.bind]
      rfl
  · cases h
  · exact absurd h not_unknown

theorem readBehind_append (more : Units) {opening : Opening}
    (h : readBehind rest = .ok (opening, after)) :
    (∀ {before}, Passes before rest → opening.Spans before after) ∧ after <:+ rest ∧
      readBehind (rest ++ more) = .ok (opening, after ++ more) := by
  unfold readBehind at h
  split at h
  · cases h
    exact ⟨fun hbefore => hbefore.trans (.cons rfl (Passes.refl _)), List.suffix_cons _ _, rfl⟩
  · cases h
    exact ⟨fun hbefore => hbefore.trans (.cons rfl (Passes.refl _)), List.suffix_cons _ _, rfl⟩
  · cases h
  · exact absurd h not_unknown

theorem readExtended_append (more : Units) {left : Nat} {opening : Opening}
    (h : readExtended left rest = .ok (opening, after)) (left' : Nat) :
    opening.Spans (.char '?' :: rest) after ∧ after <:+ rest ∧
      readExtended left' (rest ++ more) = .ok (opening, after ++ more) := by
  have hmark : ∀ {a b : Units}, Passes a b → Passes (.char '?' :: a) b := .cons rfl
  unfold readExtended at h
  split at h
  · cases h
  · obtain ⟨hspans, hsuffix, hmore⟩ := readNamed_append more h
    exact ⟨hspans (.cons rfl (.cons rfl (Passes.refl _))), hsuffix.trans (List.suffix_cons _ _),
      hmore⟩
  · cases h
    exact ⟨hmark (.cons rfl (Passes.refl _)), List.suffix_cons _ _, rfl⟩
  · split at h
    · next hcomment =>
      cases h
      obtain ⟨hsuffix, hmore⟩ := skipComment_append more hcomment
      refine ⟨trivial, hsuffix.trans (List.suffix_cons _ _), ?_⟩
      simp only [List.cons_append, readExtended, hmore]
    · cases h
  · cases h
    exact ⟨hmark (.cons rfl (Passes.refl _)), List.suffix_cons _ _, rfl⟩
  · cases h
    exact ⟨hmark (.cons rfl (Passes.refl _)), List.suffix_cons _ _, rfl⟩
  · obtain ⟨hspans, hsuffix, hmore⟩ := readBehind_append more h
    exact ⟨hspans (.cons rfl (.cons rfl (Passes.refl _))), hsuffix.trans (List.suffix_cons _ _),
      hmore⟩
  · obtain ⟨⟨name, left⟩, hname, h⟩ := exists_of_bind_ok h
    cases h
    obtain ⟨hsuffix, hmore⟩ := readName_append more hname
    refine ⟨⟨_, rfl, fun hplain => readName_passes hname hplain⟩,
      hsuffix.trans (List.suffix_cons _ _), ?_⟩
    simp only [List.cons_append, readExtended, hmore, bind, Except.bind]
    rfl
  · cases h
    exact ⟨hmark (.cons rfl (Passes.refl _)), List.suffix_cons _ _, rfl⟩
  · obtain ⟨⟨change, left⟩, hchange, h⟩ := exists_of_map_ok h
    obtain ⟨hspans, hmore⟩ := Flag.readHyphen_append more hchange
    cases change <;> cases h <;>
      exact ⟨hmark (.cons rfl hspans), hspans.suffix.trans (List.suffix_cons _ _), by
        simp only [List.cons_append, readExtended, hmore]; rfl⟩
  · next unit rest _ _ _ _ _ _ _ _ _ =>
    cases unit with
    | pair c => exact absurd h not_unknown
    | char c =>
      cases hflag : Flag.ofChar? c with
      | none =>
        simp only [hflag] at h
        exact absurd h not_unknown
      | some flag =>
        simp only [hflag] at h
        obtain ⟨⟨change, left⟩, hchange, h⟩ := exists_of_map_ok h
        obtain ⟨hspans, hmore⟩ := Flag.readOn_append more hchange
        have hbracket := Flag.isBracket_of_ofChar? hflag
        have hread : readExtended left' (.char c :: (rest ++ more)) =
            (Flag.readOn [] flag (rest ++ more)).map readExtended.ofChange := by
          unfold Flag.ofChar? at hflag
          split at hflag <;> cases hflag <;> rfl
        rw [List.cons_append, hread, hmore]
        cases change <;> cases h <;>
          exact ⟨hmark (.cons hbracket hspans), hspans.suffix.trans (List.suffix_cons _ _), rfl⟩

theorem read_append {opening : Opening} (h : read rest = .ok (opening, after))
    (hs : Sealed rest more) :
    opening.Spans rest after ∧ after <:+ rest ∧ read (rest ++ more) =
      .ok (opening, after ++ more) := by
  unfold read at h ⊢
  rw [accept_append (by decide) hs]
  cases hmark : rest.accept '?' with
  | none =>
    simp only [hmark, Option.map_none] at h ⊢
    cases h
    exact ⟨rfl, List.suffix_rfl, rfl⟩
  | some inner =>
    simp only [hmark, Option.map_some] at h ⊢
    obtain rfl := accept_eq_some hmark
    obtain ⟨hspans, hsuffix, hmore⟩ :=
        readExtended_append more h (width (.char '?' :: inner ++ more))
    exact ⟨hspans, hsuffix.trans (List.suffix_cons _ _), hmore⟩

end Opening

end RequestRouter
