import RequestRouter.Regex.ClassReader
import RequestRouter.Regex.Opening
import RequestRouter.Regex.Quantifier

/-!
# Readers do not look across a parenthesis

A construct that is read from a text is read from a longer text too, and what is left of the longer
text is longer by the same units. Most readers stop at a terminator of their own. Those that take as
much as they can, such as a row of digits or the sign after a quantifier, stop at a closing
parenthesis, so for them it is enough that one stands on either side of the seam (`Units.Sealed`).
-/

namespace RequestRouter

section

variable {ε α β : Type} {x : Except ε α} {b : β}

theorem exists_of_bind_ok {f : α → Except ε β} (h : x >>= f = .ok b) :
    ∃ a, x = .ok a ∧ f a = .ok b := by
  cases x with
  | error e => cases h
  | ok a => exact ⟨a, rfl, h⟩

theorem exists_of_map_ok {f : α → β} (h : x.map f = .ok b) : ∃ a, x = .ok a ∧ f a = b := by
  cases x with
  | error e => cases h
  | ok a => exact ⟨a, rfl, Except.ok.inj h⟩

end

/-- What holds of all characters of a list is decided along the list. -/
theorem forall_mem_of_all {p : Char → Prop} [DecidablePred p] {chars : List Char}
    (h : (chars.all fun c => decide (p c)) = true) : ∀ c ∈ chars, p c :=
  fun c hc => of_decide_eq_true (List.all_eq_true.mp h c hc)

/-- The characters that enclose something. -/
def brackets : List Char := ['(', ')', '[', ']']

/-- The unit is a bracket that counts. -/
def Lexeme.isBracket : Lexeme → Bool
  | .char c => brackets.contains c
  | .pair _ => false

namespace Units

/-- What is left begins at or behind the front, and there is no bracket before it. -/
def Passes (rest after : Units) : Prop :=
  ∃ front, rest = front ++ after ∧ ∀ unit ∈ front, unit.isBracket = false

namespace Passes

variable {a b c : Units}

theorem refl (a : Units) : Passes a a := ⟨[], rfl, fun _ h => nomatch h⟩

theorem cons {unit : Lexeme} (hunit : unit.isBracket = false) (h : Passes a b) :
    Passes (unit :: a) b := by
  obtain ⟨front, rfl, hfront⟩ := h
  refine ⟨unit :: front, rfl, fun other hother => ?_⟩
  rcases List.mem_cons.mp hother with rfl | hother
  · exact hunit
  · exact hfront other hother

theorem trans (h₁ : Passes a b) (h₂ : Passes b c) : Passes a c := by
  obtain ⟨front, rfl, hfront⟩ := h₁
  obtain ⟨front', rfl, hfront'⟩ := h₂
  refine ⟨front ++ front', (List.append_assoc _ _ _).symm, fun unit hunit => ?_⟩
  rcases List.mem_append.mp hunit with hunit | hunit
  · exact hfront unit hunit
  · exact hfront' unit hunit

theorem suffix (h : Passes a b) : b <:+ a := by
  obtain ⟨front, rfl, -⟩ := h
  exact List.suffix_append _ _

end Passes

/-- A closing parenthesis stands on one side of the seam between two pieces of text. -/
def Sealed (rest more : Units) : Prop :=
  more.head? = some (.char ')') ∨ rest.getLast? = some (.char ')')

variable {rest more after : Units}

theorem Sealed.ne_nil_or (h : Sealed rest more) : rest ≠ [] ∨ more.head? = some (.char ')') := by
  rcases h with h | h
  · exact .inr h
  · refine .inl fun hnil => ?_
    rw [hnil] at h
    cases h

theorem Sealed.suffix (h : Sealed rest more) (hafter : after <:+ rest) (hne : after ≠ []) :
    Sealed after more := by
  refine h.imp_right fun hlast => ?_
  obtain ⟨front, rfl⟩ := hafter
  rw [List.getLast?_append, List.getLast?_eq_some_getLast hne, Option.some_or] at hlast
  rw [List.getLast?_eq_some_getLast hne]
  exact hlast

/-- A unit other than the closing parenthesis does not unseal a text. -/
theorem Sealed.tail {unit : Lexeme} (h : Sealed (unit :: rest) more) (hunit : unit ≠ .char ')') :
    Sealed rest more := by
  refine h.imp_right fun hlast => ?_
  cases rest with
  | nil =>
    simp only [List.getLast?_singleton, Option.some.injEq] at hlast
    exact absurd hlast hunit
  | cons next rest => simpa using hlast

/-! ## Rows of characters -/

section

variable {among : Char → Bool} (hamong : ∀ c ∈ brackets, among c = false)

include hamong

theorem isBracket_of_among {c : Char} (h : among c = true) : (Lexeme.char c).isBracket = false := by
  refine Bool.eq_false_iff.mpr fun hc => ?_
  rw [hamong c (List.contains_iff_mem.mp hc)] at h
  cases h

theorem ne_close_of_among {c : Char} (h : among c = true) : Lexeme.char c ≠ .char ')' := by
  rintro ⟨⟩
  rw [hamong ')' (by decide)] at h
  cases h

theorem takeUpTo_passes (count : Nat) (rest : Units) :
    Passes rest (takeUpTo among count rest).2 := by
  fun_induction takeUpTo among count rest with
  | case1 count c rest hc taken left cut ih =>
    rw [cut] at ih
    exact ih.cons (isBracket_of_among hamong hc)
  | case2 => exact Passes.refl _
  | case3 => exact Passes.refl _

theorem takeUpTo_append (count : Nat) (h : Sealed rest more) :
    takeUpTo among count (rest ++ more) =
      ((takeUpTo among count rest).1, (takeUpTo among count rest).2 ++ more) := by
  induction count generalizing rest with
  | zero => simp [takeUpTo]
  | succ count ih =>
    cases rest with
    | nil =>
      rcases h.ne_nil_or with hne | hmore
      · exact absurd rfl hne
      · obtain ⟨more, rfl⟩ := List.head?_eq_some_iff.mp hmore
        simp [takeUpTo, hamong ')' (by decide)]
    | cons unit rest =>
      cases unit with
      | pair c => simp [takeUpTo]
      | char c =>
        simp only [List.cons_append, takeUpTo]
        by_cases hc : among c = true
        · have hunit := ne_close_of_among hamong hc
          simp only [hc, if_true, ih (h.tail hunit)]
        · simp only [hc, if_false, Bool.false_eq_true, List.cons_append]

theorem takeAll_passes (rest : Units) : Passes rest (takeAll among rest).2 := by
  fun_induction takeAll among rest with
  | case1 c rest hc taken left cut ih =>
    rw [cut] at ih
    exact ih.cons (isBracket_of_among hamong hc)
  | case2 => exact Passes.refl _
  | case3 => exact Passes.refl _

theorem takeAll_append_right (h : Sealed rest more) :
    takeAll among (rest ++ more) = ((takeAll among rest).1, (takeAll among rest).2 ++ more) := by
  induction rest with
  | nil =>
    rcases h.ne_nil_or with hne | hmore
    · exact absurd rfl hne
    · obtain ⟨more, rfl⟩ := List.head?_eq_some_iff.mp hmore
      simp [takeAll, hamong ')' (by decide)]
  | cons unit rest ih =>
    cases unit with
    | pair c => simp [takeAll]
    | char c =>
      simp only [List.cons_append, takeAll]
      by_cases hc : among c = true
      · have hunit := ne_close_of_among hamong hc
        simp only [hc, if_true, ih (h.tail hunit)]
      · simp only [hc, if_false, Bool.false_eq_true, List.cons_append]

theorem Sealed.takeAll (h : Sealed rest more) :
    Sealed (takeAll among rest).2 more := by
  induction rest with
  | nil => exact h
  | cons unit rest ih =>
    cases unit with
    | pair c => exact h
    | char c =>
      simp only [Units.takeAll]
      by_cases hc : among c = true
      · have hunit := ne_close_of_among hamong hc
        simp only [hc, if_true]
        exact ih (h.tail hunit)
      · simp only [hc, if_false, Bool.false_eq_true]
        exact h

end

theorem accept_eq_some {c : Char} (h : rest.accept c = some after) : rest = .char c :: after := by
  cases rest with
  | nil => cases h
  | cons unit rest =>
    cases unit with
    | pair d => cases h
    | char d =>
      simp only [accept, beq_iff_eq, Option.ite_none_right_eq_some, Option.some.injEq] at h
      rw [h.1, h.2]

theorem accept_append {c : Char} (hc : c ≠ ')') (h : Sealed rest more) :
    accept c (rest ++ more) = (rest.accept c).map (· ++ more) := by
  cases rest with
  | nil =>
    rcases h.ne_nil_or with hne | hmore
    · exact absurd rfl hne
    · obtain ⟨more, rfl⟩ := List.head?_eq_some_iff.mp hmore
      simp [accept, Ne.symm hc]
  | cons unit rest =>
    cases unit with
    | pair d => rfl
    | char d =>
      simp only [List.cons_append, accept]
      split <;> rfl

/-! ## Names -/

theorem splitName_append (more : Units) {terminator : Char} {name : List Char}
    (h : splitName terminator rest = (name, some after)) :
    after <:+ rest ∧ splitName terminator (rest ++ more) = (name, some (after ++ more)) := by
  induction rest generalizing name with
  | nil => cases h
  | cons unit rest ih =>
    simp only [List.cons_append, splitName] at h ⊢
    split at h
    · next hunit =>
      cases h
      rw [if_pos hunit]
      exact ⟨List.suffix_cons _ _, rfl⟩
    · next hunit =>
      obtain ⟨hname, hafter⟩ := Prod.mk.inj h
      obtain ⟨hsuffix, hmore⟩ := ih (Prod.ext rfl hafter)
      rw [if_neg hunit, hmore, ← hname]
      exact ⟨hsuffix.trans (List.suffix_cons _ _), rfl⟩

theorem readName_append (more : Units) {terminator : Char} {kind : String} {name : List Char}
    (h : readName terminator kind rest = .ok (name, after)) :
    after <:+ rest ∧ readName terminator kind (rest ++ more) = .ok (name, after ++ more) := by
  unfold readName at h
  split at h
  · cases h
  · cases h
  · cases h
  · next name' after' hne hsplit =>
    cases h
    obtain ⟨hsuffix, hmore⟩ := splitName_append more hsplit
    refine ⟨hsuffix, ?_⟩
    unfold readName
    rw [hmore]
    split <;> simp_all

theorem splitName_passes {terminator : Char} {name : List Char}
    (h : splitName terminator rest = (name, some after)) (hname : ∀ c ∈ name, c ∉ brackets) :
    Passes rest (.char terminator :: after) := by
  induction rest generalizing name with
  | nil => cases h
  | cons unit rest ih =>
    simp only [splitName] at h
    split at h
    · next hunit =>
      cases h
      obtain rfl := eq_of_beq hunit
      exact Passes.refl _
    · obtain ⟨hchars, hafter⟩ := Prod.mk.inj h
      rw [← hchars] at hname
      refine (ih (Prod.ext rfl hafter) fun c hc => hname c (List.mem_append_right _ hc)).cons ?_
      cases unit with
      | pair c => rfl
      | char c =>
        have hc := hname c (List.mem_append_left _ (List.mem_singleton.mpr rfl))
        simpa [Lexeme.isBracket] using hc

theorem readName_passes {terminator : Char} {kind : String} {name : List Char}
    (h : readName terminator kind rest = .ok (name, after)) (hname : ∀ c ∈ name, c ∉ brackets) :
    Passes rest (.char terminator :: after) := by
  unfold readName at h
  split at h
  · cases h
  · cases h
  · cases h
  · next hsplit =>
    cases h
    exact splitName_passes hsplit hname

end Units

namespace Text

/-- No entry of the table has the byte of a bracket in its name. -/
theorem characterNames_bytes : (characterNames.all fun entry =>
    entry.1.toByteArray.data.toList.all fun byte =>
      byte != 40 && byte != 41 && byte != 91 && byte != 93) = true := by
  decide +kernel

/-- No character has a bracket in its name. The names are compared by their bytes, which are at hand
without decoding them. -/
theorem not_mem_brackets_of_characterNamed? {name : List Char} {code : Nat}
    (h : characterNamed? (String.ofList name) = some code) : ∀ c ∈ name, c ∉ brackets := by
  intro c hc hbracket
  have hupper : ∀ c ∈ brackets, c.toUpper = c := forall_mem_of_all (by decide)
  have hbyte : ∀ c ∈ brackets, ∃ byte ∈ String.utf8EncodeChar c,
      (byte != 40 && byte != 41 && byte != 91 && byte != 93) = false :=
    forall_mem_of_all (by decide)
  obtain ⟨byte, hmem, hbad⟩ := hbyte c hbracket
  obtain ⟨front, back, htable, -⟩ := List.lookup_eq_some_iff.mp h
  have hentry : ((String.ofList name).toUpper, code) ∈ characterNames := by
    rw [htable]
    exact List.mem_append_right _ List.mem_cons_self
  have hbytes := List.all_eq_true.mp (List.all_eq_true.mp characterNames_bytes _ hentry) byte
  have hshown : (String.ofList name).toUpper = String.ofList (name.map Char.toUpper) := by
    apply String.toList_injective
    rw [String.toUpper, String.toList_map, String.toList_ofList, String.toList_ofList]
  rw [hbytes] at hbad
  · cases hbad
  · rw [hshown, String.toByteArray_ofList]
    simp only [List.utf8Encode, List.data_toByteArray, List.mem_flatMap]
    exact ⟨c, List.mem_map.mpr ⟨c, hc, hupper c hbracket⟩, hmem⟩

end Text

end RequestRouter
