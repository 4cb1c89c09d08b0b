import RequestRouter.Proofs.Reading.Chain
import RequestRouter.Proofs.Reading.Verbatim

/-!
# What parts in a row take

A row of parts takes the pieces of its parts one after another (`Part.takes_termOf`). A row of
letters takes the piece of the text that spells it (`Part.takes_letters`), and groups numbered
further on take what they took before (`Part.takes_map_shift`).
-/

namespace RequestRouter

/-! ## Pieces of a text -/

section Slices

variable {text : Array Char} {p m q : Nat}

theorem slice_self (text : Array Char) (p : Nat) : slice text p p = [] := by
  simp [slice]

theorem slice_append (hpm : p ≤ m) (hmq : m ≤ q) :
    slice text p m ++ slice text m q = slice text p q := by
  rw [slice, slice, slice, ← Array.toList_append, Array.extract_append_extract]
  congr 2 <;> omega

theorem length_slice (hq : q ≤ text.size) : (slice text p q).length = q - p := by
  simp only [slice, Array.length_toList, Array.size_extract]
  omega

theorem slice_succ {c : Char} : slice text p (p + 1) = [c] ↔ text[p]? = some c := by
  rw [slice, Array.toList_extract, List.extract_eq_take_drop, Nat.add_sub_cancel_left,
    List.take_one,
    List.head?_drop, Array.getElem?_toList]
  cases text[p]? <;> simp

theorem slice_eq_append {a b : List Char} (hle : p ≤ q) (hq : q ≤ text.size)
    (h : slice text p q = a ++ b) :
    ∃ m, p ≤ m ∧ m ≤ q ∧ slice text p m = a ∧ slice text m q = b := by
  have hlength := length_slice (p := p) hq
  rw [h, List.length_append] at hlength
  have hleft : (slice text p (p + a.length)).length = a.length := by
    rw [length_slice (by omega)]
    omega
  have hsplit : slice text p (p + a.length) ++ slice text (p + a.length) q = slice text p q :=
    slice_append (by omega) (by omega)
  rw [h] at hsplit
  obtain ⟨ha, hb⟩ := List.append_inj hsplit hleft
  exact ⟨p + a.length, by omega, by omega, ha, hb⟩

end Slices

namespace Part

variable {text : Array Char} {p q : Nat} {parts : List Part} {part : Part}

/-- Parts take pieces of a text one after another. -/
def Takes (text : Array Char) : List Part → (first last : Nat) → Prop
  | [], p, q => p = q
  | part :: rest, p, q => ∃ m, part.regex.Takes text p m ∧ Takes text rest m q

theorem termOf_cons (hne : parts ≠ []) :
    termOf (part :: parts) = .seq part.regex (termOf parts) := by
  cases parts with
  | nil => exact absurd rfl hne
  | cons next rest => rfl

theorem takes_termOf : (termOf parts).Takes text p q ↔ Takes text parts p q := by
  induction parts generalizing p with
  | nil => exact Iff.rfl
  | cons part rest ih =>
    by_cases hrest : rest = []
    · subst hrest
      simp only [Takes, exists_eq_right]
      exact Iff.rfl
    · rw [termOf_cons hrest]
      simp only [Takes, Regex.Takes, ih]

theorem takes_append {a b : List Part} :
    Takes text (a ++ b) p q ↔ ∃ m, Takes text a p m ∧ Takes text b m q := by
  induction a generalizing p with
  | nil => simp [Takes]
  | cons part rest ih =>
    simp only [List.cons_append, Takes, ih]
    constructor
    · rintro ⟨m, hpart, n, hrest, hb⟩
      exact ⟨n, ⟨m, hpart, hrest⟩, hb⟩
    · rintro ⟨n, ⟨m, hpart, hrest⟩, hb⟩
      exact ⟨m, hpart, n, hrest, hb⟩

/-- What parts take does not depend on the numbers of their groups. -/
theorem takes_map_shift {count : Nat} :
    Takes text (parts.map (shift count)) p q ↔ Takes text parts p q := by
  rw [← takes_termOf, termOf_shift, Regex.takes_shift, takes_termOf]

theorem Takes.le (h : Takes text parts p q) : p ≤ q := (takes_termOf.mpr h).le

theorem Takes.le_size (h : Takes text parts p q) (hp : p ≤ text.size) : q ≤ text.size :=
  (takes_termOf.mpr h).le_size hp

theorem letter_passesAt {c : Char} : (CharTest.letter c).passesAt text p = true ↔ text[p]? =
    some c := by
  unfold CharTest.passesAt
  cases text[p]? with
  | none => simp
  | some d =>
    simp only [CharTest.letter, CharTest.holds, Folding.same, Folding.cased, Option.any_some,
      Option.some.injEq, Bool.false_eq_true, if_false, bne_iff_ne, ne_eq, Bool.not_eq_false,
      beq_iff_eq]
    constructor
    · exact fun h => Char.toNat_inj.mp h
    · rintro rfl
      rfl

theorem takes_letters {letters : List Char} (hp : p ≤ text.size) :
    Takes text (letters.map letter) p q ↔ p ≤ q ∧ q ≤ text.size ∧ slice text p q = letters := by
  induction letters generalizing p with
  | nil =>
    constructor
    · rintro rfl
      exact ⟨Nat.le_refl _, hp, slice_self _ _⟩
    · rintro ⟨hle, hq, hslice⟩
      have hlength := length_slice (p := p) hq
      rw [hslice, List.length_nil] at hlength
      show p = q
      omega
  | cons c letters ih =>
    constructor
    · rintro ⟨_, ⟨hpass, rfl⟩, hrest⟩
      have hfirst := slice_succ.mpr (letter_passesAt.mp hpass)
      obtain ⟨hle, hq, hslice⟩ := (ih (CharTest.lt_of_passesAt hpass)).mp hrest
      refine ⟨by omega, hq, ?_⟩
      rw [← slice_append (Nat.le_succ p) hle, hfirst, hslice]
      rfl
    · rintro ⟨hle, hq, hslice⟩
      obtain ⟨m, hpm, hmq, hfirst, hrest⟩ := slice_eq_append (a := [c]) hle hq hslice
      have hlength := length_slice (p := p) (Nat.le_trans hmq hq)
      rw [hfirst, List.length_singleton] at hlength
      obtain rfl : m = p + 1 := by omega
      have hpass := letter_passesAt.mpr (slice_succ.mp hfirst)
      exact ⟨p + 1, ⟨hpass, rfl⟩, (ih (Nat.le_trans hmq hq)).mpr ⟨hmq, hq, hrest⟩⟩

theorem takes_optional {body : Regex} :
    (Regex.loop .greedy 0 (some 1) body).Takes text p q ↔ p = q ∨ body.Takes text p q := by
  constructor
  · rintro ⟨n, -, hmost, hsteps, -⟩
    have hn : n ≤ 1 := by simpa using hmost
    match n, hn with
    | 0, _ => exact .inl hsteps
    | 1, _ =>
      obtain ⟨_, hbody, rfl⟩ := hsteps
      exact .inr hbody
  · rintro (rfl | hbody)
    · exact ⟨0, Nat.le_refl _, rfl, rfl, fun h => (nomatch h)⟩
    · exact ⟨1, Nat.zero_le _, rfl, ⟨q, hbody, rfl⟩, fun h => (nomatch h)⟩

/-! ## The search through parts -/

theorem ordinary_termOf (h : ∀ part ∈ parts, part.regex.Ordinary) : (termOf parts).Ordinary := by
  induction parts with
  | nil => trivial
  | cons part rest ih =>
    have hpart := h part List.mem_cons_self
    have hrest := ih fun part hp => h part (List.mem_cons_of_mem _ hp)
    by_cases hnil : rest = []
    · subst hnil
      exact hpart
    · rw [termOf_cons hnil]
      exact ⟨hpart, hrest⟩

theorem keepsSingly_termOf :
    (termOf parts).keepsSingly = parts.all fun part => part.regex.keepsSingly := by
  induction parts with
  | nil => rfl
  | cons part rest ih =>
    by_cases hnil : rest = []
    · subst hnil
      simp [termOf, Regex.seqAll]
    · rw [termOf_cons hnil, List.all_cons, ← ih]
      rfl

theorem numbered_termOf_concat {possessive : Bool} {first last : Nat}
    (h : Chain possessive first last parts) (hpart : part.regex.Numbered last last) :
    (termOf (parts ++ [part])).Numbered first last := by
  induction parts generalizing first with
  | nil =>
    obtain rfl : first = last := h
    exact hpart
  | cons next rest ih =>
    obtain ⟨middle, hnext, hrest⟩ := h
    rw [List.cons_append, termOf_cons (by simp)]
    exact ⟨middle, hnext.numbered, ih hrest⟩

theorem recorded_termOf {marks : Marks} :
    (termOf parts).Recorded text marks ↔ ∀ part ∈ parts, part.regex.Recorded text marks := by
  induction parts with
  | nil => simp [termOf, Regex.seqAll, Regex.Recorded]
  | cons part rest ih =>
    by_cases hnil : rest = []
    · subst hnil
      simp [termOf, Regex.seqAll]
    · rw [termOf_cons hnil, List.forall_mem_cons, ← ih]
      rfl

theorem marked_termOf {number : Nat} (hpart : part ∈ parts) (h : part.regex.Marked number) :
    (termOf parts).Marked number := by
  induction parts with
  | nil => cases hpart
  | cons next rest ih =>
    by_cases hnil : rest = []
    · subst hnil
      obtain rfl := List.mem_singleton.mp hpart
      exact h
    · rw [termOf_cons hnil]
      rcases List.mem_cons.mp hpart with rfl | hpart
      · exact .inl h
      · exact .inr (ih hpart)

end Part

end RequestRouter
