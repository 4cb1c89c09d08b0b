import RequestRouter.Proofs.Matching.Takes
import RequestRouter.Regex.Search

/-!
# What a term takes, seen through a window

A term without anchors does not see what stands around the piece that it takes: what it takes in a
text it also takes in a window of the text that holds the piece (`Regex.Takes.restrict`). The other
direction (`Regex.Takes.extend`) needs that nothing in the term is possessive, since at the end of
the window a possessive repetition stops that would go on in the text.
-/

namespace RequestRouter

/-- One text stands in another, from a position on. -/
structure Window (text : Array Char) (start : Nat) (part : Array Char) : Prop where
  fits : start + part.size ≤ text.size
  agree : ∀ i, i < part.size → part[i]? = text[start + i]?

namespace Window

theorem ofSlice {text : Array Char} {first last : Nat} (hle : first ≤ last) (hsize :
    last ≤ text.size) :
    Window text first (slice text first last).toArray := by
  have hpart : (slice text first last).toArray = text.extract first last :=
    Array.toArray_toList
  rw [hpart]
  constructor
  · simp only [Array.size_extract]
    omega
  · intro i hi
    simp only [Array.size_extract] at hi
    rw [Array.getElem?_extract]
    split
    · rfl
    · omega

theorem size_ofSlice {text : Array Char} {first last : Nat} (hsize : last ≤ text.size) :
    (slice text first last).toArray.size = last - first := by
  simp only [slice, List.size_toArray, Array.length_toList, Array.size_extract]
  omega

variable {text part : Array Char} {start : Nat} (hw : Window text start part)

include hw

theorem passesAt_eq {test : CharTest} {pos : Nat} (hpos : pos < part.size) :
    test.passesAt part pos = test.passesAt text (start + pos) := by
  unfold CharTest.passesAt
  rw [hw.agree pos hpos]

end Window

namespace Regex

/-- No place in the text is asked for. -/
def Unanchored : Regex → Prop
  | .empty | .one _ => True
  | .seq a b | .either a b => a.Unanchored ∧ b.Unanchored
  | .alternative r | .group _ r | .loop _ _ _ r => r.Unanchored
  | _ => False

/-- No repetition is possessive. -/
def Yielding : Regex → Prop
  | .empty | .one _ | .place _ => True
  | .seq a b | .either a b => a.Yielding ∧ b.Yielding
  | .alternative r | .group _ r => r.Yielding
  | .loop greed _ _ r => greed ≠ .possessive ∧ r.Yielding
  | _ => False

section

variable {text part : Array Char} {start : Nat} (hw : Window text start part)

include hw

theorem Takes.restrict {r : Regex} (hr : r.Ordinary) (hu : r.Unanchored) {p q : Nat}
    (h : r.Takes text (start + p) (start + q)) (hq : q ≤ part.size) : r.Takes part p q := by
  induction r generalizing p q with
  | empty => exact Nat.add_left_cancel h
  | one test =>
    obtain ⟨hpass, hnext⟩ := h
    obtain rfl : p + 1 = q := by omega
    refine ⟨?_, rfl⟩
    rw [hw.passesAt_eq hq]
    exact hpass
  | place => exact hu.elim
  | seq a b iha ihb =>
    obtain ⟨m, ha, hb⟩ := h
    have hle := ha.le
    have hle' := hb.le
    obtain ⟨m, rfl⟩ : ∃ n, m = start + n := ⟨m - start, by omega⟩
    exact ⟨m, iha hr.1 hu.1 ha (by omega), ihb hr.2 hu.2 hb hq⟩
  | alternative r ih | group _ r ih =>
    have hr : r.Ordinary := hr
    have hu : r.Unanchored := hu
    have hbody : r.Takes text (start + p) (start + q) := h
    exact ih hr hu hbody hq
  | either a b iha ihb =>
    rcases h with ha | hb
    · exact .inl (iha hr.1 hu.1 ha hq)
    · exact .inr (ihb hr.2 hu.2 hb hq)
  | loop greed least most r ih =>
    obtain ⟨n, hleast, hmost, hsteps, hmaximal⟩ := h
    refine ⟨n, hleast, hmost, ?_, fun hgreed => (hmaximal hgreed).imp_right fun hno next hnext =>
      ?_⟩
    · clear hleast hmost hmaximal
      induction n generalizing p with
      | zero => exact Nat.add_left_cancel hsteps
      | succ n ihn =>
        obtain ⟨m, hm, hrest⟩ := hsteps
        have hle := hm.le
        have hle' := hrest.le fun _ _ => Takes.le
        obtain ⟨m, rfl⟩ : ∃ n, m = start + n := ⟨m - start, by omega⟩
        exact ⟨m, ih hr.1 hu hm (by omega), ihn hrest⟩
    · -- one more repetition of the test in the window would be one in the text
      obtain ⟨test, htest⟩ := Option.isSome_iff_exists.mp (hr.2.2 hgreed)
      obtain rfl := eq_one_of_test? htest
      obtain ⟨hpass, -⟩ := hnext
      rw [hw.passesAt_eq (CharTest.lt_of_passesAt hpass)] at hpass
      exact hno _ ⟨hpass, rfl⟩
  | atomic | look | again | ifGroup => exact hu.elim

/-- What a term takes in a window it takes in the text. -/
theorem Takes.extend {r : Regex} (hu : r.Unanchored) (hy : r.Yielding) {p q : Nat}
    (h : r.Takes part p q) : r.Takes text (start + p) (start + q) := by
  induction r generalizing p q with
  | empty => exact congrArg (start + ·) h
  | one test =>
    obtain ⟨hpass, rfl⟩ := h
    refine ⟨?_, rfl⟩
    rw [← hw.passesAt_eq (CharTest.lt_of_passesAt hpass)]
    exact hpass
  | place => exact hu.elim
  | seq a b iha ihb =>
    obtain ⟨m, ha, hb⟩ := h
    exact ⟨start + m, iha hu.1 hy.1 ha, ihb hu.2 hy.2 hb⟩
  | alternative r ih | group _ r ih =>
    have hu : r.Unanchored := hu
    have hy : r.Yielding := hy
    have hbody : r.Takes part p q := h
    exact ih hu hy hbody
  | either a b iha ihb =>
    rcases h with ha | hb
    · exact .inl (iha hu.1 hy.1 ha)
    · exact .inr (ihb hu.2 hy.2 hb)
  | loop greed least most r ih =>
    obtain ⟨n, hleast, hmost, hsteps, -⟩ := h
    refine ⟨n, hleast, hmost, ?_, fun hgreed => absurd hgreed hy.1⟩
    clear hleast hmost
    induction n generalizing p with
    | zero => exact congrArg (start + ·) hsteps
    | succ n ihn =>
      obtain ⟨m, hm, hrest⟩ := hsteps
      exact ⟨start + m, ih hu hy.2 hm, ihn hrest⟩
  | atomic | look | again | ifGroup => exact hu.elim

end

theorem Takes.add_least_le {text : Array Char} {r : Regex} (groups : Nat → Width) {p q : Nat}
    (h : r.Takes text p q) : p + (r.width groups).least ≤ q := by
  induction r generalizing p q with
  | empty => exact Nat.le_of_eq h
  | one => exact Nat.le_of_eq h.2
  | place => exact Nat.le_of_eq h.2
  | seq a b iha ihb =>
    obtain ⟨m, ha, hb⟩ := h
    have hfirst := iha ha
    have hsecond := ihb hb
    simp only [width, Width.add]
    omega
  | alternative r ih | group _ r ih => exact ih h
  | either a b iha ihb =>
    simp only [width, Width.join]
    rcases h with ha | hb
    · have hfirst := iha ha
      omega
    · have hsecond := ihb hb
      omega
  | loop greed least most r ih =>
    obtain ⟨n, hleast, -, hsteps, -⟩ := h
    have hwidth := hsteps.add_mul_le fun _ _ => ih
    have hmul := Nat.mul_le_mul_right (r.width groups).least hleast
    simp only [width, Width.times]
    rw [Nat.mul_comm]
    omega
  | atomic | look | again | ifGroup => exact h.elim

end Regex

end RequestRouter
