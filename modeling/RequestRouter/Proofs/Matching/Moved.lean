import RequestRouter.Proofs.Reading.Renumber

/-!
# Terms that run further on

The end of a longer text is matched as it would be matched by itself. A term with its groups numbered
further on runs there in step with the term on the shorter text: attempts end alike, and what they
leave behind is moved by as many characters as stand in front (`Regex.carries_run`). Terms that look
behind are left out, since they can see what stands in front, and so is the very start of the text.

Both runs are kept in step by what the shorter one does. It never goes back behind the place where it
began, and it takes no less than the least width of the term, so a loop needs no more repetitions than
there are characters left.
-/

namespace RequestRouter

/-- A text as the end of a longer one, where the groups of what stands in front have left their marks.
-/
structure Move where
  text : Array Char
  longer : Array Char
  offset : Nat
  marks : Marks
  groups : Nat
  size : longer.size = text.size + offset
  get : ∀ pos : Nat, longer[pos + offset]? = text[pos]?
  places : marks.length = 2 * groups

namespace Regex

/-- The term never looks behind, its groups have numbers from one on, and it takes a group again only
if `again` is set. -/
def Onward (again : Bool) : Regex → Prop
  | .empty | .one _ | .place _ => True
  | .seq a b | .either a b => a.Onward again ∧ b.Onward again
  | .alternative r | .atomic r | .loop _ _ _ r => r.Onward again
  | .group number r => 0 < number ∧ r.Onward again
  | .look behind _ r => behind = none ∧ r.Onward again
  | .again _ number => again = true ∧ 0 < number
  | .ifGroup number a b => 0 < number ∧ a.Onward again ∧ b.Onward again

/-- The least number of characters that a term takes, where a group that is taken again may have taken
nothing. -/
def least (r : Regex) : Nat := (r.width fun _ => .zero).least

theorem least_seq (a b : Regex) : (seq a b).least = a.least + b.least := rfl

theorem least_either (a b : Regex) : (either a b).least = min a.least b.least := rfl

theorem least_ifGroup (number : Nat) (a b : Regex) :
    (ifGroup number a b).least = min a.least b.least := rfl

theorem least_loop (greed : Greed) (least : Nat) (most : Option Nat) (r : Regex) :
    (loop greed least most r).least = r.least * least := rfl

theorem lead_shift {count : Nat} (r : Regex) (next : Lead) :
    (r.shift count).lead next = r.lead next := by
  induction r generalizing next with
  | seq a b iha ihb => simp only [shift, lead, iha, ihb]
  | _ => rfl

theorem shift_eq_empty {count : Nat} {r : Regex} : r.shift count = .empty ↔ r = .empty := by
  cases r <;> simp [shift]

end Regex

namespace Move

variable (m : Move)

/-- A trail as it is left on the longer text. -/
def trail (t : Trail) : Trail :=
  ⟨t.head + m.offset, m.marks ++ t.marks.map (Option.map (· + m.offset))⟩

/-! ## Marks -/

theorem trail_move (t : Trail) (pos : Nat) :
    (m.trail t).move (pos + m.offset) = m.trail (t.move pos) := rfl

theorem trail_back (t after : Trail) (inLoop : Bool) :
    (m.trail t).back inLoop (m.trail after) = m.trail (t.back inLoop after) := by
  cases inLoop with
  | true => rfl
  | false =>
    have hmarks : m.marks.take (m.marks.length + t.marks.length) = m.marks :=
      List.take_of_length_le (Nat.le_add_right _ _)
    simp [Trail.back, trail, List.take_append, List.map_take, hmarks]

theorem put_append (marks : Marks) (place pos : Nat) :
    (m.marks ++ marks.map (Option.map (· + m.offset))).put (place + 2 * m.groups) (pos + m.offset) =
      m.marks ++ (marks.put place pos).map (Option.map (· + m.offset)) := by
  have hmissing : place + 2 * m.groups + 1 - (m.marks.length + marks.length) =
      place + 1 - marks.length := by
    rw [m.places]
    omega
  have hle : m.marks.length ≤ place + 2 * m.groups := by
    rw [m.places]
    omega
  have hplace : place + 2 * m.groups - m.marks.length = place := by
    rw [m.places]
    omega
  rw [Marks.put, Marks.put, List.length_append, List.length_map, hmissing, List.append_assoc,
    List.set_append_right _ _ hle, hplace, List.map_set, List.map_append, List.map_replicate]
  rfl

theorem trail_mark_open {number : Nat} (hnumber : 0 < number) (t : Trail) (pos : Nat) :
    (m.trail t).mark (Marks.openPlace (number + m.groups)) (pos + m.offset) =
      m.trail (t.mark (Marks.openPlace number) pos) := by
  have hplace : Marks.openPlace (number + m.groups) = Marks.openPlace number + 2 * m.groups := by
    simp only [Marks.openPlace]
    omega
  rw [hplace, Trail.mark, trail, m.put_append]
  rfl

theorem trail_mark_close {number : Nat} (hnumber : 0 < number) (t : Trail) (pos : Nat) :
    (m.trail t).mark (Marks.closePlace (number + m.groups)) (pos + m.offset) =
      m.trail (t.mark (Marks.closePlace number) pos) := by
  have hplace : Marks.closePlace (number + m.groups) =
      Marks.closePlace number + 2 * m.groups := by
    simp only [Marks.closePlace]
    omega
  rw [hplace, Trail.mark, trail, m.put_append]
  rfl

theorem pair?_trail {number : Nat} (hnumber : 0 < number) (t : Trail) :
    (m.trail t).marks.pair? (number + m.groups) =
      (t.marks.pair? number).map fun span => (span.1 + m.offset, span.2 + m.offset) := by
  have hget : ∀ place, (m.trail t).marks[place + 2 * m.groups]? =
      (t.marks[place]?).map (Option.map (· + m.offset)) := by
    intro place
    have hle : m.marks.length ≤ place + 2 * m.groups := by
      rw [m.places]
      omega
    rw [trail, List.getElem?_append_right hle, m.places, Nat.add_sub_cancel, List.getElem?_map]
  have hopen : Marks.openPlace (number + m.groups) = Marks.openPlace number + 2 * m.groups := by
    simp only [Marks.openPlace]
    omega
  have hclose : Marks.closePlace (number + m.groups) =
      Marks.closePlace number + 2 * m.groups := by
    simp only [Marks.closePlace]
    omega
  rw [Marks.pair?, Marks.pair?, hopen, hclose, hget, hget]
  rcases t.marks[Marks.openPlace number]? with _ | _ | first
  · rfl
  · rfl
  · rcases t.marks[Marks.closePlace number]? with _ | _ | last <;> rfl

theorem span_trail {number : Nat} (hnumber : 0 < number) (t : Trail) :
    (m.trail t).marks.span (number + m.groups) =
      (t.marks.span number).map fun span => (span.1 + m.offset, span.2 + m.offset) := by
  rw [Marks.span, Marks.span, m.pair?_trail hnumber]
  cases t.marks.pair? number with
  | none => rfl
  | some span =>
    obtain ⟨first, last⟩ := span
    by_cases hle : first ≤ last <;> simp [Option.filter, hle]

/-- A group closes before it opens in both rows of marks. -/
theorem isCrossed_trail {number : Nat} (hnumber : 0 < number) (t : Trail) :
    (m.trail t).marks.isCrossed (number + m.groups) = t.marks.isCrossed number := by
  rw [Marks.isCrossed, Marks.isCrossed, m.pair?_trail hnumber]
  cases t.marks.pair? number with
  | none => rfl
  | some span => simp

/-! ## Tests on the text -/

theorem passesAt_eq (test : CharTest) (pos : Nat) :
    test.passesAt m.longer (pos + m.offset) = test.passesAt m.text pos := by
  rw [CharTest.passesAt, m.get, CharTest.passesAt]

theorem admits_eq (lead : Lead) (pos : Nat) :
    lead.admits m.longer (pos + m.offset) = lead.admits m.text pos := by
  simp only [Lead.admits, m.passesAt_eq]

theorem follows_eq (lead : Lead) (pos : Nat) :
    lead.follows m.longer (pos + m.offset) = lead.follows m.text pos := by
  simp only [Lead.follows, m.passesAt_eq]

/-- A condition on a place is the same in both texts, but for the start of the shorter one. -/
theorem holds_eq (anchor : Anchor) {pos : Nat} (hfirst : 0 < pos) (hlast : pos ≤ m.text.size) :
    anchor.holds m.longer (pos + m.offset) = anchor.holds m.text pos := by
  have hstart : (pos + m.offset == 0) = (pos == 0) := by
    rw [beq_eq_false_iff_ne.mpr (by omega), beq_eq_false_iff_ne.mpr (by omega)]
  have hend : (pos + m.offset == m.longer.size) = (pos == m.text.size) := by
    rw [m.size, Bool.eq_iff_iff, beq_iff_eq, beq_iff_eq]
    omega
  have hlast' : (pos + m.offset + 1 == m.longer.size) = (pos + 1 == m.text.size) := by
    rw [m.size, Bool.eq_iff_iff, beq_iff_eq, beq_iff_eq]
    omega
  have hbefore : pos + m.offset - 1 = pos - 1 + m.offset := by omega
  have hempty : m.longer.isEmpty = m.text.isEmpty := by
    rw [Bool.eq_iff_iff, Array.isEmpty_iff_size_eq_zero, Array.isEmpty_iff_size_eq_zero, m.size]
    omega
  cases anchor with
  | textStart => exact hstart
  | lineStart => simp only [Anchor.holds, hstart, hbefore, m.get]
  | textEnd => exact hend
  | lastLineEnd => simp only [Anchor.holds, hend, hlast', m.get]
  | lineEnd => simp only [Anchor.holds, hend, m.get]
  | wordEdge complement ascii =>
    have hstart' : (pos + m.offset != 0) = (pos != 0) := by rw [bne, bne, hstart]
    simp only [Anchor.holds, hempty, hstart', hbefore, m.get]

theorem agrees_eq (folding : Folding) (first pos length : Nat) :
    agrees m.longer folding (first + m.offset) (pos + m.offset) length =
      agrees m.text folding first pos length := by
  induction length generalizing first pos with
  | zero => rfl
  | succ length ih =>
    simp only [agrees, m.get]
    rw [Nat.add_right_comm first, Nat.add_right_comm pos, ih]

theorem le_size_of_agrees {text : Array Char} {folding : Folding} {first pos length : Nat}
    (h : agrees text folding first pos length = true) (hpos : pos ≤ text.size) :
    pos + length ≤ text.size := by
  induction length generalizing first pos with
  | zero => exact hpos
  | succ length ih =>
    unfold agrees at h
    split at h
    · next hd =>
      have hlt := (Array.getElem?_eq_some_iff.mp hd).1
      have hrest := ih (Bool.and_eq_true_iff.mp h).2 hlt
      omega
    · cases h

/-! ## Attempts in step -/

/-- Two attempts that end alike. The head of a success is not set down before `top`, the one of a
failure not before `low`. -/
inductive Carries (low top : Nat) : Attempt → Attempt → Prop
  | matched {t : Trail} (htop : top ≤ t.head) (hsize : t.head ≤ m.text.size) :
      Carries low top (.matched t) (.matched (m.trail t))
  | failed {t : Trail} (hlow : low ≤ t.head) (hsize : t.head ≤ m.text.size) :
      Carries low top (.failed t) (.failed (m.trail t))

/-- What follows in the one text and in the other, at the same places from `first` on. -/
def Follows (low top first : Nat) (k k' : Cont) : Prop :=
  ∀ pos t, first ≤ pos → pos ≤ m.text.size → low ≤ t.head → t.head ≤ m.text.size →
    m.Carries low top (k pos t) (k' (pos + m.offset) (m.trail t))

variable {m} {low top first : Nat} {a a' : Attempt} {k k' : Cont}

theorem Follows.mono {later : Nat} (h : m.Follows low top first k k') (hle : first ≤ later) :
    m.Follows low top later k k' :=
  fun pos t hpos => h pos t (Nat.le_trans hle hpos)

theorem follows_done (m : Move) (low first : Nat) : m.Follows low first first .done .done :=
  fun _ _ hfirst hsize _ _ => .matched hfirst hsize

namespace Carries

theorem orElse (h : m.Carries low top a a') {other other' : Trail → Attempt}
    (hother : ∀ t, low ≤ t.head → t.head ≤ m.text.size →
      m.Carries low top (other t) (other' (m.trail t))) :
    m.Carries low top (a.orElse other) (a'.orElse other') := by
  cases h with
  | matched htop hsize => exact .matched htop hsize
  | failed hlow hsize => exact hother _ hlow hsize

/-- A failure that sets the head down at a place of its own. -/
theorem mapFailed_move (h : m.Carries low top a a') {pos : Nat} (hlow : low ≤ pos)
    (hsize : pos ≤ m.text.size) :
    m.Carries low top (a.mapFailed (·.move pos)) (a'.mapFailed (·.move (pos + m.offset))) := by
  cases h with
  | matched htop hend => exact .matched htop hend
  | failed => exact .failed hlow hsize

/-- A failure that goes back to an earlier trail. -/
theorem mapFailed_back (h : m.Carries low top a a') (t : Trail) (inLoop : Bool) :
    m.Carries low top (a.mapFailed (t.back inLoop)) (a'.mapFailed ((m.trail t).back inLoop)) := by
  refine h.orElse fun after hlow hsize => ?_
  rw [m.trail_back]
  exact .failed hlow hsize

end Carries

end Move

/-! ## Stretches -/

namespace Stretch

variable {m : Move} {low top : Nat} {attempt attempt' k k' : Cont} {test : CharTest}

theorem length_moved (test : CharTest) (limit pos : Nat) :
    length m.longer test limit (pos + m.offset) = length m.text test limit pos := by
  induction limit generalizing pos with
  | zero => rfl
  | succ limit ih => rw [length, length, m.passesAt_eq, Nat.add_right_comm pos, ih]

theorem limit_moved (most : Option Nat) (pos : Nat) :
    limit m.longer most (pos + m.offset) = limit m.text most pos := by
  unfold limit
  rw [m.size, Nat.add_sub_add_right]

theorem counted_moved (test : CharTest) (pos number : Nat) (t : Trail) :
    counted test (pos + m.offset) number (m.trail t) = m.trail (counted test pos number t) := by
  rw [counted, counted, Nat.add_right_comm pos]
  split <;> rfl

theorem carries_shrink {start extra : Nat}
    (h : ∀ pos t, start ≤ pos → pos ≤ start + extra → low ≤ t.head → t.head ≤ m.text.size →
      m.Carries low top (attempt pos t) (attempt' (pos + m.offset) (m.trail t)))
    {t : Trail} (hlow : low ≤ t.head) (hsize : t.head ≤ m.text.size) :
    m.Carries low top (shrink attempt start extra t)
      (shrink attempt' (start + m.offset) extra (m.trail t)) := by
  induction extra generalizing t with
  | zero => exact h start t (Nat.le_refl _) (Nat.le_refl _) hlow hsize
  | succ extra ih =>
    rw [shrink, shrink, Nat.add_right_comm start]
    have hfirst := h (start + (extra + 1)) t (Nat.le_add_right _ _) (Nat.le_refl _) hlow hsize
    refine hfirst.orElse fun after hlow hsize => ?_
    exact ih (fun pos t hstart hle => h pos t hstart (Nat.le_succ_of_le hle)) hlow hsize

theorem carries_grow {first : Nat} (most : Option Nat)
    (h : ∀ pos t, first ≤ pos → pos ≤ m.text.size → low ≤ t.head → t.head ≤ m.text.size →
      m.Carries low top (attempt pos t) (attempt' (pos + m.offset) (m.trail t)))
    (hle : low ≤ first) {left count pos : Nat} {t : Trail} (hfirst : first ≤ pos)
    (hleft : pos + left ≤ m.text.size) (hlow : low ≤ t.head) (hsize : t.head ≤ m.text.size) :
    m.Carries low top (grow m.text test most attempt left count pos t)
      (grow m.longer test most attempt' left count (pos + m.offset) (m.trail t)) := by
  induction left generalizing count pos t with
  | zero =>
    unfold grow
    split
    · exact .failed hlow hsize
    · exact (h pos t hfirst hleft hlow hsize).orElse fun after hlow hsize => .failed hlow hsize
  | succ left ih =>
    unfold grow
    split
    · exact .failed hlow hsize
    · refine (h pos t hfirst (by omega) hlow hsize).orElse fun after hlow hsize => ?_
      dsimp only
      rw [m.passesAt_eq]
      split
      · rw [counted_moved, Nat.add_right_comm pos]
        refine ih (by omega) (by omega) ?_ ?_
        · unfold counted
          split
          · exact Nat.le_trans hle (Nat.le_succ_of_le hfirst)
          · exact Nat.le_trans hle hfirst
        · unfold counted
          split
          · show pos + 1 ≤ _
            omega
          · show pos ≤ _
            omega
      · exact .failed hlow hsize

theorem carries_run (greed : Greed) {least : Nat} (most : Option Nat) (inLoop : Bool) (next : Lead)
    {pos : Nat} (hk : m.Follows low top (pos + least) k k') (hle : low ≤ pos)
    (hpos : pos ≤ m.text.size) {t : Trail} (hlow : low ≤ t.head) (hsize : t.head ≤ m.text.size) :
    m.Carries low top (run m.text test greed least most inLoop next k pos t)
      (run m.longer test greed least most inLoop next k' (pos + m.offset) (m.trail t)) := by
  have hshort : m.longer.size < pos + m.offset + least ↔ m.text.size < pos + least := by
    rw [m.size]
    omega
  unfold run
  simp only [hshort, limit_moved, length_moved, counted_moved]
  generalize hwanted : (if greed = .lazy then some least else most) = wanted
  generalize hnumber : length m.text test (limit m.text wanted pos) pos = number
  have hend : pos + number ≤ m.text.size := by
    have hlimit : limit m.text wanted pos ≤ m.text.size - pos := by
      unfold limit
      split
      · exact Nat.min_le_right _ _
      · exact Nat.le_refl _
    have hcount := (le_length_iff.mp (Nat.le_of_eq hnumber.symm)).1
    omega
  have hstart : ∀ t : Trail, low ≤ (counted test pos number t).head ∧
      (counted test pos number t).head ≤ m.text.size := by
    intro t
    unfold counted
    split
    · exact ⟨Nat.le_add_right_of_le hle, hend⟩
    · exact ⟨hle, hpos⟩
  obtain ⟨hlow', hsize'⟩ := hstart t
  split
  · exact .failed hlow hsize
  · split
    · exact .failed hlow' hsize'
    · next hleast =>
      cases greed with
      | greedy =>
        rw [Nat.add_right_comm pos]
        refine carries_shrink (fun q t hq hqe hlow hsize => ?_) hlow' hsize'
        unfold attemptGreedy
        rw [m.follows_eq]
        split
        · exact (hk q (t.move q) hq (by omega) (by show low ≤ q; omega)
            (by show q ≤ _; omega)).mapFailed_back _ _
        · exact .failed hlow hsize
      | lazy =>
        have hleft : m.longer.size - (pos + m.offset + least) = m.text.size - (pos + least) := by
          rw [m.size]
          omega
        simp only [hleft]
        rw [Nat.add_right_comm pos]
        refine carries_grow most (fun q t hq hqe hlow hsize => ?_) (Nat.le_add_right_of_le hle)
          (Nat.le_refl _) (by omega) hlow' hsize'
        unfold attemptLazy
        refine (hk q (t.move q) hq hqe (by show low ≤ q; omega) hqe).orElse fun after _ _ => ?_
        dsimp only
        rw [m.trail_back]
        exact .failed (by show low ≤ q; omega) hqe
      | possessive =>
        dsimp only
        rw [Nat.add_right_comm pos]
        exact hk (pos + number) _ (by omega) hend hlow' hsize'

end Stretch

/-! ## Loops -/

namespace Loop

variable {m : Move}

/-- Enough repetitions are left: those that must come, and two for each character that is left, since
at one place no more than one repetition is begun. -/
def Suffices (size least fuel count : Nat) (last : Option Nat) (pos : Nat) : Prop :=
  least - count + 2 * (size - pos) + (if last = some pos then 0 else 1) < fuel

section Suffices

variable {size least fuel count pos later : Nat} {last : Option Nat}

theorem suffices_fuelFor {text : Array Char} (h : size ≤ text.size) (least pos : Nat) :
    Suffices size least (fuelFor text least) 0 none pos := by
  have hsquare : 2 * (text.size + 2) ≤ (text.size + 2) * (text.size + 2) :=
    Nat.mul_le_mul_right _ (Nat.le_add_left 2 _)
  unfold Suffices fuelFor
  rw [if_neg (by rintro ⟨⟩)]
  omega

theorem Suffices.exists_fuel (h : Suffices size least fuel count last pos) :
    ∃ rest, fuel = rest + 1 :=
  Nat.exists_eq_add_one_of_ne_zero (by unfold Suffices at h; omega)

/-- After a repetition that had to come enough are left for the others. -/
theorem Suffices.required (h : Suffices size least (fuel + 1) count last pos)
    (hcount : count < least) (hle : pos ≤ later) (hsize : later ≤ size) :
    Suffices size least fuel (count + 1) last later := by
  unfold Suffices at h ⊢
  rcases Nat.eq_or_lt_of_le hle with rfl | hlt
  · omega
  · split at h <;> split <;> omega

/-- So they are after any other repetition, since the one before it had not begun where it did. -/
theorem Suffices.further (h : Suffices size least (fuel + 1) count last pos)
    (hcount : ¬ count < least) (hlast : last ≠ some pos) (hle : pos ≤ later)
    (hsize : later ≤ size) : Suffices size least fuel (count + 1) (some pos) later := by
  unfold Suffices at h ⊢
  rw [if_neg hlast] at h
  rcases Nat.eq_or_lt_of_le hle with rfl | hlt
  · rw [if_pos rfl]
    omega
  · split <;> omega

end Suffices

theorem mayGoOn_moved (most : Option Nat) (count : Nat) (last : Option Nat) (pos offset : Nat) :
    mayGoOn most count (last.map (· + offset)) (pos + offset) = mayGoOn most count last pos := by
  have hlast : (last.map (· + offset) != some (pos + offset)) = (last != some pos) := by
    rw [Bool.eq_iff_iff, bne_iff_ne, bne_iff_ne]
    cases last <;> simp
  rw [mayGoOn, mayGoOn, hlast]

theorem ne_of_mayGoOn {most : Option Nat} {count pos : Nat} {last : Option Nat}
    (h : mayGoOn most count last pos = true) : last ≠ some pos :=
  bne_iff_ne.mp (Bool.and_eq_true_iff.mp h).2

/-- A repetition that had to come brings the loop nearer to where it may end. -/
theorem goal_le {goal width least count pos later : Nat}
    (h : goal ≤ pos + (least - count) * width) (hcount : count < least)
    (hlater : pos + width ≤ later) : goal ≤ later + (least - (count + 1)) * width := by
  obtain ⟨rest, hrest⟩ := Nat.exists_eq_add_one_of_ne_zero (Nat.sub_ne_zero_of_lt hcount)
  have hfewer : least - (count + 1) = rest := by omega
  rw [hrest, Nat.succ_mul] at h
  rw [hfewer]
  omega

theorem goal_le_of_not_lt {goal width least count pos later : Nat}
    (h : goal ≤ pos + (least - count) * width) (hcount : ¬ count < least) (hlater : pos ≤ later) :
    goal ≤ later + (least - (count + 1)) * width := by
  have hnone : least - count = 0 := by omega
  rw [hnone, Nat.zero_mul] at h
  omega

section Carries

variable {low top goal width least : Nat} {most : Option Nat} {body body' : Cont → Cont}
  {k k' : Cont}
  (hbody : ∀ {low top pos : Nat} {k k' : Cont} {t : Trail}, 0 < pos → pos ≤ m.text.size →
    low ≤ pos → low ≤ t.head → t.head ≤ m.text.size → m.Follows low top (pos + width) k k' →
      m.Carries low top (body k pos t) (body' k' (pos + m.offset) (m.trail t)))

include hbody

theorem carries_greedy (hk : m.Follows low top goal k k') {fuel fuel' count pos : Nat}
    {last : Option Nat} {t : Trail} (hfuel : Suffices m.text.size least fuel count last pos)
    (hfuel' : Suffices m.text.size least fuel' count last pos)
    (hgoal : goal ≤ pos + (least - count) * width) (hfirst : 0 < pos) (hpos : pos ≤ m.text.size)
    (hle : low ≤ pos) (hlow : low ≤ t.head) (hsize : t.head ≤ m.text.size) :
    m.Carries low top (greedy body least most k fuel count last pos t)
      (greedy body' least most k' fuel' count (last.map (· + m.offset)) (pos + m.offset)
        (m.trail t)) := by
  induction fuel generalizing fuel' count pos last t with
  | zero => exact absurd hfuel (Nat.not_lt_zero _)
  | succ fuel ih =>
    obtain ⟨fuel', rfl⟩ := hfuel'.exists_fuel
    unfold greedy
    simp only [mayGoOn_moved, m.trail_move]
    split
    · next hcount =>
      refine (hbody hfirst hpos hle hle hpos fun next u hnext hend hlow hsize => ?_).mapFailed_move
        hle hpos
      have hlater := Nat.le_of_add_right_le hnext
      exact ih (hfuel.required hcount hlater hend) (hfuel'.required hcount hlater hend)
        (goal_le hgoal hcount hnext) (Nat.lt_of_lt_of_le hfirst hlater) hend
        (Nat.le_trans hle hlater) hlow hsize
    · next hcount =>
      have hfinish : m.Carries low top ((k pos (t.move pos)).mapFailed (·.move pos))
          ((k' (pos + m.offset) (m.trail (t.move pos))).mapFailed (·.move (pos + m.offset))) := by
        have hnone : least - count = 0 := by omega
        rw [hnone, Nat.zero_mul] at hgoal
        exact (hk pos _ hgoal hpos hle hpos).mapFailed_move hle hpos
      split
      · next hgoes =>
        refine (hbody hfirst hpos hle hle hpos fun next u hnext hend hlow hsize => ?_).orElse
          fun _ _ _ => hfinish
        have hlater := Nat.le_of_add_right_le hnext
        have hlast := ne_of_mayGoOn hgoes
        exact ih (hfuel.further hcount hlast hlater hend) (hfuel'.further hcount hlast hlater hend)
          (goal_le_of_not_lt hgoal hcount hlater) (Nat.lt_of_lt_of_le hfirst hlater) hend
          (Nat.le_trans hle hlater) hlow hsize
      · exact hfinish

theorem carries_lazy (inLoop : Bool) (hk : m.Follows low top goal k k')
    {fuel fuel' count pos : Nat} {last : Option Nat} {t : Trail}
    (hfuel : Suffices m.text.size least fuel count last pos)
    (hfuel' : Suffices m.text.size least fuel' count last pos)
    (hgoal : goal ≤ pos + (least - count) * width) (hfirst : 0 < pos) (hpos : pos ≤ m.text.size)
    (hle : low ≤ pos) (hlow : low ≤ t.head) (hsize : t.head ≤ m.text.size) :
    m.Carries low top (lazy body least most inLoop k fuel count last pos t)
      (lazy body' least most inLoop k' fuel' count (last.map (· + m.offset)) (pos + m.offset)
        (m.trail t)) := by
  induction fuel generalizing fuel' count pos last t with
  | zero => exact absurd hfuel (Nat.not_lt_zero _)
  | succ fuel ih =>
    obtain ⟨fuel', rfl⟩ := hfuel'.exists_fuel
    unfold lazy
    simp only [mayGoOn_moved, m.trail_move]
    split
    · next hcount =>
      refine (hbody hfirst hpos hle hle hpos fun next u hnext hend hlow hsize => ?_).mapFailed_move
        hle hpos
      have hlater := Nat.le_of_add_right_le hnext
      exact ih (hfuel.required hcount hlater hend) (hfuel'.required hcount hlater hend)
        (goal_le hgoal hcount hnext) (Nat.lt_of_lt_of_le hfirst hlater) hend
        (Nat.le_trans hle hlater) hlow hsize
    · next hcount =>
      have hnone : least - count = 0 := by omega
      have hreached : goal ≤ pos := by
        rw [hnone, Nat.zero_mul] at hgoal
        exact hgoal
      refine (hk pos _ hreached hpos hle hpos).orElse fun after hlow hsize => ?_
      simp only [m.trail_back, m.trail_move]
      split
      · next hgoes =>
        refine (hbody hfirst hpos hle hle hpos fun next u hnext hend hlow hsize => ?_
          ).mapFailed_move hle hpos
        have hlater := Nat.le_of_add_right_le hnext
        have hlast := ne_of_mayGoOn hgoes
        exact ih (hfuel.further hcount hlast hlater hend) (hfuel'.further hcount hlast hlater hend)
          (goal_le_of_not_lt hgoal hcount hlater) (Nat.lt_of_lt_of_le hfirst hlater) hend
          (Nat.le_trans hle hlater) hlow hsize
      · exact .failed hle hpos

/-- A possessive loop goes on from the head, which is never set down before the place where the
repetition began that failed. -/
theorem carries_possessive (hk : m.Follows low top goal k k') {start fuel fuel' count : Nat}
    {last : Option Nat} {t : Trail} (hfuel : Suffices m.text.size least fuel count last t.head)
    (hfuel' : Suffices m.text.size least fuel' count last t.head)
    (hgoal : goal ≤ t.head + (least - count) * width) (hstart : low ≤ start)
    (hends : start ≤ m.text.size) (hfirst : 0 < t.head) (hlow : low ≤ t.head)
    (hsize : t.head ≤ m.text.size) :
    m.Carries low top (possessive body least most k start fuel count last t)
      (possessive body' least most k' (start + m.offset) fuel' count (last.map (· + m.offset))
        (m.trail t)) := by
  induction fuel generalizing fuel' count last t with
  | zero => exact absurd hfuel (Nat.not_lt_zero _)
  | succ fuel ih =>
    obtain ⟨fuel', rfl⟩ := hfuel'.exists_fuel
    have hone := hbody (t := t) hfirst hsize (Nat.le_refl _) (Nat.le_refl _) hsize
      (m.follows_done _ (t.head + width))
    have hhead : (m.trail t).head = t.head + m.offset := rfl
    unfold possessive
    simp only [hhead, mayGoOn_moved]
    split
    · next hcount =>
      generalize body .done t.head t = attempt at hone
      generalize body' .done (t.head + m.offset) (m.trail t) = attempt' at hone
      cases hone with
      | @matched u htop hend =>
        have hlater := Nat.le_of_add_right_le htop
        exact ih (hfuel.required hcount hlater hend) (hfuel'.required hcount hlater hend)
          (goal_le hgoal hcount htop) (Nat.lt_of_lt_of_le hfirst hlater)
          (Nat.le_trans hlow hlater) hend
      | failed => exact .failed hstart hends
    · next hcount =>
      have hnone : least - count = 0 := by omega
      have hreached : goal ≤ t.head := by
        rw [hnone, Nat.zero_mul] at hgoal
        exact hgoal
      split
      · next hgoes =>
        generalize body .done t.head t = attempt at hone
        generalize body' .done (t.head + m.offset) (m.trail t) = attempt' at hone
        cases hone with
        | @matched u htop hend =>
          have hlater := Nat.le_of_add_right_le htop
          have hlast := ne_of_mayGoOn hgoes
          exact ih (hfuel.further hcount hlast hlater hend)
            (hfuel'.further hcount hlast hlater hend) (goal_le_of_not_lt hgoal hcount hlater)
            (Nat.lt_of_lt_of_le hfirst hlater) (Nat.le_trans hlow hlater) hend
        | @failed u hafter hend =>
          exact hk u.head _ (Nat.le_trans hreached hafter) hend (Nat.le_trans hlow hafter) hend
      · exact hk t.head t hreached hsize hlow hsize

theorem carries_run (greed : Greed) (inLoop : Bool) {pos : Nat}
    (hk : m.Follows low top (pos + width * least) k k') (hfirst : 0 < pos)
    (hpos : pos ≤ m.text.size) (hle : low ≤ pos) {t : Trail} (hlow : low ≤ t.head)
    (hsize : t.head ≤ m.text.size) :
    m.Carries low top (run m.text greed least most inLoop body k pos t)
      (run m.longer greed least most inLoop body' k' (pos + m.offset) (m.trail t)) := by
  have hfuel := suffices_fuelFor (Nat.le_refl m.text.size) least pos
  have hlonger : m.text.size ≤ m.longer.size := by
    rw [m.size]
    exact Nat.le_add_right _ _
  have hfuel' := suffices_fuelFor hlonger least pos
  have hgoal : pos + width * least ≤ pos + (least - 0) * width :=
    Nat.le_of_eq (congrArg (pos + ·) (Nat.mul_comm width least))
  cases greed with
  | greedy => exact carries_greedy hbody hk hfuel hfuel' hgoal hfirst hpos hle hlow hsize
  | lazy => exact carries_lazy hbody inLoop hk hfuel hfuel' hgoal hfirst hpos hle hlow hsize
  | possessive =>
    exact carries_possessive hbody (t := t.move pos) hk hfuel hfuel' hgoal hle hpos hfirst hle hpos

end Carries

end Loop

/-! ## Terms -/

namespace Regex

/-- A term that never looks behind runs in step on the longer text, if what follows it does at the
places that are as far on as the term is wide. -/
theorem carries_run (m : Move) {r : Regex} {again : Bool} (hr : r.Onward again)
    {low top pos : Nat} {inLoop : Bool} {next : Lead} {k k' : Cont} {t : Trail}
    (hk : m.Follows low top (pos + r.least) k k')
    (hfirst : 0 < pos) (hpos : pos ≤ m.text.size) (hle : low ≤ pos) (hlow : low ≤ t.head)
    (hsize : t.head ≤ m.text.size) :
    m.Carries low top (r.run m.text inLoop next k pos t)
      ((r.shift m.groups).run m.longer inLoop next k' (pos + m.offset) (m.trail t)) := by
  induction r generalizing low top pos inLoop next k k' t with
  | empty => exact hk pos t (Nat.le_refl _) hpos hlow hsize
  | one test =>
    simp only [shift, run, m.passesAt_eq]
    split
    · next hpass =>
      rw [Nat.add_right_comm]
      exact hk (pos + 1) t (Nat.le_refl _) (CharTest.lt_of_passesAt hpass) hlow hsize
    · exact .failed hlow hsize
  | place anchor =>
    simp only [shift, run, m.holds_eq anchor hfirst hpos]
    split
    · exact hk pos t (Nat.le_refl _) hpos hlow hsize
    · exact .failed hlow hsize
  | seq a b iha ihb =>
    simp only [shift, run, lead_shift]
    refine iha hr.1 (fun middle u hmiddle hend hlow hsize => ?_) hfirst hpos hle hlow hsize
    have hlater := Nat.le_of_add_right_le hmiddle
    refine ihb hr.2 (hk.mono ?_) (Nat.lt_of_lt_of_le hfirst hlater) hend
      (Nat.le_trans hle hlater) hlow hsize
    rw [least_seq]
    omega
  | alternative r ih =>
    simp only [shift, run, lead_shift, m.admits_eq, m.trail_move]
    split
    · exact ih hr hk hfirst hpos hle hle hpos
    · exact .failed hlow hsize
  | either a b iha ihb =>
    rw [least_either] at hk
    simp only [shift, run]
    have ha := hk.mono (Nat.add_le_add_left (Nat.min_le_left a.least b.least) pos)
    have hb := hk.mono (Nat.add_le_add_left (Nat.min_le_right a.least b.least) pos)
    refine (iha hr.1 ha hfirst hpos hle hlow hsize).orElse fun after hlow hsize => ?_
    rw [m.trail_back]
    refine Move.Carries.mapFailed_back ?_ t inLoop
    exact ihb hr.2 hb hfirst hpos hle hlow hsize
  | group number r ih =>
    simp only [shift, run, m.trail_mark_open hr.1]
    refine ih hr.2 (fun last u hlast hend hlow hsize => ?_) hfirst hpos hle hlow hsize
    rw [m.trail_mark_close hr.1]
    exact hk last _ hlast hend hlow hsize
  | loop greed least most r ih =>
    rw [least_loop] at hk
    simp only [shift, run, test?_shift]
    cases htest : r.test? with
    | some test =>
      have hone : r.least = 1 := by rw [eq_one_of_test? htest]; rfl
      rw [hone, Nat.one_mul] at hk
      exact Stretch.carries_run greed most inLoop next hk hle hpos hlow hsize
    | none =>
      refine Loop.carries_run (fun hfirst hpos hle hlow hsize hk => ?_) greed inLoop hk hfirst hpos
        hle hlow hsize
      exact ih hr hk hfirst hpos hle hlow hsize
  | atomic r ih =>
    -- the body is matched for itself, from its own place on
    have hone : m.Carries pos (pos + r.least) (r.run m.text inLoop none .done pos (t.move pos))
        ((r.shift m.groups).run m.longer inLoop none .done (pos + m.offset)
          (m.trail (t.move pos))) :=
      ih hr (m.follows_done pos (pos + r.least)) hfirst hpos (Nat.le_refl _) (Nat.le_refl _) hpos
    simp only [shift, run, m.trail_move]
    generalize r.run m.text inLoop none .done pos (t.move pos) = attempt at hone
    generalize (r.shift m.groups).run m.longer inLoop none .done (pos + m.offset)
      (m.trail (t.move pos)) = attempt' at hone
    cases hone with
    | @matched u htop hend =>
      exact hk u.head u htop hend (Nat.le_trans hle (Nat.le_of_add_right_le htop)) hend
    | failed => exact .failed hle hpos
  | look behind negated r ih =>
    obtain ⟨rfl, hr⟩ := hr
    -- the body is matched for itself, from its own place on
    have hone : m.Carries pos (pos + r.least) (r.run m.text inLoop none .done pos (t.move pos))
        ((r.shift m.groups).run m.longer inLoop none .done (pos + m.offset)
          (m.trail (t.move pos))) :=
      ih hr (m.follows_done pos (pos + r.least)) hfirst hpos (Nat.le_refl _) (Nat.le_refl _) hpos
    simp only [shift, run, Option.map_none, Option.getD_none, Nat.not_lt_zero, if_false,
      Nat.sub_zero, m.trail_move]
    generalize r.run m.text inLoop none .done pos (t.move pos) = attempt at hone
    generalize (r.shift m.groups).run m.longer inLoop none .done (pos + m.offset)
      (m.trail (t.move pos)) = attempt' at hone
    cases hone with
    | @matched u htop hend =>
      have hlow := Nat.le_trans hle (Nat.le_of_add_right_le htop)
      cases negated with
      | true => exact .failed hlow hend
      | false => exact hk pos u (Nat.le_refl _) hpos hlow hend
    | @failed u hafter hend =>
      have hlow := Nat.le_trans hle hafter
      cases negated with
      | true =>
        simp only [if_true, m.trail_back]
        exact hk pos _ (Nat.le_refl _) hpos hlow hend
      | false => exact .failed hlow hend
  | again folding number =>
    simp only [shift, run, m.span_trail hr.2]
    cases t.marks.span number with
    | none => exact .failed hlow hsize
    | some span =>
      obtain ⟨first, last⟩ := span
      simp only [Option.map_some, Nat.add_sub_add_right, m.agrees_eq]
      split
      · next hagrees =>
        rw [Nat.add_right_comm]
        exact hk _ t (Nat.le_add_right _ _) (Move.le_size_of_agrees hagrees hpos) hlow hsize
      · exact .failed hlow hsize
  | ifGroup number a b iha ihb =>
    rw [least_ifGroup] at hk
    simp only [shift, run, m.span_trail hr.1, Option.isSome_map, shift_eq_empty]
    split
    · exact iha hr.2.1 (hk.mono (Nat.add_le_add_left (Nat.min_le_left _ _) pos)) hfirst hpos hle
        hlow hsize
    · exact ihb hr.2.2 (hk.mono (Nat.add_le_add_left (Nat.min_le_right _ _) pos)) hfirst hpos hle
        hlow hsize

end Regex

end RequestRouter
