import RequestRouter.Proofs.Pattern.Anchored
import RequestRouter.Proofs.Pattern.RoundTrip

/-!
# Values in front of a fragment

Placeholders with the default fragment, each behind a slash, take the values that stand in a path in
front of a further slash, and in one way only: a value ends where the next slash stands, since what
follows it begins with one (`Part.run_slashedGroups`). Their groups leave two marks for each value,
in order (`valueMarks`).
-/

namespace RequestRouter

namespace Marks

theorem put_length (marks : Marks) (pos : Nat) :
    marks.put marks.length pos = marks ++ [some pos] := by
  have hone : marks.length + 1 - marks.length = 1 := by omega
  rw [put, hone, List.set_append_right _ _ (Nat.le_refl _), Nat.sub_self]
  rfl

/-- The marks of values that stand in a text from a position on, each behind a slash. -/
def ofValues : (pos : Nat) → List (List Char) → Marks
  | _, [] => []
  | pos, value :: rest =>
    some (pos + 1) :: some (pos + 1 + value.length) :: ofValues (pos + 1 + value.length) rest

theorem length_ofValues (pos : Nat) (values : List (List Char)) :
    (ofValues pos values).length = 2 * values.length := by
  induction values generalizing pos with
  | nil => rfl
  | cons value rest ih =>
    simp only [ofValues, List.length_cons, ih]
    omega

/-- The groups of the values close behind where they open. -/
theorem isCrossed_ofValues {pos number : Nat} {values : List (List Char)} (more : Marks)
    (hnumber : number < values.length) :
    (ofValues pos values ++ more).isCrossed (number + 1) = false := by
  have hopen : openPlace (number + 1) = 2 * number := by
    unfold openPlace
    omega
  have hclose : closePlace (number + 1) = 2 * number + 1 := by
    unfold closePlace
    omega
  unfold isCrossed pair?
  rw [hopen, hclose]
  clear hopen hclose
  induction values generalizing pos number with
  | nil => exact absurd hnumber (Nat.not_lt_zero _)
  | cons value rest ih =>
    cases number with
    | zero =>
      simp only [ofValues, List.cons_append, List.getElem?_cons_zero, Nat.mul_zero,
        List.getElem?_cons_succ, Nat.zero_add, Option.any_some, decide_eq_false_iff_not]
      omega
    | succ number =>
      have hplace : 2 * (number + 1) = 2 * number + 1 + 1 := by omega
      simp only [ofValues, List.cons_append, hplace, List.getElem?_cons_succ]
      exact ih (Nat.lt_of_succ_lt_succ hnumber)

end Marks

/-! ## One value -/

/-- Where no slash stands, what follows fails after these marks, and leaves them there. -/
def Cont.NeedsSlash (text : Array Char) (marks : Marks) (k : Cont) : Prop :=
  ∀ pos, text[pos]? ≠ some '/' →
    ∃ after, k pos ⟨pos, marks⟩ = .failed after ∧ after.marks.take marks.length = marks

namespace Stretch

variable {text : Array Char} {k : Cont} {last : Nat} {start u : Trail}

/-- A stretch without a slash grows up to the next slash. -/
theorem grow_value (hk : k.NeedsSlash text start.marks) (hlast : text[last]? = some '/')
    {left count pos : Nat} {t : Trail} (hpos : pos ≤ last) (hleft : pos + left = text.size)
    (ht : t.marks = start.marks)
    (hvalue : ∀ place, pos ≤ place → place < last → CharTest.notSlash.passesAt text place = true) :
    grow text .notSlash none (attemptLazy false start k) left count pos t = .matched u ↔
      k last ⟨last, start.marks⟩ = .matched u := by
  have hsize := (Array.getElem?_eq_some_iff.mp hlast).1
  induction left generalizing count pos t with
  | zero => omega
  | succ left ih =>
    have hmoved : t.move pos = ⟨pos, start.marks⟩ := by rw [← ht]; rfl
    unfold grow
    simp only [Option.any_none, Bool.false_eq_true, if_false, attemptLazy, hmoved]
    rcases Nat.lt_or_eq_of_le hpos with hlt | rfl
    · -- the value is not at its end yet
      have hpasses := hvalue pos (Nat.le_refl _) hlt
      have hslash : text[pos]? ≠ some '/' := by
        obtain ⟨c, hc, hne⟩ := CharTest.notSlash_passesAt.mp hpasses
        rw [hc]
        exact fun heq => hne (Option.some.inj heq)
      obtain ⟨after, hfailed, hmarks⟩ := hk pos hslash
      rw [hfailed]
      simp only [Attempt.mapFailed, Attempt.orElse, hpasses, if_true]
      refine ih hlt (by omega) hmarks fun place hplace => hvalue place (Nat.le_of_succ_le hplace)
    · cases hend : k pos ⟨pos, start.marks⟩ with
      | matched after => rfl
      | failed after =>
        have hstop : CharTest.notSlash.passesAt text pos = false := by
          rw [Bool.eq_false_iff]
          intro hpasses
          obtain ⟨c, hc, hne⟩ := CharTest.notSlash_passesAt.mp hpasses
          rw [hlast] at hc
          exact hne (Option.some.inj hc).symm
        simp [Attempt.mapFailed, Attempt.orElse, hstop]

end Stretch

namespace Regex

/-- The term of the default fragment, without its group. -/
def valueTerm : Regex := .loop .lazy 1 none (.one .notSlash)

/-- The group of a value takes the value as a whole. -/
theorem run_value {text : Array Char} {k : Cont} (hk : ∀ pos t, text[pos]? ≠ some '/' →
    k pos t = .failed t) {before pos last : Nat} {next : Lead} {t u : Trail}
    (hmarks : t.marks.length = 2 * before) (hpos : pos < last) (hlast : text[last]? = some '/')
    (hvalue : ∀ place, pos ≤ place → place < last → CharTest.notSlash.passesAt text place = true) :
    (group (before + 1) valueTerm).run text false next k pos t = .matched u ↔
      k last ⟨last, t.marks ++ [some pos, some last]⟩ = .matched u := by
  have hsize := (Array.getElem?_eq_some_iff.mp hlast).1
  have hopen : Marks.openPlace (before + 1) = t.marks.length := by
    unfold Marks.openPlace
    omega
  have hclose : Marks.closePlace (before + 1) = (t.marks ++ [some pos]).length := by
    rw [List.length_append, hmarks]
    unfold Marks.closePlace
    simp only [List.length_singleton]
    omega
  have hfirst := hvalue pos (Nat.le_refl _) hpos
  have hone : Stretch.length text .notSlash (Stretch.limit text (some 1) pos) pos = 1 := by
    have hlimit : Stretch.limit text (some 1) pos = 1 := by
      show min 1 (text.size - pos) = 1
      omega
    rw [hlimit]
    simp [Stretch.length, hfirst]
  -- what follows the group leaves its opening mark where it is
  have hneeds : Cont.NeedsSlash text (t.marks ++ [some pos])
      fun pos t => k pos (t.mark (Marks.closePlace (before + 1)) pos) := by
    intro place hslash
    refine ⟨_, hk _ _ hslash, ?_⟩
    rw [Trail.mark, hclose, Marks.put_length, List.take_left]
  have hmarked : t.mark (Marks.openPlace (before + 1)) pos = ⟨t.head, t.marks ++ [some pos]⟩ := by
    rw [Trail.mark, hopen, Marks.put_length]
  have hrun : (group (before + 1) valueTerm).run text false next k pos t =
      Stretch.run text .notSlash .lazy 1 none false none
        (fun pos t => k pos (t.mark (Marks.closePlace (before + 1)) pos)) pos
        ⟨t.head, t.marks ++ [some pos]⟩ := by
    rw [← hmarked]
    rfl
  rw [hrun, Stretch.run, if_neg (by omega)]
  simp only [if_true, hone, Nat.lt_irrefl, if_false]
  have hend :
      k last (Trail.mark ⟨last, t.marks ++ [some pos]⟩ (Marks.closePlace (before + 1)) last) =
        k last ⟨last, t.marks ++ [some pos, some last]⟩ := by
    rw [Trail.mark, hclose, Marks.put_length, List.append_assoc]
    rfl
  rw [← hend]
  refine Stretch.grow_value hneeds hlast hpos (by omega) rfl fun place hplace => ?_
  exact hvalue place (Nat.le_of_succ_le hplace)

end Regex

/-! ## Some values -/

namespace Part

/-- The parts of placeholders with the default fragment, each behind a slash, where `before` groups
precede. -/
def slashedGroups : (before count : Nat) → List Part
  | _, 0 => []
  | before, count + 1 =>
    .letter '/' :: .whole (.group (before + 1) .valueTerm) :: slashedGroups (before + 1) count

theorem exists_slashedGroups (before count : Nat) (rest : List Part) :
    ∃ more, slashedGroups before count ++ .letter '/' :: rest = .letter '/' :: more := by
  cases count with
  | zero => exact ⟨rest, rfl⟩
  | succ count => exact ⟨_, rfl⟩

variable {text : Array Char} {next : Lead} {k : Cont} {pos : Nat} {t u : Trail}
  {more rest : List Part}

theorem run_slash_failed {inLoop : Bool} (h : text[pos]? ≠ some '/') :
    (termOf (letter '/' :: more)).run text inLoop next k pos t = .failed t := by
  have hfails : CharTest.passesAt (.letter '/') text pos = false := by
    rw [Bool.eq_false_iff]
    exact fun hpass => h (letter_passesAt.mp hpass)
  cases more with
  | nil =>
    show (if CharTest.passesAt (.letter '/') text pos then _ else _) = _
    rw [hfails]
    rfl
  | cons part more =>
    rw [run_cons _ (List.cons_ne_nil _ _)]
    show (if CharTest.passesAt (.letter '/') text pos then _ else _) = _
    rw [hfails]
    rfl

theorem run_slash {inLoop : Bool} (hmore : more ≠ []) (h : text[pos]? = some '/') :
    (termOf (letter '/' :: more)).run text inLoop next k pos t =
      (termOf more).run text inLoop next k (pos + 1) t := by
  rw [run_cons _ hmore]
  show (if CharTest.passesAt (.letter '/') text pos then _ else _) = _
  rw [letter_passesAt.mpr h]
  rfl

/-- A value stands behind a slash and in front of another one. -/
theorem value_stands {value behind : List Char} (hvalue : IsValue value) (hpos : pos ≤ text.size)
    (hslice : slice text pos text.size = ['/'] ++ (value ++ '/' :: behind)) :
    text[pos]? = some '/' ∧ pos + 1 + value.length ≤ text.size ∧
      slice text (pos + 1 + value.length) text.size = '/' :: behind ∧
      text[pos + 1 + value.length]? = some '/' ∧
      ∀ place, pos + 1 ≤ place → place < pos + 1 + value.length →
        CharTest.notSlash.passesAt text place = true := by
  have hend := Nat.le_refl text.size
  obtain ⟨a, hpa, ha, hfirst, hslice⟩ := slice_eq_append hpos hend hslice
  obtain ⟨rfl, hslash⟩ := eq_succ_of_slice hpa ha hfirst
  obtain ⟨b, hab, hb, hspelled, hslice⟩ := slice_eq_append ha hend hslice
  have hlength := length_slice (p := pos + 1) hb
  rw [hspelled] at hlength
  obtain rfl : b = pos + 1 + value.length := by omega
  have hbehind := hslice
  obtain ⟨c, hbc, hc, hnext, -⟩ := slice_eq_append (a := ['/']) hb hend hslice
  refine ⟨hslash, hb, hbehind, (eq_succ_of_slice hbc hc hnext).2, fun place hfirst hlast => ?_⟩
  obtain ⟨c, hc⟩ : ∃ c, text[place]? = some c :=
    ⟨_, Array.getElem?_eq_getElem (Nat.lt_of_lt_of_le hlast hb)⟩
  refine CharTest.notSlash_passesAt.mpr ⟨c, hc, ?_⟩
  rintro rfl
  apply hvalue.slash
  rw [← hspelled]
  exact mem_slice hfirst hlast hc

/-- The parts in front take the values in front, and leave two marks for each. -/
theorem run_slashedGroups {values : List (List Char)} {w : List Char} {marks : Marks} {before : Nat}
    (hvalues : ∀ value ∈ values, IsValue value) (hpos : pos ≤ text.size)
    (hslice : slice text pos text.size = PathTemplate.slashed values ++ '/' :: w)
    (hmarks : marks.length = 2 * before) :
    (termOf (slashedGroups before values.length ++ letter '/' :: rest)).run text false next k pos
        ⟨pos, marks⟩ = .matched u ↔
      (termOf (letter '/' :: rest)).run text false next k
        (pos + (PathTemplate.slashed values).length)
        ⟨pos + (PathTemplate.slashed values).length, marks ++ Marks.ofValues pos values⟩ =
          .matched u := by
  induction values generalizing before pos marks with
  | nil =>
    show (termOf (letter '/' :: rest)).run text false next k pos ⟨pos, marks⟩ = _ ↔
      (termOf (letter '/' :: rest)).run text false next k pos ⟨pos, marks ++ []⟩ = _
    rw [List.append_nil]
  | cons value values ih =>
    -- the value has no slash in it, and the next one begins behind it
    obtain ⟨behind, hbehind⟩ : ∃ behind, PathTemplate.slashed values ++ '/' :: w = '/' :: behind := by
      cases values with
      | nil => exact ⟨w, rfl⟩
      | cons other values => exact ⟨_, by rw [PathTemplate.slashed_cons]; rfl⟩
    have hone := hvalues value List.mem_cons_self
    rw [PathTemplate.slashed_cons, List.cons_append, List.append_assoc, hbehind] at hslice
    obtain ⟨hslash, hsize, hslice, hnext, hinside⟩ := value_stands hone hpos hslice
    rw [← hbehind] at hslice
    have hnonempty := List.length_pos_iff.mpr hone.nonempty
    obtain ⟨others, hothers⟩ := exists_slashedGroups (before + 1) values.length rest
    have hneeds : ∀ place t, text[place]? ≠ some '/' →
        (termOf (letter '/' :: others)).run text false next k place t = .failed t :=
      fun place t h => run_slash_failed h
    have hmarked : (marks ++ [some (pos + 1), some (pos + 1 + value.length)]).length =
        2 * (before + 1) := by
      rw [List.length_append, hmarks]
      simp only [List.length_cons, List.length_nil]
      omega
    have hrest := ih (fun v hv => hvalues v (List.mem_cons_of_mem _ hv)) hsize hslice hmarked
    rw [hothers] at hrest
    have hplace : pos + (PathTemplate.slashed (value :: values)).length =
        pos + 1 + value.length + (PathTemplate.slashed values).length := by
      rw [PathTemplate.slashed_cons, List.length_cons, List.length_append]
      omega
    have hleft : marks ++ Marks.ofValues pos (value :: values) =
        marks ++ [some (pos + 1), some (pos + 1 + value.length)] ++
          Marks.ofValues (pos + 1 + value.length) values := by
      rw [List.append_assoc]
      rfl
    rw [hplace, hleft, ← hrest]
    show (termOf (letter '/' :: .whole (.group (before + 1) .valueTerm) ::
      (slashedGroups (before + 1) values.length ++ letter '/' :: rest))).run text false next k pos
        ⟨pos, marks⟩ = .matched u ↔ _
    rw [run_slash (List.cons_ne_nil _ _) hslash, hothers, run_cons _ (List.cons_ne_nil _ _)]
    exact Regex.run_value hneeds hmarks (by omega) hnext hinside

end Part

end RequestRouter
