import RequestRouter.Proofs.Matching.Record
import RequestRouter.Proofs.Matching.Run
import RequestRouter.Proofs.Matching.Window
import RequestRouter.Regex.Reader

/-!
# Matching a whole text

For an expression whose term is ordinary and whose groups are numbered, the search is right: it
never ends in a fault (`Expression.Regular.fullMatch_eq`), it succeeds exactly on the texts that the
term takes from end to end (`Expression.Regular.isSome_wholeMarks_iff`), and the marks that it
returns record pieces which the groups take (`Expression.Regular.recorded`).
-/

namespace RequestRouter

namespace Marks

variable {marks : Marks} {number first last : Nat}

theorem pair?_eq_some (hfirst : marks.at? (openPlace number) = some first)
    (hlast : marks.at? (closePlace number) = some last) :
    marks.pair? number = some (first, last) := by
  have hget : ∀ {place pos}, marks.at? place = some pos → marks[place]? = some (some pos) := by
    intro place pos h
    unfold at? at h
    cases hm : marks[place]? with
    | none => simp [hm] at h
    | some mark => simpa [hm] using h
  unfold pair?
  rw [hget hfirst, hget hlast]

theorem pair?_eq_none (hfirst : marks.at? (openPlace number) = none) :
    marks.pair? number = none := by
  unfold pair?
  split
  · next h _ => simp [at?, h] at hfirst
  · rfl

theorem span_eq_some (hfirst : marks.at? (openPlace number) = some first)
    (hlast : marks.at? (closePlace number) = some last) (hle : first ≤ last) :
    marks.span number = some (first, last) := by
  unfold span
  rw [pair?_eq_some hfirst hlast, Option.filter_some]
  simp [hle]

theorem span_eq_none (hfirst : marks.at? (openPlace number) = none) : marks.span number = none := by
  unfold span
  rw [pair?_eq_none hfirst, Option.filter_none]

end Marks

namespace Regex

/-- Where the marks record pieces, no group of the term closes before it opens. -/
theorem Recorded.not_crossed {text : Array Char} {marks : Marks} {r : Regex} {first last number :
    Nat}
    (hr : r.Ordinary) (hn : r.Numbered first last) (h : r.Recorded text marks)
    (hfirst : first < number) (hlast : number ≤ last) : marks.isCrossed number = false := by
  induction r generalizing first last with
  | empty | one | place =>
    obtain rfl : first = last := hn
    omega
  | seq a b iha ihb | either a b iha ihb =>
    obtain ⟨middle, ha, hb⟩ := hn
    by_cases hmiddle : number ≤ middle
    · exact iha hr.1 ha h.1 hfirst hmiddle
    · exact ihb hr.2 hb h.2 (Nat.lt_of_not_le hmiddle) hlast
  | alternative r ih =>
    have hr : r.Ordinary := hr
    exact ih hr hn h hfirst hlast
  | loop _ _ _ r ih => exact ih hr.1 hn h hfirst hlast
  | group n r ih =>
    have hr : r.Ordinary := hr
    obtain ⟨rfl, hn⟩ := hn
    obtain ⟨hown, hbody⟩ := h
    by_cases hnumber : number = first + 1
    · subst hnumber
      unfold Marks.isCrossed
      rcases hown with ⟨hopen, -⟩ | ⟨p, q, hopen, hclose, -, htakes⟩
      · rw [Marks.pair?_eq_none hopen]
        rfl
      · have hle := htakes.le
        rw [Marks.pair?_eq_some hopen hclose]
        simpa using hle
    · exact ih hr hn hbody (by omega) hlast
  | atomic | look | again | ifGroup => exact hr.elim

end Regex

namespace Expression

/-- What the search is right for: the term is ordinary, its groups are numbered in the order in
which they open, and the least width is that of the term. -/
structure Regular (e : Expression) : Prop where
  ordinary : e.regex.Ordinary
  numbered : e.regex.Numbered 0 e.groups
  least : ∃ groups, e.least = (e.regex.width groups).least

namespace Regular

variable {e : Expression} (he : e.Regular) {text : Array Char} {marks : Marks}

theorem follows_atEnd (text : Array Char) (count : Nat) :
    Scope.Follows {} count (atEnd text) fun w => if w.head = text.size then some w else none := by
  intro pos trail marks halike _
  by_cases hpos : pos = text.size
  · have hshown : ∀ place, ¬ Scope.Hides {} place := by
      rintro place ⟨n, hn, -⟩
      cases hn
    simp only [atEnd, hpos, beq_self_eq_true, if_true]
    exact ⟨rfl, fun place => halike place (hshown place)⟩
  · simp only [atEnd, beq_eq_false_iff_ne.mpr hpos, Bool.false_eq_true, if_false, if_neg hpos]
    exact Scope.Alike.kept (Scope.Alike.refl _ _) _

include he

theorem ends_run (text : Array Char) :
    (e.regex.run text false none (atEnd text) 0 (.start 0)).Ends (fun _ => True)
      ((e.regex.ways text (.start 0)).findSome? fun w => if w.head =
        text.size then some w else none) := by
  have hrun := Regex.follows_run (s := {}) he.ordinary he.numbered
    (Lead.Guards.none text _) (follows_atEnd text e.groups) nofun
  have hone := hrun 0 (.start 0) [] (Scope.Alike.refl _ _) (Nat.zero_le _)
  exact hone.imp fun _ _ => trivial

theorem exists_way (h : e.wholeMarks text = some marks) :
    ∃ v ∈ e.regex.ways text (.start 0), v.head = text.size ∧
      ∀ place, marks.at? place = v.marks.at? place := by
  have hends := he.ends_run text
  unfold wholeMarks at h
  split at h
  · cases h
  · generalize (e.regex.run text false none (atEnd text) 0 (.start 0)) = attempt at h hends
    cases attempt with
    | failed trail => cases h
    | matched trail =>
      obtain rfl : trail.marks = marks := Option.some.inj h
      cases hfound : (e.regex.ways text (.start 0)).findSome? fun w =>
          if w.head = text.size then some w else none with
      | none =>
        rw [hfound] at hends
        exact hends.elim
      | some w =>
        rw [hfound] at hends
        obtain ⟨v, hv, hsome⟩ := List.exists_of_findSome?_eq_some hfound
        split at hsome
        · next hhead =>
          obtain rfl := Option.some.inj hsome
          exact ⟨v, hv, hhead, hends.2⟩
        · cases hsome

/-- The search succeeds exactly on the texts that the term takes from end to end. -/
theorem isSome_wholeMarks_iff :
    (e.wholeMarks text).isSome ↔ e.regex.Takes text 0 text.size := by
  constructor
  · intro h
    obtain ⟨marks, hmarks⟩ := Option.isSome_iff_exists.mp h
    obtain ⟨v, hv, hhead, -⟩ := he.exists_way hmarks
    have htakes := Regex.takes_of_mem_ways he.ordinary hv
    rwa [hhead] at htakes
  · intro h
    obtain ⟨groups, hleast⟩ := he.least
    have hwide : ¬ text.size < e.least := by
      have hadd := h.add_least_le groups
      omega
    obtain ⟨v, hv, hhead⟩ := Regex.exists_mem_ways he.ordinary (Nat.zero_le _) h []
    have hends := he.ends_run text
    unfold wholeMarks
    rw [if_neg hwide]
    generalize (e.regex.run text false none (atEnd text) 0 (.start 0)) = attempt at hends
    cases attempt with
    | matched trail => rfl
    | failed trail =>
      cases hfound : (e.regex.ways text (.start 0)).findSome? fun w =>
          if w.head = text.size then some w else none with
      | none =>
        have hno := List.findSome?_eq_none_iff.mp hfound v hv
        rw [if_pos hhead] at hno
        cases hno
      | some w =>
        rw [hfound] at hends
        exact hends.elim

theorem recorded (h : e.wholeMarks text = some marks) : e.regex.Recorded text marks := by
  obtain ⟨v, hv, -, hmarks⟩ := he.exists_way h
  have hrecorded := Regex.recorded_of_mem_ways he.ordinary he.numbered hv (Nat.zero_le _)
    (Regex.recorded_nil _)
  exact hrecorded.congr he.numbered fun place _ _ => hmarks place

/-- A match has an opening mark for each group that the term leads through in any case. -/
theorem marked {number : Nat} (h : e.wholeMarks text = some marks) (hm : e.regex.Marked number) :
    ∃ pos, marks.at? (Marks.openPlace number) = some pos := by
  obtain ⟨v, hv, -, hmarks⟩ := he.exists_way h
  rw [hmarks]
  exact Regex.marked_of_mem_ways he.numbered hm hv

/-- A match of a whole text is no fault. -/
theorem fullMatch_eq (text : Array Char) : e.fullMatch text = .ok (e.wholeMarks text) := by
  unfold fullMatch
  split
  · next h => rw [h]
  · next marks h =>
    rw [if_neg, h]
    simp only [groupNumbers, List.any_map, List.any_eq_true, List.mem_range, Function.comp_apply,
      not_exists, not_and, Bool.not_eq_true]
    intro n hlt
    exact (he.recorded h).not_crossed he.ordinary he.numbered (Nat.succ_pos n) hlt

/-- The expression accepts the texts that its term takes from end to end, and no text is a fault. -/
theorem accepts_eq (value : List Char) :
    ∃ answer, e.accepts value = .ok answer ∧
      (answer = true ↔ e.regex.Takes value.toArray 0 value.length) := by
  refine ⟨(e.wholeMarks value.toArray).isSome, ?_, ?_⟩
  · unfold accepts
    rw [he.fullMatch_eq]
    rfl
  · have hiff : (e.wholeMarks value.toArray).isSome ↔
        e.regex.Takes value.toArray 0 value.toArray.size := he.isSome_wholeMarks_iff
    simpa using hiff

end Regular

end Expression

/-! ## Tame terms

The terms that literals, classes, groups, choices and repetitions make up. A tame term asks for no
place, its bounds are in order, and it has possessive repetitions only where that is allowed. So it
is all that the modules on matching ask of a term, once each possessive repetition is known to repeat
a single test (`Regex.keepsSingly`).
-/

namespace Regex

/-- Each possessive repetition in the term repeats a single test on a character. -/
def keepsSingly : Regex → Bool
  | .empty | .one _ | .place _ | .again _ _ => true
  | .seq a b | .either a b | .ifGroup _ a b => a.keepsSingly && b.keepsSingly
  | .alternative r | .group _ r | .atomic r | .look _ _ r => r.keepsSingly
  | .loop greed _ _ r => (greed != .possessive || r.test?.isSome) && r.keepsSingly

/-- The term is made of tests, groups, choices and repetitions with bounds in order; repetitions are
possessive only if `possessive` is set. -/
def Tame (possessive : Bool) : Regex → Prop
  | .empty | .one _ => True
  | .seq a b | .either a b => a.Tame possessive ∧ b.Tame possessive
  | .alternative r | .group _ r => r.Tame possessive
  | .loop greed least most r =>
    (greed = .possessive → possessive = true) ∧ most.all (least ≤ ·) = true ∧ r.Tame possessive
  | _ => False

variable {possessive : Bool} {r : Regex}

theorem Tame.unanchored (h : r.Tame possessive) : r.Unanchored := by
  induction r with
  | empty | one => trivial
  | seq a b iha ihb | either a b iha ihb => exact ⟨iha h.1, ihb h.2⟩
  | alternative r ih | group _ r ih => exact ih h
  | loop _ _ _ r ih => exact ih h.2.2
  | place | atomic | look | again | ifGroup => exact h.elim

theorem Tame.yielding (h : r.Tame false) : r.Yielding := by
  induction r with
  | empty | one => trivial
  | seq a b iha ihb | either a b iha ihb => exact ⟨iha h.1, ihb h.2⟩
  | alternative r ih | group _ r ih => exact ih h
  | loop _ _ _ r ih => exact ⟨fun heq => (nomatch h.1 heq), ih h.2.2⟩
  | place | atomic | look | again | ifGroup => exact h.elim

theorem Tame.ordinary (h : r.Tame possessive) (hkeeps : r.keepsSingly = true) : r.Ordinary := by
  induction r with
  | empty | one => trivial
  | seq a b iha ihb | either a b iha ihb =>
    obtain ⟨ha, hb⟩ := Bool.and_eq_true_iff.mp hkeeps
    exact ⟨iha h.1 ha, ihb h.2 hb⟩
  | alternative r ih | group _ r ih => exact ih h hkeeps
  | loop greed _ _ r ih =>
    obtain ⟨hgreed, hbody⟩ := Bool.and_eq_true_iff.mp hkeeps
    refine ⟨ih h.2.2 hbody, h.2.1, fun heq => ?_⟩
    simpa [heq] using hgreed
  | place | atomic | look | again | ifGroup => exact h.elim

theorem Tame.keepsSingly (h : r.Tame false) : r.keepsSingly = true := by
  induction r with
  | empty | one => rfl
  | seq a b iha ihb | either a b iha ihb => exact Bool.and_eq_true_iff.mpr ⟨iha h.1, ihb h.2⟩
  | alternative r ih | group _ r ih => exact ih h
  | loop greed _ _ r ih =>
    have hgreed : greed ≠ .possessive := fun heq => (nomatch h.1 heq)
    simp [Regex.keepsSingly, hgreed, ih h.2.2]
  | place | atomic | look | again | ifGroup => exact h.elim

theorem Ordinary.fault? (h : r.Ordinary) : r.fault? false = none := by
  induction r with
  | empty | one | place => rfl
  | seq a b iha ihb | either a b iha ihb => simp [Regex.fault?, iha h.1, ihb h.2]
  | alternative r ih | group _ r ih => exact ih h
  | loop _ _ _ r ih => exact ih h.1
  | atomic | look | again | ifGroup => exact h.elim

end Regex

end RequestRouter
