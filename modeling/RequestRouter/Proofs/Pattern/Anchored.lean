import RequestRouter.Pattern.Extract
import RequestRouter.Proofs.Matching.Parts
import RequestRouter.Proofs.Matching.Through
import RequestRouter.Proofs.Pattern.Choices

/-!
# Routes that stay anchored to their literal text

In strict mode a pattern keeps its literal text at both ends of the paths it matches, unless its
expression falls into alternatives, and that it does exactly if the fragment of a placeholder that
is not optional falls into alternatives by itself (`CompiledPattern.anchored_or_isChoice`). Nothing
is asked of the fragments here: whatever stands between the literal texts succeeds only through what
follows it (`Part.run_between`).
-/

namespace RequestRouter

namespace Part

variable {text : Array Char} {inLoop : Bool} {next : Lead} {k : Cont} {pos : Nat}
  {trail after : Trail} {rest : List Part}

theorem run_cons (part : Part) (hrest : rest ≠ []) :
    (termOf (part :: rest)).run text inLoop next k pos trail =
      part.regex.run text inLoop ((termOf rest).lead next) ((termOf rest).run text inLoop next k)
        pos
        trail := by
  rw [termOf_cons hrest]
  rfl

/-- Letters in front of other parts match if they stand there and the other parts match behind them.
-/
theorem run_letters {letters : List Char} (hrest : rest ≠ [])
    (h : (termOf (letters.map letter ++ rest)).run text inLoop next k pos trail = .matched after) :
    slice text pos (pos + letters.length) = letters ∧
      (termOf rest).run text inLoop next k (pos + letters.length) trail = .matched after := by
  induction letters generalizing pos with
  | nil => exact ⟨slice_self text pos, h⟩
  | cons c letters ih =>
    have hne : letters.map letter ++ rest ≠ [] := by simp [hrest]
    rw [List.map_cons, List.cons_append, run_cons _ hne] at h
    simp only [letter, regex, Regex.run] at h
    split at h
    · next hpass =>
      obtain ⟨hslice, hafter⟩ := ih h
      have hfirst := slice_succ.mpr (letter_passesAt.mp hpass)
      have hlength : pos + (c :: letters).length = pos + 1 + letters.length := by
        rw [List.length_cons]
        omega
      rw [hlength, ← slice_append (Nat.le_succ pos) (Nat.le_add_right _ _), hfirst, hslice]
      exact ⟨rfl, hafter⟩
    · cases h

/-- Whatever stands in front of other parts succeeds only if they do. -/
theorem run_between (between : List Part) (hrest : rest ≠ []) :
    ((termOf (between ++ rest)).run text inLoop next k pos trail).Through
      ((termOf rest).run text inLoop next k) := by
  induction between generalizing pos trail with
  | nil => exact Attempt.through_cont _ _ _
  | cons part between ih =>
    have hne : between ++ rest ≠ [] := by simp [hrest]
    rw [List.cons_append, run_cons _ hne]
    exact (Regex.run_through _ _ _ _ _ _).trans fun _ _ => ih

end Part

namespace Expression

/-- A text that is matched as a whole has the letters at the ends of the expression at its own ends.
-/
theorem ends_of_fullMatch {e : Expression} {lead tail : List Char} {between : List Part}
    {text : List Char} {marks : Marks}
    (hregex : e.regex = Part.termOf (.atom (.place .textStart) :: (lead.map Part.letter ++
      (between ++
      (tail.map Part.letter ++ [.atom (.place .lastLineEnd)])))))
    (h : e.fullMatch text.toArray = .ok (some marks)) : lead <+: text ∧ tail <:+ text := by
  obtain ⟨trail, hrun⟩ : ∃ trail,
      e.regex.run text.toArray false none (atEnd text.toArray) 0 (.start 0) = .matched trail := by
    unfold fullMatch wholeMarks at h
    split at h
    · cases h
    · next hmarks =>
      split at hmarks
      · cases hmarks
      · split at hmarks
        · next trail hrun => exact ⟨trail, hrun⟩
        · cases hmarks
  rw [hregex, Part.run_cons _ (by simp)] at hrun
  simp only [Part.regex, Regex.run, Anchor.holds, beq_self_eq_true, if_true] at hrun
  have hlast : tail.map Part.letter ++ [.atom (.place .lastLineEnd)] ≠ [] := by simp
  obtain ⟨hlead, hrun⟩ := Part.run_letters (by simp) hrun
  obtain ⟨pos, before, hrun⟩ := Part.run_between between hlast _ hrun
  obtain ⟨htail, hrun⟩ := Part.run_letters (List.cons_ne_nil _ _) hrun
  have hend : pos + tail.length = text.length := by
    simp only [Part.termOf, List.map_cons, List.map_nil, Regex.seqAll, Part.regex,
      Regex.run] at hrun
    split at hrun
    · unfold atEnd at hrun
      split at hrun
      · next hpos => simpa using hpos
      · cases hrun
    · cases hrun
  have hfront : slice text.toArray 0 (0 + lead.length) = text.take lead.length := by simp [slice]
  have hback : slice text.toArray pos text.length = text.drop pos := by
    rw [slice, Array.toList_extract, List.extract_eq_take_drop]
    exact List.take_of_length_le (by simp)
  rw [hfront] at hlead
  rw [hend, hback] at htail
  constructor
  · rw [← hlead]
    exact List.take_prefix _ _
  · rw [← htail]
    exact List.drop_suffix _ _

end Expression

namespace CompiledPattern

/-- In strict mode the expression of a pattern falls into alternatives exactly if the fragment of a
placeholder that is not optional does so by itself, for which there must be comments in it.
Otherwise every path that the pattern matches starts and ends with the literal text of the pattern.
-/
theorem anchored_or_isChoice {pattern fallback : List Char} {compiled : CompiledPattern}
    (h : compile pattern fallback true = .ok compiled) :
    (Expression.isChoice compiled.expression = true ↔
      ∃ p ∈ compiled.parameters, p.optional = false ∧ Expression.isChoice p.fragment = true) ∧
    (∀ p ∈ compiled.parameters, Expression.isChoice p.fragment = true →
      ∃ c ∈ Expression.constructs p.fragment, c.isComment = true) ∧
    (Expression.isChoice compiled.expression = false →
      ∀ path marks, compiled.fullMatch path = .ok (some marks) →
        (Cut.ofPattern pattern fallback).lead <+: path ∧
          (Cut.ofPattern pattern fallback).tail <:+ path) := by
  obtain ⟨hexpression, hparameters, hread, hchecked⟩ := exists_of_compile h
  have husable := (hchecked rfl).usable
  have hchoice := Cut.isChoice_expressionOf husable ⟨_, hread⟩
  rw [hexpression, hparameters, hchoice]
  refine ⟨?_, ?_, ?_⟩
  · rw [List.any_eq_true]
    constructor
    · rintro ⟨s, hs, hsplits⟩
      refine ⟨s.parameter, List.mem_map.mpr ⟨s, hs, rfl⟩, ?_⟩
      simpa [Segment.splits] using hsplits
    · rintro ⟨_, hp, hsplits⟩
      obtain ⟨s, hs, rfl⟩ := List.mem_map.mp hp
      exact ⟨s, hs, by simpa [Segment.splits] using hsplits⟩
  · intro p hp hsplit
    obtain ⟨s, hs, rfl⟩ := List.mem_map.mp hp
    refine Classical.byContradiction fun hnone => ?_
    have hfalse := (husable s hs).isChoice_eq_false fun c hc => by
      cases hcomment : c.isComment with
      | false => rfl
      | true => exact absurd ⟨c, hc, hcomment⟩ hnone
    rw [hfalse] at hsplit
    cases hsplit
  · intro hwhole path marks hmatch
    obtain ⟨between, hparts⟩ := Cut.exists_parts husable ⟨_, hread⟩ hwhole
    have hregex := (Expression.eq_of_read hread).1
    rw [hparts] at hregex
    exact Expression.ends_of_fullMatch hregex hmatch

/-- A path of a pattern without comments, and one of a pattern that is split at its placeholder. -/
theorem anchored_or_isChoice_comments :
    (∃ compiled, compile "/u/{id:([0-9]+)}/{?tab}".toList defaultFragment true = .ok compiled ∧
      (∃ marks, compiled.fullMatch "/u/7".toList = .ok (some marks)) ∧
      "/u/".toList <+: "/u/7".toList) ∧
    ∃ compiled, compile "/x/{k:(a(?#[))|(b(?#]))}/y".toList defaultFragment true = .ok compiled ∧
      Expression.isChoice compiled.expression = true ∧
      (∃ marks, compiled.fullMatch "/x/a".toList = .ok (some marks)) ∧
      ¬ "/y".toList <:+ "/x/a".toList := by
  constructor
  · obtain ⟨compiled, hcompile, hwhole, marks, hmatch⟩ : ∃ compiled,
        compile "/u/{id:([0-9]+)}/{?tab}".toList defaultFragment true = .ok compiled ∧
        Expression.isChoice compiled.expression = false ∧
        ∃ marks, compiled.fullMatch "/u/7".toList = .ok (some marks) := ⟨_, rfl, rfl, _, rfl⟩
    obtain ⟨hlead, -⟩ := (anchored_or_isChoice hcompile).2.2 hwhole _ marks hmatch
    exact ⟨compiled, hcompile, ⟨marks, hmatch⟩, hlead⟩
  · obtain ⟨compiled, hcompile, hparameter, hmatch⟩ : ∃ compiled,
        compile "/x/{k:(a(?#[))|(b(?#]))}/y".toList defaultFragment true = .ok compiled ∧
        ⟨"k".toList, "(a(?#[))|(b(?#]))".toList, false⟩ ∈ compiled.parameters ∧
        ∃ marks, compiled.fullMatch "/x/a".toList = .ok (some marks) :=
      ⟨_, rfl, List.mem_cons_self, _, rfl⟩
    have hsplit := (anchored_or_isChoice hcompile).1.mpr ⟨_, hparameter, rfl, rfl⟩
    exact ⟨compiled, hcompile, hsplit, hmatch, by decide⟩

end CompiledPattern

end RequestRouter
