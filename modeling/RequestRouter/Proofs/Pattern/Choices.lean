import RequestRouter.Proofs.Pattern.Layout
import RequestRouter.Proofs.Pattern.Validation
import RequestRouter.Proofs.Reading.Growth

/-!
# When the expression of a pattern falls into alternatives

A bar outside of all parentheses splits the expression it stands in (`Expression.isChoice`). In
strict mode the expression of a pattern is split exactly if the fragment of a placeholder that is
not optional is split by itself (`Cut.isChoice_iff`), and a fragment that is used in strict mode can
only be split if there are comments in it (`Usable.isChoice_eq_false`): the scan for one pair of
parentheses counts those in comments, and the reader does not. If the expression is not split, its
literal text stands at both its ends (`Cut.exists_content`).
-/

namespace RequestRouter

/-- A bar that stands in no parenthesis splits the expression. -/
def Expression.isChoice (text : List Char) : Bool :=
  match draft (Units.ofChars text).1 with
  | .ok d => !d.level.branches.isEmpty
  | .error _ => false

namespace Draft

variable {d d' d'' e : Draft} {units rest : Units} {cs : List Construct}

/-! ## Levels that are split or not -/

/-- Something was added to the innermost level. If it is split by that, it has more alternatives,
otherwise only more pieces. -/
structure Widens (d : Draft) (split : Bool) (d' : Draft) : Prop where
  mode : d'.level.mode = d.level.mode
  outer : d'.outer = d.outer
  more : split = true → d.level.branches.length < d'.level.branches.length
  kept : split = false → d'.level.branches = d.level.branches ∧
    ∃ front, d'.level.pieces = front ++ d.level.pieces

namespace Widens

variable {split split' : Bool}

theorem ofAdds {pieces : List Piece} {count : Nat} (h : d.Adds pieces count d') :
    d.Widens false d' where
  mode := h.mode
  outer := h.outer
  more := fun h => (nomatch h)
  kept := fun _ => by
    rw [h.level]
    exact ⟨rfl, _, rfl⟩

theorem trans (h : d.Widens split d') (h' : d'.Widens split' d'') :
    d.Widens (split || split') d'' where
  mode := h'.mode.trans h.mode
  outer := h'.outer.trans h.outer
  more := by
    intro heither
    cases hsplit : split with
    | true =>
      have hfirst := h.more hsplit
      cases hsplit' : split' with
      | true => exact Nat.lt_trans hfirst (h'.more hsplit')
      | false =>
        rw [(h'.kept hsplit').1]
        exact hfirst
    | false =>
      rw [hsplit, Bool.false_or] at heither
      rw [← (h.kept hsplit).1]
      exact h'.more heither
  kept := by
    intro hneither
    obtain ⟨hsplit, hsplit'⟩ := Bool.or_eq_false_iff.mp hneither
    obtain ⟨hbranches, front, hpieces⟩ := h.kept hsplit
    obtain ⟨hbranches', front', hpieces'⟩ := h'.kept hsplit'
    refine ⟨hbranches'.trans hbranches, front' ++ front, ?_⟩
    rw [hpieces', hpieces, List.append_assoc]

end Widens

end Draft

namespace Usable

variable {fragment : List Char} (h : Usable fragment)

include h

theorem not_flags (on : List Flag) : .opening (.flags on) ∉ Expression.constructs fragment := by
  obtain ⟨d, hdraft⟩ := h.draft
  obtain ⟨header, rest, hcs, hheader⟩ := h.exists_opening
  have hreads := Expression.reads_of_draft hdraft
  rw [hcs] at hreads ⊢
  have hdescends : header.descends = true := by
    rcases hheader with rfl | ⟨_, rfl⟩ <;> rfl
  generalize (Units.ofChars fragment).1 = units at hreads
  cases hreads with
  | next _ htake hrest =>
    have houter := Draft.outer_of_take_opens htake hdescends
    intro hmem
    rcases List.mem_cons.mp hmem with heq | hmem
    · cases heq
      cases hdescends
    · exact Draft.not_flags_of_begun hrest (.inl (by simp [houter])) on hmem

/-- It is read inside of a larger expression that can be read, and splits the level there if it is
split by itself. -/
theorem reads {e : Draft} {more : Units} (hmode : e.level.mode = {})
    (hgo : e.Goes ((Units.ofChars fragment).1 ++ more)) :
    ∃ cs e', Draft.Reads e ((Units.ofChars fragment).1 ++ more) cs e' more ∧
      e.Widens (Expression.isChoice fragment) e' := by
  obtain ⟨d, hdraft⟩ := h.draft
  have hruns := Draft.runs_of_draft hdraft
  have hlast := Units.getLast?_of_spans
    ((Units.spans_ofChars _ _ h.lone).symm.trans (Bool.and_eq_true_iff.mp h.passed.1).2)
  have hgrown : Draft.Grown e.level (.start (Units.ofChars fragment).1.width) e :=
    .refl hmode rfl rfl
  obtain ⟨e', hreads, he'⟩ := hruns.grown hgrown (.inr ⟨rfl, h.not_flags⟩) (fun _ => .inr hlast) hgo
  have hchoice : Expression.isChoice fragment = !d.level.branches.isEmpty := by
    rw [Expression.isChoice, hdraft]
  refine ⟨_, e', hreads, ?_, (Draft.runs_of_reads hruns.balanced hreads).outer, ?_, ?_⟩
  · rw [he'.mode, hruns.mode h.not_flags, hmode]
    rfl
  · intro hsplit
    rw [hchoice] at hsplit
    have hne : d.level.branches ≠ [] := by simpa using hsplit
    have hlength := List.length_pos_iff.mpr hne
    have hbranches := he'.branches
    omega
  · intro hsplit
    rw [hchoice] at hsplit
    have hnone : d.level.branches = [] := by simpa using hsplit
    obtain ⟨hbranches, front, hpieces, -⟩ := he'.kept hnone
    exact ⟨hbranches, front, hpieces⟩

/-- Only comments make the scan for one pair of parentheses miss that a fragment is split. -/
theorem isChoice_eq_false
    (hcomments : ∀ c ∈ Expression.constructs fragment, c.isComment = false) :
    Expression.isChoice fragment = false := by
  obtain ⟨d, hdraft⟩ := h.draft
  have hflags : ∀ on, (Expression.constructs fragment).head? ≠ some (.opening (.flags on)) :=
    fun on heq => h.not_flags on (List.mem_of_mem_head? heq)
  obtain ⟨header, body, hcs, hdescends, hbalanced⟩ :=
    Expression.constructs_of_isSingleGroup hdraft h.lone h.passed.1 hcomments hflags
  have hreads := Expression.reads_of_draft hdraft
  rw [hcs] at hreads
  obtain ⟨_, _, _, _, _, _, _, _, _, rfl⟩ :=
    Draft.exists_of_reads_bracket hdescends (Draft.runs_of_reads hbalanced) hreads
  rw [Expression.isChoice, hdraft]
  rfl

theorem enclosed : CompiledPattern.enclosed fragment = fragment := if_pos h.passed.1

end Usable

/-! ## Segments -/

/-- The placeholder splits the expression it stands in. An optional one is enclosed. -/
def Segment.splits (s : Segment) : Bool :=
  !s.parameter.optional && Expression.isChoice s.parameter.fragment

namespace Draft

variable {s : Segment} {segments : List Segment} {e : Draft} {more : Units}

theorem widens_placeholder (h : Usable s.parameter.fragment) (hmode : e.level.mode = {})
    (hgreed : Greed.read more = (.greedy, more)) (hgo : e.Goes (s.placeholder ++ more)) :
    ∃ cs e', Reads e (s.placeholder ++ more) cs e' more ∧ e.Widens s.splits e' := by
  unfold Segment.placeholder Segment.splits Segment.enclosedUnits at *
  rw [h.enclosed] at *
  cases hoptional : s.parameter.optional with
  | false =>
    simp only [hoptional, Bool.false_eq_true, if_false, Bool.not_false, Bool.true_and] at hgo ⊢
    exact h.reads hmode hgo
  | true =>
    simp only [hoptional, if_true, Bool.not_true, Bool.false_and, List.cons_append,
      List.append_assoc,
      List.nil_append] at hgo ⊢
    obtain ⟨e₁, hopen, ⟨left, hlevel₁⟩, -, -, -, hclose⟩ := reads_optional_parenthesis hmode hgreed
    have hmode₁ : e₁.level.mode = {} := by rw [hlevel₁]
    obtain ⟨_, e₂, hreads₂, hadds₂⟩ := reads_verbatim hmode₁ s.slash
      ((Units.ofChars s.parameter.fragment).1 ++ .char ')' :: .char '?' :: more)
    obtain ⟨_, e₃, hreads₃, hwidens₃⟩ := h.reads (hadds₂.mode.trans hmode₁)
      ((hgo.after hopen).after hreads₂)
    obtain ⟨_, e', hreads, hlevel, houter, -, -⟩ :=
      hclose (hreads₂.trans hreads₃) (hwidens₃.outer.trans hadds₂.outer)
    refine ⟨_, e', hreads, ?_⟩
    exact
      { mode := by rw [hlevel]
        outer := houter
        more := fun h => nomatch h
        kept := fun _ => by rw [hlevel]; exact ⟨rfl, [_], rfl⟩ }

theorem widens_segments (tail : List Char) (h : ∀ s ∈ segments, Usable s.parameter.fragment)
    (hmode : e.level.mode = {})
    (hgo : e.Goes (segments.flatMap Segment.units ++ (tail.map Lexeme.verbatim ++ [.char '$']))) :
    ∃ cs e', Reads e (segments.flatMap Segment.units ++
      (tail.map Lexeme.verbatim ++ [.char '$'])) cs e'
        (tail.map Lexeme.verbatim ++ [.char '$']) ∧
      e.Widens (segments.any Segment.splits) e' := by
  induction segments generalizing e with
  | nil => exact ⟨[], e, .done, .ofAdds (.nil e)⟩
  | cons s rest ih =>
    have hothers := fun s hs => h s (List.mem_cons_of_mem _ hs)
    rw [List.flatMap_cons, Segment.units, List.append_assoc, List.append_assoc] at hgo ⊢
    have hgreed := Greed.read_segments rest tail fun s hs => (hothers s hs).lone
    obtain ⟨_, e₁, hreads₁, hadds₁⟩ := reads_verbatim hmode s.stem
      (s.placeholder ++ (rest.flatMap Segment.units ++ (tail.map Lexeme.verbatim ++ [.char '$'])))
    have hmode₁ := hadds₁.mode.trans hmode
    obtain ⟨_, e₂, hreads₂, hwidens₂⟩ := widens_placeholder (h s List.mem_cons_self) hmode₁ hgreed
      (hgo.after hreads₁)
    obtain ⟨_, e₃, hreads₃, hwidens₃⟩ := ih hothers (hwidens₂.mode.trans hmode₁)
      ((hgo.after hreads₁).after hreads₂)
    refine ⟨_, e₃, hreads₁.trans (hreads₂.trans hreads₃), ?_⟩
    rw [List.any_cons]
    exact (Widens.ofAdds hadds₁).trans (hwidens₂.trans hwidens₃)

end Draft

namespace Cut

variable {cut : Cut}

/-- The literal text in front of the first placeholder, without the slash that an optional one
takes. -/
def lead (cut : Cut) : List Char :=
  match cut.segments with
  | [] => []
  | s :: _ => s.stem

/-- The expression is read as the anchor, the literal text in front, the placeholders with what is
between them, the literal text at the end, and the other anchor. -/
theorem exists_reads (h : ∀ s ∈ cut.segments, Usable s.parameter.fragment) {d : Draft}
    (hdraft : Expression.draft cut.units = .ok d) :
    ∃ e e' : Draft, e.level.branches = [] ∧
      e.level.branch = .atom (.place .textStart) :: cut.lead.map Part.letter ∧
      e.Widens (cut.segments.any Segment.splits) e' ∧
      e'.Adds (cut.tail.map Piece.letter ++ [.anchor .lastLineEnd]) 0 d := by
  obtain ⟨⟨_, hall⟩, -⟩ := Expression.draft_eq_ok_iff.mp hdraft
  let start := Draft.start (Units.width cut.units)
  have hcaret : Draft.Reads start cut.units [.edge false] (start.push (.anchor .textStart))
      (cut.segments.flatMap Segment.units ++ (cut.tail.map Lexeme.verbatim ++ [.char '$'])) :=
    .next rfl rfl .done
  obtain ⟨_, hall⟩ := hall.after hcaret
  have hgo : (start.push (.anchor .textStart)).Goes
    (cut.segments.flatMap Segment.units ++ (cut.tail.map Lexeme.verbatim ++ [.char '$'])) :=
      ⟨_, _, hall⟩
  have hrest : ∀ {e' : Draft} {cs}, e'.level.mode = {} →
      Draft.Reads (start.push (.anchor .textStart))
        (cut.segments.flatMap Segment.units ++ (cut.tail.map Lexeme.verbatim ++ [.char '$'])) cs e'
        (cut.tail.map Lexeme.verbatim ++ [.char '$']) →
      e'.Adds (cut.tail.map Piece.letter ++ [.anchor .lastLineEnd]) 0 d := by
    intro e' cs hmode hreads
    obtain ⟨_, e₁, hreads₁, hadds₁⟩ := Draft.reads_verbatim hmode cut.tail [.char '$']
    have hmode₁ : e₁.level.mode = {} := hadds₁.mode.trans hmode
    obtain ⟨_, hend⟩ := hall.after (hreads.trans (hreads₁.trans (Draft.reads_dollar hmode₁)))
    cases hend
    exact hadds₁.trans (.push e₁ (.anchor .lastLineEnd))
  obtain ⟨segments, tail⟩ := cut
  cases segments with
  | nil => exact ⟨start.push (.anchor .textStart), _, rfl, rfl, .ofAdds (.nil _), hrest rfl .done⟩
  | cons s rest =>
    have hothers := fun s hs => h s (List.mem_cons_of_mem _ hs)
    have hgreed := Greed.read_segments rest tail fun s hs => (hothers s hs).lone
    simp only [List.flatMap_cons, Segment.units, List.append_assoc] at hgo hrest
    obtain ⟨_, e₁, hreads₁, hadds₁⟩ :=
        Draft.reads_verbatim (d := start.push (.anchor .textStart)) rfl
      s.stem (s.placeholder ++
        (rest.flatMap Segment.units ++ (tail.map Lexeme.verbatim ++ [.char '$'])))
    obtain ⟨_, e₂, hreads₂, hwidens₂⟩ := Draft.widens_placeholder (h s List.mem_cons_self)
      hadds₁.mode hgreed (hgo.after hreads₁)
    obtain ⟨_, e₃, hreads₃, hwidens₃⟩ := Draft.widens_segments tail hothers
      (hwidens₂.mode.trans hadds₁.mode) ((hgo.after hreads₁).after hreads₂)
    refine ⟨e₁, e₃, ?_, ?_, hwidens₂.trans hwidens₃,
      hrest ?_ (hreads₁.trans (hreads₂.trans hreads₃))⟩
    · rw [hadds₁.level]
      rfl
    · rw [hadds₁.branch, Draft.letters_parts]
      rfl
    · exact hwidens₃.mode.trans (hwidens₂.mode.trans hadds₁.mode)

/-- The expression of a pattern is split exactly if a fragment that is not optional is. -/
theorem isChoice_expressionOf (h : ∀ s ∈ cut.segments, Usable s.parameter.fragment)
    (hread : ∃ e, Expression.read (CompiledPattern.expressionOf cut) = .ok e) :
    Expression.isChoice (CompiledPattern.expressionOf cut) = cut.segments.any Segment.splits := by
  have hunits := ofChars_expressionOf fun s hs => (h s hs).lone
  obtain ⟨_, he⟩ := hread
  obtain ⟨-, d, hdraft, -⟩ := Expression.read_eq_ok_iff.mp he
  rw [hunits] at hdraft
  obtain ⟨e, e', hnone, -, hwidens, hadds⟩ := exists_reads h hdraft
  have hbranches : d.level.branches = e'.level.branches := by rw [hadds.level]
  simp only [Expression.isChoice, hunits, hdraft, hbranches]
  cases hsplit : cut.segments.any Segment.splits with
  | false => rw [(hwidens.kept hsplit).1, hnone]; rfl
  | true =>
    have hmore := hwidens.more hsplit
    cases hcons : e'.level.branches with
    | nil =>
      rw [hcons] at hmore
      exact absurd hmore (Nat.not_lt_zero _)
    | cons => rfl

/-- If it is not split, the literal text stands at both its ends. -/
theorem exists_parts (h : ∀ s ∈ cut.segments, Usable s.parameter.fragment)
    (hread : ∃ e, Expression.read (CompiledPattern.expressionOf cut) = .ok e)
    (hchoice : cut.segments.any Segment.splits = false) :
    ∃ between, Expression.parts (CompiledPattern.expressionOf cut) =
      .atom (.place .textStart) :: (cut.lead.map Part.letter ++ (between ++
        (cut.tail.map Part.letter ++ [.atom (.place .lastLineEnd)]))) := by
  have hunits := ofChars_expressionOf fun s hs => (h s hs).lone
  obtain ⟨_, he⟩ := hread
  obtain ⟨-, d, hdraft, -⟩ := Expression.read_eq_ok_iff.mp he
  rw [hunits] at hdraft
  obtain ⟨e, e', hnone, hlead, hwidens, hadds⟩ := exists_reads h hdraft
  obtain ⟨hbranches, front, hfront⟩ := hwidens.kept hchoice
  have hbranches : d.level.branches = [] := by rw [hadds.level, hbranches, hnone]
  have hbranch : e'.level.branch = e.level.branch ++ front.reverse.flatMap Piece.parts := by
    simp [Level.branch, hfront]
  refine ⟨front.reverse.flatMap Piece.parts, ?_⟩
  simp only [Expression.parts, hunits, hdraft, Level.content, hbranches, hadds.branch, hbranch,
    hlead,
    List.flatMap_append, Draft.letters_parts]
  simp [Part.joined, Piece.parts]

end Cut

end RequestRouter
