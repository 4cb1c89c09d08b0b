import Mathlib.Algebra.GroupWithZero.Nat
import RequestRouter.Proofs.Pattern.Segments
import RequestRouter.Proofs.Reading.Within

/-!
# The parts of a pattern's expression

The expression of a pattern whose fragments are simple is read into the parts that one would expect:
an anchor, then for each segment its literal characters and the parts of its fragment, with groups
numbered on from those before, then the characters at the end and another anchor
(`Cut.draft_eq_of_simple`). An optional segment is one repetition, once at most.
-/

namespace RequestRouter

namespace Expression

/-- The parts of an expression text, none if it cannot be read. -/
def parts (text : List Char) : List Part :=
  match draft (Units.ofChars text).1 with
  | .ok d => d.level.content
  | .error _ => []

/-- The number of groups of an expression text. -/
def count (text : List Char) : Nat :=
  match draft (Units.ofChars text).1 with
  | .ok d => d.groups
  | .error _ => 0

theorem eq_of_read {text : List Char} {e : Expression} (h : read text = .ok e) :
    e.regex = Part.termOf (parts text) ∧ e.groups = count text := by
  obtain ⟨-, d, hdraft, -, rfl⟩ := read_eq_ok_iff.mp h
  rw [parts, count, hdraft]
  exact ⟨rfl, rfl⟩

end Expression

/-- A fragment that is read by itself and consists of simple constructs. -/
structure Simple (possessive : Bool) (fragment : List Char) : Prop where
  reads : ∃ e, Expression.read fragment = .ok e
  simple : ∀ c ∈ Expression.constructs fragment, c.isSimple possessive = true

namespace Simple

variable {possessive : Bool} {fragment : List Char} (h : Simple possessive fragment)

include h

theorem lone : (Units.ofChars fragment).2 = false := by
  obtain ⟨e, he⟩ := h.reads
  exact (Expression.read_eq_ok_iff.mp he).1

theorem draft : ∃ d, Expression.draft (Units.ofChars fragment).1 = .ok d ∧
    Expression.parts fragment = d.level.content ∧ Expression.count fragment = d.groups := by
  obtain ⟨e, he⟩ := h.reads
  obtain ⟨-, d, hdraft, -⟩ := Expression.read_eq_ok_iff.mp he
  exact ⟨d, hdraft, by rw [Expression.parts, hdraft], by rw [Expression.count, hdraft]⟩

theorem chain :
    Part.Chain possessive 0 (Expression.count fragment) (Expression.parts fragment) := by
  obtain ⟨d, hdraft, hparts, hcount⟩ := h.draft
  rw [hparts, hcount]
  exact (Expression.chain_of_isSimple hdraft h.simple).1

end Simple

namespace Draft

section Enclosed

variable {possessive : Bool} {fragment : List Char} {d e : Draft} {more : Units}

/-- Going up from the parts of a fragment, numbered further on, adds them as one group. -/
theorem adds_ascend {d₂ e₂ : Draft} {count : Nat} {content : List Part}
    (h : Shifted e.groups d₂ e₂) (htests : e.tests = []) (hgroups : d₂.groups = count)
    (hclosed : e₂.closedParts = content) :
    e.Adds [.group content] count (e₂.ascend e.level e.outer) where
  level := by
    rw [ascend, hclosed]
    rfl
  outer := rfl
  groups := by rw [ascend_groups, h.groups, hgroups, Nat.add_comm]
  tests := by rw [ascend_tests, h.tests, htests]

/-- A fragment that is one pair of parentheses is read as it stands. -/
theorem reads_single (h : Simple possessive fragment)
    (hdraft : Expression.draft (Units.ofChars fragment).1 = .ok d) (hmode : e.level.mode = {})
    (htests : e.tests = []) (hsingle : isSingleGroup fragment = true)
    (hgo : (∀ name, .opening (.named name) ∉ Expression.constructs fragment) ∨
      e.Goes ((Units.ofChars fragment).1 ++ more)) :
    ∃ cs e', Reads e ((Units.ofChars fragment).1 ++ more) cs e' more ∧
      e.Adds [.group (d.level.content.map (Part.shift e.groups))] d.groups e' := by
  have hcomments := fun c hc => Construct.isComment_of_isSimple (h.simple c hc)
  have hflags : ∀ on, (Expression.constructs fragment).head? ≠ some (.opening (.flags on)) := by
    intro on heq
    cases h.simple _ (List.mem_of_mem_head? heq)
  obtain ⟨header, body, hcs, hdescends, hbalanced⟩ :=
    Expression.constructs_of_isSingleGroup hdraft h.lone hsingle hcomments hflags
  have hreads := Expression.reads_of_draft hdraft
  have hsimple := h.simple
  rw [hcs] at hreads hgo hsimple
  obtain ⟨unit, rest, after, d₁, d₂, hunits, hread, hopen, hbody, rfl⟩ :=
    exists_of_reads_bracket hdescends (runs_of_reads hbalanced) hreads
  have hlast := Units.getLast?_of_spans
    ((Units.spans_ofChars _ _ h.lone).symm.trans (Bool.and_eq_true_iff.mp hsingle).2)
  rw [hunits] at hgo hlast ⊢
  have hheader : header.isSimple = true := hsimple _ List.mem_cons_self
  have hinner := fun c hc => hsimple c (List.mem_cons_of_mem _ (List.mem_append_left _ hc))
  have hsealed : Units.Sealed (unit :: rest) more := .inr hlast
  have hsuffix := (Construct.read_suffix hread).trans (List.suffix_cons unit rest)
  have hgo : (∀ name, .opening (.named name) ∉ .opening header :: body) ∨
      e.Goes (unit :: rest ++ more) := by
    refine hgo.imp_left fun h name hmem => h name ?_
    rw [← List.cons_append]
    exact List.mem_append_left _ hmem
  obtain ⟨e₂, hreads₂, h₂, hclosed⟩ := reads_bracket hmode (Nat.zero_add _).symm htests
    hheader hdescends hread hopen hbody hsealed hgo
    fun e₁ he₁ hgo₁ => hbody.shifted hinner he₁ (hsealed.suffix hsuffix) hgo₁
  refine ⟨_, _, hreads₂, adds_ascend h₂ htests (ascend_groups _ _ _).symm ?_⟩
  rw [hclosed]
  simp [ascend, Level.content, Level.branch, Level.push, start, Part.joined, Piece.parts]

/-- Any other fragment is read inside of parentheses that do not capture. -/
theorem reads_wrapped (h : Simple possessive fragment)
    (hdraft : Expression.draft (Units.ofChars fragment).1 = .ok d) (hmode : e.level.mode = {})
    (htests : e.tests = [])
    (hgo : (∀ name, .opening (.named name) ∉ Expression.constructs fragment) ∨
      e.Goes ((Units.ofChars ("(?:".toList ++ fragment ++ [')'])).1 ++ more)) :
    ∃ cs e', Reads e ((Units.ofChars ("(?:".toList ++ fragment ++ [')'])).1 ++ more) cs e' more ∧
      e.Adds [.group (d.level.content.map (Part.shift e.groups))] d.groups e' := by
  have hunits : (Units.ofChars ("(?:".toList ++ fragment ++ [')'])).1 =
      .char '(' :: .char '?' :: .char ':' :: ((Units.ofChars fragment).1 ++ [.char ')']) := by
    rw [List.append_assoc, Units.ofChars_append (by decide), Units.ofChars_append h.lone]
    rfl
  rw [hunits] at hgo ⊢
  simp only [List.cons_append, List.append_assoc, List.nil_append] at hgo ⊢
  generalize hinside : (Units.ofChars fragment).1 ++ .char ')' :: more = inside at hgo ⊢
  have hread : Construct.read e.level.mode (.char '(') (.char '?' :: .char ':' :: inside) =
      .ok (.opening (.scoped [] []), inside) := rfl
  obtain ⟨e₁, hopen, h₁, houter₁, hopener₁⟩ : ∃ e₁,
      e.take (Units.width (.char '?' :: .char ':' :: inside)) inside
        (.opening (.scoped [] [])) = some e₁ ∧
      Shifted e.groups (.start (Units.ofChars fragment).1.width) e₁ ∧
      e₁.outer = e.level :: e.outer ∧ e₁.level.opener = .bare false :=
    ⟨_, rfl,
      { mode := hmode
        pieces := rfl
        branches := rfl
        groups := (Nat.zero_add _).symm
        tests := htests
        opener := by rintro _ ⟨⟩ }, rfl, rfl⟩
  have hgo₁ := hgo.imp_right fun h => h.after (.next hread hopen .done)
  rw [← hinside] at hgo₁
  have hruns := runs_of_draft hdraft
  obtain ⟨e₂, hreads₂, h₂, houter⟩ := hruns.shifted h.simple h₁ (fun _ => .inl rfl) hgo₁
  have hopener := (runs_of_reads hruns.balanced hreads₂).opener.trans hopener₁
  rw [hinside] at hreads₂
  refine ⟨_, _, .next hread hopen (hreads₂.trans (reads_close (houter.trans houter₁) more)),
    adds_ascend h₂ htests rfl ?_⟩
  rw [closedParts, hopener]
  exact h₂.content

theorem reads_enclosed (h : Simple possessive fragment) (hmode : e.level.mode = {})
    (htests : e.tests = [])
    (hgo : (∀ name, .opening (.named name) ∉ Expression.constructs fragment) ∨
      e.Goes ((Units.ofChars (CompiledPattern.enclosed fragment)).1 ++ more)) :
    ∃ cs e', Reads e ((Units.ofChars (CompiledPattern.enclosed fragment)).1 ++ more) cs e' more ∧
      e.Adds [.group ((Expression.parts fragment).map (Part.shift e.groups))]
        (Expression.count fragment) e' := by
  obtain ⟨d, hdraft, hparts, hcount⟩ := h.draft
  rw [hparts, hcount]
  unfold CompiledPattern.enclosed at hgo ⊢
  split
  · next hsingle =>
    rw [if_pos hsingle] at hgo
    exact reads_single h hdraft hmode htests hsingle hgo
  · next hsingle =>
    rw [if_neg hsingle] at hgo
    exact reads_wrapped h hdraft hmode htests hgo

end Enclosed

/-- A level with nothing before the pieces, which only encloses, closes into their parts. -/
theorem Adds.closedParts {e e' : Draft} {pieces : List Piece} {count : Nat} (h :
    e.Adds pieces count e')
    (hopener : e.level.opener = .bare false) (hpieces : e.level.pieces = [])
    (hbranches : e.level.branches = []) : e'.closedParts = pieces.flatMap Piece.parts := by
  have hblank : e.level.branch = [] := by
    rw [Level.branch, hpieces]
    rfl
  have hbranch := h.branch
  rw [hblank, List.nil_append] at hbranch
  have hnone : e'.level.branches = [] := by rw [h.level, hbranches]
  have hopener' : e'.level.opener = .bare false := h.opener.trans hopener
  simp only [Draft.closedParts, hopener', Level.content, hnone, hbranch, List.reverse_singleton,
    Part.joined]

theorem reads_optional {possessive : Bool} {fragment : List Char} (h : Simple possessive fragment)
    {e : Draft} {more : Units} (hmode : e.level.mode = {}) (htests : e.tests = [])
    (hgreed : Greed.read more = (.greedy, more)) (slash : List Char)
    (hgo : (∀ name, .opening (.named name) ∉ Expression.constructs fragment) ∨
      e.Goes (.char '(' :: .char '?' :: .char ':' :: (slash.map Lexeme.verbatim ++
        ((Units.ofChars (CompiledPattern.enclosed fragment)).1 ++
          .char ')' :: .char '?' :: more)))) :
    ∃ cs e', Reads e (.char '(' :: .char '?' :: .char ':' :: (slash.map Lexeme.verbatim ++
        ((Units.ofChars (CompiledPattern.enclosed fragment)).1 ++
          .char ')' :: .char '?' :: more))) cs e' more ∧
      e.Adds [.repeated (.loop .greedy 0 (some 1) (Part.termOf (slash.map Part.letter ++
        (Expression.parts fragment).map (Part.shift e.groups))))]
        (Expression.count fragment) e' := by
  obtain ⟨e₁, hopen, ⟨left, hlevel₁⟩, -, hgroups₁, htests₁, hclose⟩ :=
    reads_optional_parenthesis hmode hgreed
  have hmode₁ : e₁.level.mode = {} := by rw [hlevel₁]
  -- the slash and the fragment
  obtain ⟨_, e₂, hreads₂, hadds₂⟩ := reads_verbatim hmode₁ slash
    ((Units.ofChars (CompiledPattern.enclosed fragment)).1 ++ .char ')' :: .char '?' :: more)
  obtain ⟨_, e₃, hreads₃, hadds₃⟩ := reads_enclosed h (hadds₂.mode.trans hmode₁)
    (hadds₂.tests.trans (htests₁.trans htests))
    (hgo.imp_right fun h => (h.after hopen).after hreads₂)
  have hadds := hadds₂.trans hadds₃
  obtain ⟨_, e', hreads, hlevel, houter, hgroups, htests'⟩ :=
    hclose (hreads₂.trans hreads₃) hadds.outer
  have hclosed := hadds.closedParts (by rw [hlevel₁]) (by rw [hlevel₁]) (by rw [hlevel₁])
  have hgroups₂ : e₂.groups = e.groups := by rw [hadds₂.groups, hgroups₁, Nat.add_zero]
  have hparts : e₃.closedParts = slash.map Part.letter ++
      (Expression.parts fragment).map (Part.shift e.groups) := by
    rw [hclosed, hgroups₂, List.flatMap_append, List.flatMap_map, List.flatMap_singleton]
    exact congrArg (· ++ _) List.map_eq_flatMap.symm
  refine ⟨_, e', hreads, ?_⟩
  exact
    { level := by rw [hlevel, hparts]; rfl
      outer := houter
      groups := by rw [hgroups, hadds.groups, hgroups₁, Nat.zero_add]
      tests := by rw [htests', hadds.tests, htests₁] }

end Draft

/-! ## Segments -/

namespace Segment

/-- The parts of a segment that `before` groups precede. -/
def parts (before : Nat) (s : Segment) : List Part :=
  let inside := (Expression.parts s.parameter.fragment).map (Part.shift before)
  s.stem.map Part.letter ++
    if s.parameter.optional then
      [.whole (.loop .greedy 0 (some 1) (Part.termOf (s.slash.map Part.letter ++ inside)))]
    else inside

/-- The parts of segments one after another. -/
def partsOf : (before : Nat) → List Segment → List Part
  | _, [] => []
  | before, s :: rest => s.parts before ++
      partsOf (before + Expression.count s.parameter.fragment) rest

/-- The number of groups of some segments. -/
def groupsOf (segments : List Segment) : Nat :=
  (segments.map fun s => Expression.count s.parameter.fragment).sum

end Segment

namespace Draft

theorem letters_parts (text : List Char) :
    (text.map Piece.letter).flatMap Piece.parts = text.map Part.letter := by
  rw [List.flatMap_map]
  exact List.map_eq_flatMap.symm

theorem reads_segment {possessive : Bool} {s : Segment} (h : Simple possessive s.parameter.fragment)
    {e : Draft} {more : Units} (hmode : e.level.mode = {}) (htests : e.tests = [])
    (hgreed : Greed.read more = (.greedy, more))
    (hgo : (∀ name, .opening (.named name) ∉ Expression.constructs s.parameter.fragment) ∨
      e.Goes (s.units ++ more)) :
    ∃ cs e' pieces, Reads e (s.units ++ more) cs e' more ∧
      e.Adds pieces (Expression.count s.parameter.fragment) e' ∧
      pieces.flatMap Piece.parts = s.parts e.groups := by
  rw [Segment.units, List.append_assoc] at hgo ⊢
  obtain ⟨_, e₁, hreads₁, hadds₁⟩ := reads_verbatim hmode s.stem (s.placeholder ++ more)
  unfold Segment.placeholder at hgo hreads₁ ⊢
  have hgo₁ := hgo.imp_right fun h => h.after hreads₁
  have hmode₁ := hadds₁.mode.trans hmode
  have htests₁ := hadds₁.tests.trans htests
  have hgroups₁ : e₁.groups = e.groups := hadds₁.groups
  unfold Segment.parts
  rw [← letters_parts]
  cases hoptional : s.parameter.optional with
  | false =>
    simp only [hoptional, Bool.false_eq_true, if_false] at hreads₁ hgo₁ ⊢
    obtain ⟨_, e₂, hreads₂, hadds₂⟩ := reads_enclosed h hmode₁ htests₁ hgo₁
    rw [hgroups₁] at hadds₂
    have hadds := hadds₁.trans hadds₂
    rw [Nat.zero_add] at hadds
    refine ⟨_, e₂, _, hreads₁.trans hreads₂, hadds, ?_⟩
    rw [List.flatMap_append, List.flatMap_singleton]
    rfl
  | true =>
    simp only [hoptional, if_true, List.cons_append, List.append_assoc,
      List.nil_append] at hreads₁ hgo₁ ⊢
    obtain ⟨_, e₂, hreads₂, hadds₂⟩ := reads_optional h hmode₁ htests₁ hgreed s.slash hgo₁
    rw [hgroups₁] at hadds₂
    have hadds := hadds₁.trans hadds₂
    rw [Nat.zero_add] at hadds
    refine ⟨_, e₂, _, hreads₁.trans hreads₂, hadds, ?_⟩
    rw [List.flatMap_append, List.flatMap_singleton]
    rfl

theorem reads_segments {possessive : Bool} {segments : List Segment} (tail : List Char)
    (h : ∀ s ∈ segments, Simple possessive s.parameter.fragment) {e : Draft}
    (hmode : e.level.mode = {}) (htests : e.tests = [])
    (hgo : (∀ s ∈ segments, ∀ name,
        .opening (.named name) ∉ Expression.constructs s.parameter.fragment) ∨
      e.Goes (segments.flatMap Segment.units ++ (tail.map Lexeme.verbatim ++ [.char '$']))) :
    ∃ cs e' pieces, Reads e
        (segments.flatMap Segment.units ++ (tail.map Lexeme.verbatim ++ [.char '$'])) cs e'
        (tail.map Lexeme.verbatim ++ [.char '$']) ∧
      e.Adds pieces (Segment.groupsOf segments) e' ∧
      pieces.flatMap Piece.parts = Segment.partsOf e.groups segments := by
  induction segments generalizing e with
  | nil => exact ⟨[], e, [], .done, Adds.nil e, rfl⟩
  | cons s rest ih =>
    have hone := h s List.mem_cons_self
    have hothers := fun s hs => h s (List.mem_cons_of_mem _ hs)
    rw [List.flatMap_cons, List.append_assoc] at hgo ⊢
    have hgreed := Greed.read_segments rest tail fun s hs => (hothers s hs).lone
    obtain ⟨_, e₁, pieces₁, hreads₁, hadds₁, hparts₁⟩ := reads_segment hone hmode htests hgreed
      (hgo.imp_left fun h => h s List.mem_cons_self)
    obtain ⟨_, e₂, pieces₂, hreads₂, hadds₂, hparts₂⟩ := ih hothers (hadds₁.mode.trans hmode)
      (hadds₁.tests.trans htests)
      (hgo.imp (fun h s hs => h s (List.mem_cons_of_mem _ hs)) fun h => h.after hreads₁)
    refine ⟨_, e₂, _, hreads₁.trans hreads₂, hadds₁.trans hadds₂, ?_⟩
    rw [List.flatMap_append, hparts₁, hparts₂, hadds₁.groups]
    rfl

end Draft

namespace Cut

/-- The parts of the expression of a pattern. -/
def parts (cut : Cut) : List Part :=
  .atom (.place .textStart) :: (Segment.partsOf 0 cut.segments ++
    (cut.tail.map Part.letter ++ [.atom (.place .lastLineEnd)]))

/-- The expression of a pattern whose fragments are simple is read into the parts of its segments.
-/
theorem draft_eq_of_simple {possessive : Bool} {cut : Cut}
    (h : ∀ s ∈ cut.segments, Simple possessive s.parameter.fragment)
    (hgo : (∀ s ∈ cut.segments, ∀ name,
        .opening (.named name) ∉ Expression.constructs s.parameter.fragment) ∨
      ∃ d, Expression.draft cut.units = .ok d) :
    ∃ d, Expression.draft cut.units = .ok d ∧ d.level.content = cut.parts ∧
      d.groups = Segment.groupsOf cut.segments ∧ d.level.mode = {} := by
  let start := Draft.start (Units.width cut.units)
  have hcaret : Draft.Reads start cut.units [.edge false] (start.push (.anchor .textStart))
      (cut.segments.flatMap Segment.units ++ (cut.tail.map Lexeme.verbatim ++ [.char '$'])) :=
    .next rfl rfl .done
  have hgo₁ : (∀ s ∈ cut.segments, ∀ name,
        .opening (.named name) ∉ Expression.constructs s.parameter.fragment) ∨
      (start.push (.anchor .textStart)).Goes
        (cut.segments.flatMap Segment.units ++ (cut.tail.map Lexeme.verbatim ++ [.char '$'])) := by
    refine hgo.imp_right fun ⟨d, hd⟩ => ?_
    obtain ⟨⟨cs, hreads⟩, -⟩ := Expression.draft_eq_ok_iff.mp hd
    exact Draft.Goes.after ⟨cs, d, hreads⟩ hcaret
  obtain ⟨_, e₁, pieces, hreads₁, hadds₁, hparts⟩ := Draft.reads_segments cut.tail h
    (e := start.push (.anchor .textStart)) rfl rfl hgo₁
  have hmode₁ : e₁.level.mode = {} := hadds₁.mode
  obtain ⟨_, e₂, hreads₂, hadds₂⟩ := Draft.reads_verbatim hmode₁ cut.tail [.char '$']
  have hmode₂ : e₂.level.mode = {} := hadds₂.mode.trans hmode₁
  have hreads := hcaret.trans (hreads₁.trans (hreads₂.trans (Draft.reads_dollar hmode₂)))
  have hadds := (Draft.Adds.push start (.anchor .textStart)).trans
    (hadds₁.trans (hadds₂.trans (Draft.Adds.push e₂ (.anchor .lastLineEnd))))
  have hmode : (e₂.push (.anchor .lastLineEnd)).level.mode = {} := hadds.mode
  refine ⟨e₂.push (.anchor .lastLineEnd), Expression.draft_eq_ok_iff.mpr ⟨⟨_, hreads⟩, ?_⟩, ?_, ?_,
    hmode⟩
  · refine Draft.finish_eq_ok_iff.mpr ⟨rfl, hadds.outer, ?_, fun test htest => ?_⟩
    · rw [hmode]
      rfl
    · rw [hadds.tests] at htest
      cases htest
  · have hbranch := hadds.branch
    have hnone : (e₂.push (.anchor .lastLineEnd)).level.branches = [] := by rw [hadds.level]; rfl
    rw [Level.content, hnone, hbranch]
    simp only [List.flatMap_append, hparts, Draft.letters_parts]
    rfl
  · rw [hadds.groups]
    show 0 + (0 + (Segment.groupsOf cut.segments + (0 + 0))) = _
    omega

end Cut

end RequestRouter
