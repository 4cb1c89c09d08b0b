import RequestRouter.Proofs.Pattern.Regular
import RequestRouter.Proofs.Pattern.Shares
import RequestRouter.Proofs.Pattern.Validation

/-!
# What the groups of a match took

In strict mode a fragment is one group, which has the groups inside of it behind it. So the groups
of a match fall into one share for each parameter (`Segment.values_sharesOf`). What the own group of
a parameter took is what its fragment takes at that place, and the fragment by itself accepts that
(`Segment.fits_share`). The own groups of parameters that are not optional always take part.
-/

namespace RequestRouter

/-- A fragment of literals, classes, groups, choices and repetitions, where possessive repetitions
repeat single characters. -/
structure Orderly (fragment : List Char) : Prop where
  simple : ∀ c ∈ Expression.constructs fragment, c.isSimple true = true
  keeps : (Part.termOf (Expression.parts fragment)).keepsSingly = true

namespace Usable

variable {possessive : Bool} {fragment : List Char} (h : Usable fragment)

include h

theorem simple (horderly : Orderly fragment) : Simple true fragment where
  reads := h.passed.2.2
  simple := horderly.simple

/-- A usable fragment that is simple is one group. -/
theorem exists_parts (hsimple : Simple possessive fragment) :
    ∃ body, Expression.parts fragment = [.whole (.group 1 body)] := by
  obtain ⟨d, hdraft, hparts, -⟩ := hsimple.draft
  have hcomments := fun c hc => Construct.isComment_of_isSimple (hsimple.simple c hc)
  have hflags : ∀ on, (Expression.constructs fragment).head? ≠ some (.opening (.flags on)) :=
    fun on heq => nomatch hsimple.simple _ (List.mem_of_mem_head? heq)
  obtain ⟨header, body, hcs, hdescends, hbalanced⟩ :=
    Expression.constructs_of_isSingleGroup hdraft h.lone h.passed.1 hcomments hflags
  have hcaptures : header.captures = true := by
    obtain ⟨header', rest, hcs', hheader⟩ := h.exists_opening
    rw [hcs'] at hcs
    cases hcs
    rcases hheader with rfl | ⟨_, rfl⟩ <;> rfl
  have hheader : header.isSimple = true := hsimple.simple (.opening header) (by
    rw [hcs]
    exact List.mem_cons_self)
  have hreads := Expression.reads_of_draft hdraft
  rw [hcs] at hreads
  obtain ⟨_, _, _, d₁, d₂, _, -, hopen, hbody, rfl⟩ :=
    Draft.exists_of_reads_bracket hdescends (Draft.runs_of_reads hbalanced) hreads
  obtain ⟨hlevel, hgroups, -, -⟩ := Draft.openWith_of_isSimple hheader hopen
  have hopener : d₂.level.opener = if true then .capture d₁.groups else .bare false := by
    rw [hbody.opener, hlevel, hcaptures]
  have hclosed := Draft.closedParts_of_opener hopener
  rw [hgroups, hcaptures] at hclosed
  refine ⟨d₂.level.term, ?_⟩
  rw [hparts]
  show Part.joined _ _ = _
  simp [Draft.ascend, Level.branch, Level.push, Draft.start, Part.joined, Piece.parts, hclosed]

theorem count_pos (hsimple : Simple possessive fragment) : 0 < Expression.count fragment := by
  obtain ⟨body, hparts⟩ := h.exists_parts hsimple
  have hchain := hsimple.chain
  rw [hparts] at hchain
  obtain ⟨-, hbody⟩ := (Part.chain_singleton.mp hchain).numbered
  exact hbody.le

end Usable

/-! ## Shares of segments -/

/-- The text that a group took, if it took part. -/
def Marks.textOf (text : Array Char) (marks : Marks) (number : Nat) : Option (List Char) :=
  (marks.span number).map fun (first, last) => slice text first last

theorem Expression.captures_eq (e : Expression) (text : Array Char) (marks : Marks) :
    e.captures text marks = (List.range' 1 e.groups).map (marks.textOf text) := by
  rw [captures, groupNumbers, List.range'_eq_map_range]
  simp [Marks.textOf, Nat.add_comm]

namespace Segment

variable {texts : Nat → Option (List Char)} {before : Nat} {s : Segment} {segments : List Segment}

/-- What the groups of a placeholder took that `before` groups precede. -/
def share (texts : Nat → Option (List Char)) (before : Nat) (s : Segment) : Share where
  parameter := s.parameter
  own := texts (before + 1)
  nested := (List.range' (before + 2) (Expression.count s.parameter.fragment - 1)).filterMap texts

/-- What the groups of placeholders one after another took. -/
def sharesOf (texts : Nat → Option (List Char)) : (before : Nat) → List Segment → List Share
  | _, [] => []
  | before, s :: rest =>
    s.share texts before :: sharesOf texts (before + Expression.count s.parameter.fragment) rest

theorem parameter_sharesOf :
    (sharesOf texts before segments).map Share.parameter = segments.map Segment.parameter := by
  induction segments generalizing before with
  | nil => rfl
  | cons s rest ih => rw [sharesOf, List.map_cons, ih, List.map_cons, share]

theorem groupsOf_cons : groupsOf (s :: segments) =
    Expression.count s.parameter.fragment + groupsOf segments := by
  rw [groupsOf, List.map_cons, List.sum_cons, groupsOf]

theorem groupsOf_append {others : List Segment} :
    groupsOf (segments ++ others) = groupsOf segments + groupsOf others := by
  rw [groupsOf, List.map_append, List.sum_append, groupsOf, groupsOf]

theorem groupsOf_eq_length (h : ∀ s ∈ segments, Expression.count s.parameter.fragment = 1) :
    groupsOf segments = segments.length := by
  induction segments with
  | nil => rfl
  | cons s rest ih =>
    rw [groupsOf_cons, h s List.mem_cons_self, ih fun s hs => h s (List.mem_cons_of_mem _ hs),
      List.length_cons, Nat.add_comm]

theorem sharesOf_append {others : List Segment} :
    sharesOf texts before (segments ++ others) =
      sharesOf texts before segments ++ sharesOf texts (before + groupsOf segments) others := by
  induction segments generalizing before with
  | nil => rfl
  | cons s rest ih =>
    rw [List.cons_append, sharesOf, ih, sharesOf, groupsOf_cons, List.cons_append, Nat.add_assoc]

theorem exists_of_mem_sharesOf {t : Share} (h : t ∈ sharesOf texts before segments) :
    ∃ front s back, segments = front ++ s :: back ∧
      t = s.share texts (before + groupsOf front) := by
  induction segments generalizing before with
  | nil => cases h
  | cons s rest ih =>
    rcases List.mem_cons.mp h with rfl | h
    · exact ⟨[], s, rest, rfl, rfl⟩
    · obtain ⟨front, s', back, rfl, rfl⟩ := ih h
      refine ⟨s :: front, s', back, rfl, ?_⟩
      rw [groupsOf_cons, Nat.add_assoc]

theorem values_sharesOf (h : ∀ s ∈ segments, 0 < Expression.count s.parameter.fragment) :
    (sharesOf texts before segments).flatMap Share.values =
      (List.range' (before + 1) (groupsOf segments)).filterMap texts := by
  induction segments generalizing before with
  | nil => rfl
  | cons s rest ih =>
    have hone : (s.share texts before).values =
        (List.range' (before + 1) (Expression.count s.parameter.fragment)).filterMap texts := by
      obtain ⟨count, hcount⟩ := Nat.exists_eq_succ_of_ne_zero
        (Nat.ne_of_gt (h s List.mem_cons_self))
      rw [share, Share.values, hcount, Nat.succ_sub_one, List.range'_succ, List.filterMap_cons]
      cases texts (before + 1) <;> rfl
    rw [sharesOf, List.flatMap_cons, hone, ih fun s hs => h s (List.mem_cons_of_mem _ hs),
      ← List.filterMap_append, groupsOf_cons, Nat.add_right_comm, List.range'_append_1]

end Segment

/-! ## Shares of a match -/

/-- The marks record what the groups of a part took, and those that it leads through in any case
took part. -/
structure Part.Traced (text : Array Char) (marks : Marks) (part : Part) : Prop where
  recorded : part.regex.Recorded text marks
  marked : ∀ number, part.regex.Marked number → ∃ pos, marks.at? (Marks.openPlace number) = some pos

namespace Segment

variable {text : Array Char} {marks : Marks} {before : Nat} {s : Segment} {segments : List Segment}

/-- The own group of a placeholder either has no text, which is so only if the placeholder is
optional, or one that its fragment takes there. -/
theorem own_cases {body : Regex}
    (hparts : Expression.parts s.parameter.fragment = [.whole (.group 1 body)])
    (htraced : ∀ part ∈ s.parts before, part.Traced text marks) :
    (s.parameter.optional = true ∧ marks.span (before + 1) = none) ∨
      ∃ p q, p ≤ text.size ∧ marks.span (before + 1) = some (p, q) ∧
        Part.Takes text (Expression.parts s.parameter.fragment) p q := by
  have hinside : (Expression.parts s.parameter.fragment).map (Part.shift before) =
      [.whole (.group (before + 1) (body.shift before))] := by
    rw [hparts, Nat.add_comm before 1]
    rfl
  have hgroup : (Regex.group (before + 1) (body.shift before)).Recorded text marks ∧
      (s.parameter.optional = false →
        ∃ pos, marks.at? (Marks.openPlace (before + 1)) = some pos) := by
    simp only [parts, hinside] at htraced
    cases hoptional : s.parameter.optional with
    | false =>
      simp only [hoptional, Bool.false_eq_true, if_false] at htraced
      have hone := htraced _ (List.mem_append_right _ List.mem_cons_self)
      exact ⟨hone.recorded, fun _ => hone.marked (before + 1) (.inl rfl)⟩
    | true =>
      simp only [hoptional, if_true] at htraced
      have hone := (htraced _ (List.mem_append_right _ List.mem_cons_self)).recorded
      have hinner := Part.recorded_termOf.mp hone _ (List.mem_append_right _ List.mem_cons_self)
      exact ⟨hinner, fun h => nomatch h⟩
  obtain ⟨⟨hown, -⟩, hrequired⟩ := hgroup
  rcases hown with ⟨hopen, -⟩ | ⟨p, q, hopen, hclose, hp, htakes⟩
  · refine .inl ⟨?_, Marks.span_eq_none hopen⟩
    cases hoptional : s.parameter.optional with
    | true => rfl
    | false =>
      obtain ⟨pos, hpos⟩ := hrequired hoptional
      rw [hopen] at hpos
      cases hpos
  · have hspan := Marks.span_eq_some hopen hclose htakes.le
    have hone : Part.Takes text [.whole (.group (before + 1) (body.shift before))] p q :=
      ⟨q, htakes, rfl⟩
    rw [← hinside, Part.takes_map_shift] at hone
    exact .inr ⟨p, q, hp, hspan, hone⟩

/-- The shares of a match fit their parameters, and those of parameters that are not optional have a
text. -/
theorem fits_sharesOf (husable : ∀ s ∈ segments, Usable s.parameter.fragment)
    (horderly : ∀ s ∈ segments, Orderly s.parameter.fragment)
    (htraced : ∀ part ∈ partsOf before segments, part.Traced text marks) :
    ∀ t ∈ sharesOf (marks.textOf text) before segments,
      t.Fits ∧ (t.parameter.optional = false → t.own.isSome = true) := by
  induction segments generalizing before with
  | nil => exact fun t ht => nomatch ht
  | cons s rest ih =>
    intro t ht
    rcases List.mem_cons.mp ht with rfl | ht
    · have hsimple := (husable s List.mem_cons_self).simple (horderly s List.mem_cons_self)
      have hkeeps := (horderly s List.mem_cons_self).keeps
      obtain ⟨body, hparts⟩ := (husable s List.mem_cons_self).exists_parts hsimple
      have hown := own_cases hparts fun part hpart => htraced part (List.mem_append_left _ hpart)
      refine ⟨⟨hsimple.exists_accepts hkeeps, fun value hvalue => ?_⟩, fun hrequired => ?_⟩
      · rcases hown with ⟨-, hspan⟩ | ⟨p, q, hp, hspan, htakes⟩
        · simp [share, Marks.textOf, hspan] at hvalue
        · obtain rfl : slice text p q = value := by
            simpa [share, Marks.textOf, hspan] using hvalue
          exact hsimple.accepts_of_takes hkeeps hp htakes
      · rcases hown with ⟨hoptional, -⟩ | ⟨p, q, -, hspan, -⟩
        · have hrequired : s.parameter.optional = false := hrequired
          rw [hoptional] at hrequired
          cases hrequired
        · simp [share, Marks.textOf, hspan]
    · exact ih (fun s hs => husable s (List.mem_cons_of_mem _ hs))
        (fun s hs => horderly s (List.mem_cons_of_mem _ hs))
        (fun part hpart => htraced part (List.mem_append_right _ hpart)) t ht

end Segment

namespace Segment

/-- The groups of a match fall into the shares of the segments. -/
structure Covers (segments : List Segment) (texts : Nat → Option (List Char))
    (groups : List (Option (List Char))) : Prop where
  groups : groups = (List.range' 1 (groupsOf segments)).map texts
  positive : ∀ s ∈ segments, 0 < Expression.count s.parameter.fragment
  fits : ∀ t ∈ sharesOf texts 0 segments, t.Fits
  required : ∀ t ∈ sharesOf texts 0 segments, t.parameter.optional = false → t.own.isSome = true

namespace Covers

variable {segments : List Segment} {texts : Nat → Option (List Char)}
  {groups : List (Option (List Char))} (h : Covers segments texts groups)

include h

theorem pool : groups.filterMap id = (sharesOf texts 0 segments).flatMap Share.values := by
  rw [values_sharesOf h.positive, h.groups, List.filterMap_map]
  rfl

theorem length (hcount : ∀ s ∈ segments, Expression.count s.parameter.fragment = 1) :
    groups.length = segments.length := by
  rw [h.groups, List.length_map, List.length_range', groupsOf_eq_length hcount]

/-- The own group of a segment has the groups of the segments before it in front of it. -/
theorem getElem?_own {front back : List Segment} {s : Segment}
    (hsegments : segments = front ++ s :: back) :
    groups[groupsOf front]? = some (s.share texts (groupsOf front)).own := by
  have hpositive := h.positive s (by simp [hsegments])
  have hlt : groupsOf front < groupsOf segments := by
    rw [hsegments, groupsOf_append, groupsOf_cons]
    omega
  rw [h.groups, List.getElem?_map, List.getElem?_range' hlt, Option.map_some, Nat.one_mul,
    Nat.add_comm]
  rfl

/-- Where each fragment has one group, the groups are the own groups of the segments. -/
theorem exists_share (hcount : ∀ s ∈ segments, Expression.count s.parameter.fragment = 1) {i : Nat}
    (hi : i < segments.length) : ∃ t ∈ sharesOf texts 0 segments,
      t.parameter = segments[i].parameter ∧ groups[i]? = some t.own := by
  obtain ⟨front, s, back, hsegments, hfront, hs⟩ : ∃ front s back,
      segments = front ++ s :: back ∧ front.length = i ∧ segments[i] = s :=
    ⟨segments.take i, segments[i], segments.drop (i + 1),
      by rw [List.getElem_cons_drop, List.take_append_drop], by rw [List.length_take]; omega, rfl⟩
  have hplace : groupsOf front = i := by
    rw [groupsOf_eq_length fun s hs => hcount s (by simp [hsegments, hs]), hfront]
  have hown := h.getElem?_own hsegments
  rw [hplace] at hown
  refine ⟨s.share texts i, ?_, by rw [hs]; rfl, hown⟩
  rw [hsegments, sharesOf_append, sharesOf, hplace, Nat.zero_add]
  exact List.mem_append_right _ List.mem_cons_self

/-- If each fragment has one group and no parameter is optional, all groups took part. -/
theorem exists_eq_map_some (hcount : ∀ s ∈ segments, Expression.count s.parameter.fragment = 1)
    (hrequired : ∀ s ∈ segments, s.parameter.optional = false) :
    ∃ values : List (List Char), groups = values.map some := by
  have hsome : ∀ group ∈ groups, group.isSome = true := by
    intro group hgroup
    obtain ⟨i, hi, rfl⟩ := List.getElem_of_mem hgroup
    obtain ⟨t, ht, hparameter, hown⟩ := h.exists_share hcount (h.length hcount ▸ hi)
    rw [List.getElem?_eq_getElem hi, Option.some_inj] at hown
    rw [hown]
    refine h.required t ht ?_
    rw [hparameter]
    exact hrequired _ (List.getElem_mem _)
  refine ⟨groups.filterMap id, ?_⟩
  rw [List.map_filterMap_some_eq_filter_map_isSome, List.map_id, List.filter_eq_self.mpr hsome]

/-- If each fragment has one group and the first ones took part, what they took is accepted. -/
theorem accepts_of_zip {values : List (List Char)} {absent : Nat}
    (hcount : ∀ s ∈ segments, Expression.count s.parameter.fragment = 1)
    (hgroups : groups = values.map some ++ List.replicate absent none) :
    ∀ pair ∈ (segments.map Segment.parameter).zip values, pair.1.accepts pair.2 = .ok true := by
  intro pair hpair
  obtain ⟨i, hi, rfl⟩ := List.getElem_of_mem hpair
  rw [List.length_zip, List.length_map, Nat.lt_min] at hi
  rw [List.getElem_zip, List.getElem_map]
  obtain ⟨t, ht, hparameter, hown⟩ := h.exists_share hcount hi.1
  have hvalue : groups[i]? = some (some values[i]) := by
    rw [hgroups, List.getElem?_append_left (by rw [List.length_map]; exact hi.2),
      List.getElem?_map, List.getElem?_eq_getElem hi.2, Option.map_some]
  rw [hvalue] at hown
  rw [← hparameter]
  exact (h.fits t ht).own values[i] (Option.some.inj hown).symm

/-- A placeholder that is not optional is given a value, unless an optional one before it, which
took no part, was given one. -/
theorem bound {result : Entries (List Char) (List Char)} {front back : List Segment} {s : Segment}
    (hserved : Share.Served result (sharesOf texts 0 segments))
    (hsegments : segments = front ++ s :: back) (hrequired : s.parameter.optional = false) :
    (result.get? s.parameter.name).isSome = true ∨
      ∃ first q second, front = first ++ q :: second ∧ q.parameter.optional = true ∧
        groups[groupsOf first]? = some none ∧
        (result.get? q.parameter.name).isSome = true := by
  obtain ⟨later, hshares⟩ : ∃ later, sharesOf texts 0 segments =
      sharesOf texts 0 front ++ s.share texts (0 + groupsOf front) :: later := by
    rw [hsegments, sharesOf_append, sharesOf]
    exact ⟨_, rfl⟩
  have hown := h.required (s.share texts (0 + groupsOf front)) (by simp [hshares]) hrequired
  rw [hshares] at hserved
  rcases hserved.bound hown with hbound | ⟨t, ht, hnone, hbound⟩
  · exact .inl hbound
  · have hoptional : t.parameter.optional = true := by
      refine (Bool.not_eq_false _).mp fun hrequired => ?_
      have hsome := h.required t (by simp [hshares, ht]) hrequired
      rw [hnone] at hsome
      cases hsome
    obtain ⟨first, q, second, rfl, rfl⟩ := exists_of_mem_sharesOf ht
    have hplace := h.getElem?_own (hsegments.trans (List.append_assoc _ _ _))
    rw [Nat.zero_add] at hnone
    rw [hnone] at hplace
    exact .inr ⟨first, q, second, rfl, hoptional, hplace, hbound⟩

end Covers

end Segment

namespace CompiledPattern

/-- In strict mode, with orderly fragments, no path is a fault, and the groups of a match fall into
the shares of the parameters. -/
theorem exists_covers {pattern fallback : List Char} {compiled : CompiledPattern}
    (h : compile pattern fallback true = .ok compiled)
    (horderly : ∀ p ∈ compiled.parameters, Orderly p.fragment) (path : List Char) :
    ∃ found, compiled.groups path = .ok found ∧ ∀ groups, found = some groups →
      ∃ segments texts, compiled.parameters = segments.map Segment.parameter ∧
        Segment.Covers segments texts groups := by
  obtain ⟨-, hparameters, hread, hchecked⟩ := exists_of_compile h
  have husable := (hchecked rfl).usable
  generalize Cut.ofPattern pattern fallback = cut at hparameters hread husable
  have horderly : ∀ s ∈ cut.segments, Orderly s.parameter.fragment := by
    intro s hs
    refine horderly s.parameter ?_
    rw [hparameters]
    exact List.mem_map.mpr ⟨s, hs, rfl⟩
  have hsimple := fun s hs => (husable s hs).simple (horderly s hs)
  obtain ⟨e, he, hregex, hgroups, hregular⟩ := Cut.read_of_simple hsimple
    (fun s hs => (horderly s hs).keeps) (.inr ⟨_, hread⟩)
  obtain rfl : e = compiled.regex := Except.ok.inj (he.symm.trans hread)
  refine ⟨(compiled.regex.wholeMarks path.toArray).map (compiled.regex.captures path.toArray), ?_,
    ?_⟩
  · rw [groups, fullMatch, hregular.fullMatch_eq]
    rfl
  · intro groups hfound
    obtain ⟨marks, hmarks, rfl⟩ := Option.map_eq_some_iff.mp hfound
    have htraced : ∀ part ∈ Segment.partsOf 0 cut.segments, part.Traced path.toArray marks := by
      intro part hpart
      have hin : part ∈ cut.parts := List.mem_cons_of_mem _ (List.mem_append_left _ hpart)
      have hrecorded := hregular.recorded hmarks
      rw [hregex] at hrecorded
      refine ⟨Part.recorded_termOf.mp hrecorded part hin, fun number hmarked => ?_⟩
      refine hregular.marked hmarks ?_
      rw [hregex]
      exact Part.marked_termOf hin hmarked
    have hfits := Segment.fits_sharesOf husable horderly htraced
    refine ⟨cut.segments, marks.textOf path.toArray, hparameters, ?_, ?_, ?_, ?_⟩
    · rw [Expression.captures_eq, hgroups]
    · exact fun s hs => (husable s hs).count_pos (hsimple s hs)
    · exact fun t ht => (hfits t ht).1
    · exact fun t ht => (hfits t ht).2

end CompiledPattern

end RequestRouter
