import RequestRouter.Proofs.Matching.Course
import RequestRouter.Proofs.Pattern.Captured
import RequestRouter.Proofs.Pattern.Cutting

/-!
# How the groups of a match fill a pattern

`Cut.Filled` says which path a pattern writes when its groups have given texts: the literal text,
with the text of a group behind it for each placeholder that took part, and without the slash of an
optional placeholder that did not. If the fragments are simple and have no groups inside of them,
the texts of the groups of a match fill the pattern to the path (`Cut.filled_captures`). So what a
group took stands in the path behind the literal text in front of its placeholder.
-/

namespace RequestRouter

/-- A simple fragment that is one group without groups inside of it. -/
structure Single (fragment : List Char) : Prop where
  simple : Simple false fragment
  parts : ∃ body, Expression.parts fragment = [.whole (.group 1 body)]
  count : Expression.count fragment = 1

theorem Marks.textOf_congr {a b : Marks} {text : Array Char} {number : Nat}
    (hopen : a.at? (openPlace number) = b.at? (openPlace number))
    (hclose : a.at? (closePlace number) = b.at? (closePlace number)) :
    a.textOf text number = b.textOf text number := by
  rw [textOf, textOf, span_congr hopen hclose]

namespace Segment

/-- What a segment writes: its literal text and the text of its group, or, if the group took no
part, what stays of the literal text. -/
inductive Filled (s : Segment) : Option (List Char) → List Char → Prop
  | given {value} (h : s.parameter.accepts value = .ok true) :
    Filled s (some value) (s.literal ++ value)
  | omitted (h : s.parameter.optional = true) : Filled s none s.stem

variable {text : Array Char} {before : Nat} {s : Segment} {w v : Trail}

/-- The group of a fragment is marked at a piece that the fragment by itself accepts. -/
theorem textOf_of_mem_ways (h : Single s.parameter.fragment) (hw : w.head ≤ text.size)
    (hway : v ∈ (Part.termOf ((Expression.parts s.parameter.fragment).map
      (Part.shift before))).ways text w) :
    w.head ≤ v.head ∧ v.marks.textOf text (before + 1) = some (slice text w.head v.head) ∧
      s.parameter.accepts (slice text w.head v.head) = .ok true := by
  have hchain : Part.Chain false (0 + before) (Expression.count s.parameter.fragment + before)
      ((Expression.parts s.parameter.fragment).map (Part.shift before)) :=
    Part.chain_map_shift h.simple.chain
  obtain ⟨htame, hnumbered⟩ := Part.termOf_of_chain hchain
  have hordinary := htame.ordinary htame.keepsSingly
  have htakes := Regex.takes_of_mem_ways hordinary hway
  refine ⟨htakes.le, ?_, ?_⟩
  · obtain ⟨body, hparts⟩ := h.parts
    have hgroup : (Expression.parts s.parameter.fragment).map (Part.shift before) =
        [.whole (.group (before + 1) (body.shift before))] := by
      rw [hparts, Nat.add_comm before 1]
      rfl
    rw [hgroup] at hway hordinary hnumbered
    have hspan := Regex.span_of_mem_ways_group (r := body.shift before) hordinary hnumbered hway
    rw [Marks.textOf, hspan]
    rfl
  · have hkeeps := (Part.termOf_of_chain h.simple.chain).1.keepsSingly
    apply h.simple.accepts_of_takes hkeeps hw
    rw [← Part.takes_map_shift, ← Part.takes_termOf]
    exact htakes

/-- A way through the parts of a segment fills it with the text of its group. -/
theorem filled_of_mem_ways (h : Single s.parameter.fragment) (hw : w.head ≤ text.size)
    (hfresh : w.marks.at? (Marks.openPlace (before + 1)) = none)
    (hway : v ∈ (Part.termOf (s.parts before)).ways text w) :
    s.Filled (v.marks.textOf text (before + 1)) (slice text w.head v.head) := by
  obtain ⟨u, hstem, hplaceholder⟩ := Part.mem_ways_append.mp hway
  obtain ⟨hmarks, hwu, hu, hstem⟩ := Part.slice_of_mem_ways_letters hw hstem
  have hinside : ∀ {x}, x.head ≤ text.size →
      v ∈ (Part.termOf ((Expression.parts s.parameter.fragment).map
        (Part.shift before))).ways text x →
      slice text w.head x.head = s.literal → w.head ≤ x.head →
      s.Filled (v.marks.textOf text (before + 1)) (slice text w.head v.head) := by
    intro x hx hvalue hliteral hwx
    obtain ⟨hxv, htext, haccepts⟩ := textOf_of_mem_ways h hx hvalue
    rw [htext, ← slice_append hwx hxv, hliteral]
    exact .given haccepts
  cases hoptional : s.parameter.optional with
  | false =>
    simp only [hoptional, Bool.false_eq_true, if_false] at hplaceholder
    apply hinside hu hplaceholder _ hwu
    rw [hstem, stem_of_required hoptional]
  | true =>
    simp only [hoptional, if_true] at hplaceholder
    have htest : (Part.termOf (s.slash.map Part.letter ++
        (Expression.parts s.parameter.fragment).map (Part.shift before))).test? = none := by
      obtain ⟨body, hparts⟩ := h.parts
      rw [hparts]
      cases s.slash with
      | nil => rfl
      | cons c rest =>
        rw [List.map_cons, List.cons_append, Part.termOf_cons (by simp)]
        rfl
    rcases Regex.eq_or_mem_ways_of_optional htest hplaceholder with rfl | hbody
    · have htext : v.marks.textOf text (before + 1) = none := by
        rw [Marks.textOf, Marks.span_eq_none (by rw [hmarks, hfresh])]
        rfl
      rw [htext, hstem]
      exact .omitted hoptional
    · obtain ⟨x, hslash, hvalue⟩ := Part.mem_ways_append.mp hbody
      obtain ⟨-, hux, hx, hslash⟩ := Part.slice_of_mem_ways_letters hu hslash
      apply hinside hx hvalue _ (Nat.le_trans hwu hux)
      rw [← slice_append hwu hux, hstem, hslash, stem_append_slash]

end Segment

/-- What a pattern writes: its segments one after another, and then the literal text at its end. -/
inductive Cut.Filled : Cut → List (Option (List Char)) → List Char → Prop
  | tail {tail} : Filled ⟨[], tail⟩ [] tail
  | segment {s rest tail group groups front back} (hsegment : s.Filled group front)
      (hrest : Filled ⟨rest, tail⟩ groups back) :
      Filled ⟨s :: rest, tail⟩ (group :: groups) (front ++ back)

namespace Cut

/-- A way through the segments of a pattern fills them with the texts of their groups. The groups
are numbered on from those before, and each way leaves the marks of the others as they are. -/
theorem filled_of_mem_ways {text : Array Char} {segments : List Segment} {tail : List Char}
    {before : Nat} {w v : Trail} (h : ∀ s ∈ segments, Single s.parameter.fragment)
    (hw : w.head ≤ text.size) (hfresh : ∀ place, 2 * before ≤ place → w.marks.at? place = none)
    (hway : v ∈ (Part.termOf (Segment.partsOf before segments ++
      tail.map Part.letter)).ways text w) :
    Filled ⟨segments, tail⟩
      ((List.range' (before + 1) segments.length).map (v.marks.textOf text))
      (slice text w.head v.head) := by
  induction segments generalizing before w with
  | nil =>
    obtain ⟨-, -, -, hslice⟩ := Part.slice_of_mem_ways_letters hw hway
    rw [hslice]
    exact .tail
  | cons s rest ih =>
    have hone := h s List.mem_cons_self
    have hothers := fun s hs => h s (List.mem_cons_of_mem _ hs)
    rw [Segment.partsOf, hone.count, List.append_assoc] at hway
    obtain ⟨u, hsegment, hrest⟩ := Part.mem_ways_append.mp hway
    have hchain : Part.Chain false before (before + 1) (s.parts before) := by
      rw [← hone.count]
      exact Segment.chain_parts hone.simple
    have hchain' : Part.Chain false (before + 1) (before + 1 + Segment.groupsOf rest)
        (Segment.partsOf (before + 1) rest ++ tail.map Part.letter) := by
      apply Part.chain_append.mpr
      exact ⟨_, Segment.chain_partsOf fun s hs => (hothers s hs).simple, Segment.chain_letters _ _⟩
    obtain ⟨htame, hnumbered⟩ := Part.termOf_of_chain hchain
    obtain ⟨htame', hnumbered'⟩ := Part.termOf_of_chain hchain'
    have htakes := Regex.takes_of_mem_ways (htame.ordinary htame.keepsSingly) hsegment
    have htakes' := Regex.takes_of_mem_ways (htame'.ordinary htame'.keepsSingly) hrest
    have hgroup : v.marks.textOf text (before + 1) = u.marks.textOf text (before + 1) := by
      apply Marks.textOf_congr
      · exact Regex.at?_of_mem_ways hnumbered' hrest
          (.inl (by simp only [Marks.openPlace]; omega))
      · exact Regex.at?_of_mem_ways hnumbered' hrest
          (.inl (by simp only [Marks.closePlace]; omega))
    have hfront := Segment.filled_of_mem_ways hone hw
      (hfresh _ (by simp only [Marks.openPlace]; omega)) hsegment
    have hfresh' : ∀ place, 2 * (before + 1) ≤ place → u.marks.at? place = none := by
      intro place hplace
      rw [Regex.at?_of_mem_ways hnumbered hsegment (.inr hplace)]
      exact hfresh place (by omega)
    have hback := ih hothers (htakes.le_size hw) hfresh' hrest
    rw [List.length_cons, List.range'_succ, List.map_cons, hgroup,
      ← slice_append htakes.le htakes'.le]
    exact .segment hfront hback

/-- The texts of the groups of a match fill the pattern to the whole text. -/
theorem filled_captures {cut : Cut} {e : Expression} {path : List Char} {marks : Marks}
    (h : ∀ s ∈ cut.segments, Single s.parameter.fragment) (he : e.Regular)
    (hregex : e.regex = Part.termOf cut.parts) (hgroups : e.groups = Segment.groupsOf cut.segments)
    (hmarks : e.wholeMarks path.toArray = some marks) :
    cut.Filled (e.captures path.toArray marks) path := by
  obtain ⟨v, hv, hhead, hsame⟩ := he.exists_way hmarks
  have hcaptures : e.captures path.toArray marks =
      (List.range' 1 cut.segments.length).map (v.marks.textOf path.toArray) := by
    rw [Expression.captures_eq, hgroups,
      Segment.groupsOf_eq_length fun s hs => (h s hs).count]
    apply List.map_congr_left
    intro number _
    exact Marks.textOf_congr (hsame _) (hsame _)
  -- both anchors leave the trail as it is
  rw [hregex, parts, Part.mem_ways_cons] at hv
  obtain ⟨w, hw, hv⟩ := hv
  rw [← List.append_assoc, Part.mem_ways_append] at hv
  obtain ⟨u, hu, hv⟩ := hv
  obtain rfl : w = .start 0 := by
    simpa [Part.regex, Regex.ways, Anchor.holds, Trail.start] using hw
  obtain rfl : v = u := by
    simp only [Part.termOf, List.map_cons, List.map_nil, Regex.seqAll, Part.regex,
      Regex.ways] at hv
    split at hv
    · exact List.mem_singleton.mp hv
    · cases hv
  have hfilled := filled_of_mem_ways h (Nat.zero_le _) (fun _ _ => Marks.at?_nil _) hu
  have hwhole : slice path.toArray (Trail.start 0).head path.toArray.size = path := by
    simp [slice, Trail.start]
  rw [hhead, hwhole] at hfilled
  rw [hcaptures]
  exact hfilled

end Cut

end RequestRouter
