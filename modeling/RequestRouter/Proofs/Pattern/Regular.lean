import RequestRouter.Proofs.Matching.Parts
import RequestRouter.Proofs.Pattern.Layout

/-!
# The search for a pattern is right

The parts of a pattern whose fragments are simple hold groups numbered in order, and possessive
repetitions among them keep single characters if they do so in the fragments. So the expression of
such a pattern is one that the search is right for (`Cut.read_of_simple`).
-/

namespace RequestRouter

namespace Segment

variable {possessive : Bool} {s : Segment} {before : Nat}

theorem chain_letters (text : List Char) (count : Nat) :
    Part.Chain possessive count count (text.map Part.letter) := by
  induction text with
  | nil => rfl
  | cons c text ih => exact ⟨count, Part.Link.of_test _ _, ih⟩

theorem chain_parts (h : Simple possessive s.parameter.fragment) :
    Part.Chain possessive before (before + Expression.count s.parameter.fragment)
      (s.parts before) := by
  have hinside : Part.Chain possessive (0 + before)
      (Expression.count s.parameter.fragment + before)
      ((Expression.parts s.parameter.fragment).map (Part.shift before)) :=
    Part.chain_map_shift h.chain
  rw [Nat.zero_add, Nat.add_comm] at hinside
  refine Part.chain_append.mpr ⟨before, chain_letters _ _, ?_⟩
  split
  · obtain ⟨htame, hnumbered⟩ := Part.termOf_of_chain
      (Part.chain_append.mpr ⟨before, chain_letters s.slash before, hinside⟩)
    exact Part.chain_singleton.mpr
      ⟨⟨fun h => (nomatch h), rfl, htame⟩, hnumbered, fun h => (nomatch h)⟩
  · exact hinside

theorem chain_partsOf {segments : List Segment}
    (h : ∀ s ∈ segments, Simple possessive s.parameter.fragment) :
    Part.Chain possessive before (before + groupsOf segments) (partsOf before segments) := by
  induction segments generalizing before with
  | nil => rfl
  | cons s rest ih =>
    refine Part.chain_append.mpr ⟨_, chain_parts (h s List.mem_cons_self), ?_⟩
    rw [groupsOf, List.map_cons, List.sum_cons, ← Nat.add_assoc]
    exact ih fun s hs => h s (List.mem_cons_of_mem _ hs)

/-- Possessive repetitions in a segment keep single characters if they do so in its fragment. -/
theorem keepsSingly_parts
    (h : (Part.termOf (Expression.parts s.parameter.fragment)).keepsSingly = true) :
    ∀ part ∈ s.parts before, part.regex.keepsSingly = true := by
  have hletters : ∀ text : List Char, ∀ part ∈ text.map Part.letter, part.regex.keepsSingly =
      true := by
    intro text part hpart
    obtain ⟨c, -, rfl⟩ := List.mem_map.mp hpart
    rfl
  have hinside : ∀ part ∈ (Expression.parts s.parameter.fragment).map (Part.shift before),
      part.regex.keepsSingly = true := by
    intro part hpart
    obtain ⟨alone, halone, rfl⟩ := List.mem_map.mp hpart
    rw [Part.keepsSingly_termOf] at h
    rw [Part.regex_shift, Regex.keepsSingly_shift]
    exact List.all_eq_true.mp h alone halone
  intro part hpart
  rcases List.mem_append.mp hpart with hpart | hpart
  · exact hletters _ part hpart
  · split at hpart
    · obtain rfl := List.mem_singleton.mp hpart
      show (Part.termOf (s.slash.map Part.letter ++ _)).keepsSingly = true
      rw [Part.keepsSingly_termOf, List.all_append, Bool.and_eq_true_iff]
      exact ⟨List.all_eq_true.mpr (hletters _), List.all_eq_true.mpr hinside⟩
    · exact hinside part hpart

theorem keepsSingly_partsOf {segments : List Segment}
    (h : ∀ s ∈ segments, (Part.termOf (Expression.parts s.parameter.fragment)).keepsSingly = true) :
    ∀ part ∈ partsOf before segments, part.regex.keepsSingly = true := by
  induction segments generalizing before with
  | nil => exact fun part hpart => nomatch hpart
  | cons s rest ih =>
    intro part hpart
    rcases List.mem_append.mp hpart with hpart | hpart
    · exact keepsSingly_parts (h s List.mem_cons_self) part hpart
    · exact ih (fun s hs => h s (List.mem_cons_of_mem _ hs)) part hpart

end Segment

/-! ## Fragments by themselves -/

namespace Simple

variable {possessive : Bool} {fragment : List Char} {text : Array Char} {p q : Nat}

theorem regular (h : Simple possessive fragment)
    (hkeeps : (Part.termOf (Expression.parts fragment)).keepsSingly = true) :
    ∃ e, Expression.read fragment = .ok e ∧ e.regex = Part.termOf (Expression.parts fragment) ∧
      e.Regular ∧ e.regex.Tame possessive := by
  obtain ⟨e, he⟩ := h.reads
  have hregex := (Expression.eq_of_read he).1
  obtain ⟨hregular, htame⟩ :=
      Expression.regular_of_isSimple he h.simple (by rw [hregex]; exact hkeeps)
  exact ⟨e, he, hregex, hregular, htame⟩

theorem exists_accepts (h : Simple possessive fragment)
    (hkeeps : (Part.termOf (Expression.parts fragment)).keepsSingly = true) (value : List Char) :
    ∃ answer, fragmentAccepts fragment value = .ok answer := by
  obtain ⟨e, he, -, hregular, -⟩ := h.regular hkeeps
  obtain ⟨answer, haccepts, -⟩ := hregular.accepts_eq value
  exact ⟨answer, by rw [fragmentAccepts, he]; exact haccepts⟩

/-- What the parts of a fragment take inside of a text the fragment by itself accepts. -/
theorem accepts_of_takes (h : Simple possessive fragment)
    (hkeeps : (Part.termOf (Expression.parts fragment)).keepsSingly = true) (hp : p ≤ text.size)
    (htakes : Part.Takes text (Expression.parts fragment) p q) :
    fragmentAccepts fragment (slice text p q) = .ok true := by
  obtain ⟨e, he, hregex, hregular, htame⟩ := h.regular hkeeps
  obtain ⟨answer, haccepts, hanswer⟩ := hregular.accepts_eq (slice text p q)
  have hle := htakes.le
  have hq := htakes.le_size hp
  have hwindow := Window.ofSlice hle hq
  have hsize : (slice text p q).toArray.size = q - p := Window.size_ofSlice hq
  have hwhole : e.regex.Takes text (p + 0) (p + (q - p)) := by
    rw [hregex, Nat.add_zero, Nat.add_sub_cancel' hle]
    exact Part.takes_termOf.mpr htakes
  have hpart := hwhole.restrict hwindow hregular.ordinary htame.unanchored (Nat.le_of_eq hsize.symm)
  rw [length_slice hq] at hanswer
  rw [fragmentAccepts, he]
  show e.accepts _ = _
  rw [haccepts, hanswer.mpr hpart]

/-- Where nothing is possessive, the fragment takes inside of a text what it accepts by itself. -/
theorem takes_of_accepts (h : Simple false fragment) (hle : p ≤ q) (hq : q ≤ text.size)
    (haccepts : fragmentAccepts fragment (slice text p q) = .ok true) :
    Part.Takes text (Expression.parts fragment) p q := by
  have hkeeps := (Part.termOf_of_chain h.chain).1.keepsSingly
  obtain ⟨e, he, hregex, hregular, htame⟩ := h.regular hkeeps
  obtain ⟨answer, hanswer, htakes⟩ := hregular.accepts_eq (slice text p q)
  rw [fragmentAccepts, he] at haccepts
  have htrue : answer = true := Except.ok.inj (hanswer.symm.trans haccepts)
  have hpart := (htakes.mp htrue).extend (Window.ofSlice hle hq) htame.unanchored htame.yielding
  rw [length_slice hq, Nat.add_zero, Nat.add_sub_cancel' hle, hregex] at hpart
  exact Part.takes_termOf.mp hpart

end Simple

namespace Part

theorem tame_of_chain {possessive : Bool} {first last : Nat} {parts : List Part}
    (h : Chain possessive first last parts) : ∀ part ∈ parts, part.regex.Tame possessive := by
  induction parts generalizing first with
  | nil => exact fun part hpart => nomatch hpart
  | cons next rest ih =>
    obtain ⟨middle, hnext, hrest⟩ := h
    intro part hpart
    rcases List.mem_cons.mp hpart with rfl | hpart
    · exact hnext.tame
    · exact ih hrest part hpart

end Part

namespace Cut

variable {possessive : Bool} {cut : Cut}

/-- The parts of a pattern are ordinary, and their groups are numbered in order. -/
theorem ordinary_parts (h : ∀ s ∈ cut.segments, Simple possessive s.parameter.fragment)
    (hkeeps : ∀ s ∈ cut.segments,
      (Part.termOf (Expression.parts s.parameter.fragment)).keepsSingly = true) :
    (Part.termOf cut.parts).Ordinary ∧
      (Part.termOf cut.parts).Numbered 0 (Segment.groupsOf cut.segments) := by
  have hchain : Part.Chain possessive 0 (Segment.groupsOf cut.segments)
      (Segment.partsOf 0 cut.segments ++ cut.tail.map Part.letter) := by
    have hsegments : Part.Chain possessive 0 (0 + Segment.groupsOf cut.segments)
      (Segment.partsOf 0 cut.segments) := Segment.chain_partsOf h
    rw [Nat.zero_add] at hsegments
    exact Part.chain_append.mpr ⟨_, hsegments, Segment.chain_letters _ _⟩
  have hparts : cut.parts = .atom (.place .textStart) :: (Segment.partsOf 0 cut.segments ++
      cut.tail.map Part.letter ++ [.atom (.place .lastLineEnd)]) := by
    rw [List.append_assoc]
    rfl
  rw [hparts]
  constructor
  · refine Part.ordinary_termOf fun part hpart => ?_
    rcases List.mem_cons.mp hpart with rfl | hpart
    · trivial
    · rcases List.mem_append.mp hpart with hpart | hpart
      · refine (Part.tame_of_chain hchain part hpart).ordinary ?_
        rcases List.mem_append.mp hpart with hpart | hpart
        · exact Segment.keepsSingly_partsOf hkeeps part hpart
        · obtain ⟨c, -, rfl⟩ := List.mem_map.mp hpart
          rfl
      · obtain rfl := List.mem_singleton.mp hpart
        trivial
  · rw [Part.termOf_cons (by simp)]
    exact ⟨0, rfl, Part.numbered_termOf_concat hchain rfl⟩

/-- The expression of a pattern whose fragments are simple is read, and the search is right for it.
-/
theorem read_of_simple (h : ∀ s ∈ cut.segments, Simple possessive s.parameter.fragment)
    (hkeeps : ∀ s ∈ cut.segments,
      (Part.termOf (Expression.parts s.parameter.fragment)).keepsSingly = true)
    (hgo : (∀ s ∈ cut.segments, ∀ name,
        .opening (.named name) ∉ Expression.constructs s.parameter.fragment) ∨
      ∃ e, Expression.read (CompiledPattern.expressionOf cut) = .ok e) :
    ∃ e, Expression.read (CompiledPattern.expressionOf cut) = .ok e ∧
      e.regex = Part.termOf cut.parts ∧ e.groups = Segment.groupsOf cut.segments ∧ e.Regular := by
  have hunits := ofChars_expressionOf fun s hs => (h s hs).lone
  have hread : ∀ e, Expression.read (CompiledPattern.expressionOf cut) = .ok e →
      ∃ d, Expression.draft cut.units = .ok d := by
    intro e he
    obtain ⟨-, d, hdraft, -⟩ := Expression.read_eq_ok_iff.mp he
    rw [hunits] at hdraft
    exact ⟨d, hdraft⟩
  have hgo := hgo.imp_right fun ⟨e, he⟩ => hread e he
  obtain ⟨d, hdraft, hcontent, hgroups, hmode⟩ := draft_eq_of_simple h hgo
  obtain ⟨hordinary, hnumbered⟩ := ordinary_parts h hkeeps
  have hterm : d.level.term = Part.termOf cut.parts := by rw [Level.term, hcontent]
  refine ⟨_, Expression.read_eq_ok_iff.mpr ⟨by rw [hunits], d, by rw [hunits, hdraft], ?_, rfl⟩,
    hterm, hgroups, ⟨?_, ?_, d.widthOf, rfl⟩⟩
  · rw [hterm, hmode]
    exact hordinary.fault?
  · rw [hterm]
    exact hordinary
  · rw [hterm, hgroups]
    exact hnumbered

end Cut

end RequestRouter
