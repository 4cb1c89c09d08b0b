import RequestRouter.Pattern.Extract
import RequestRouter.Proofs.Pattern.Regular

/-!
# Which paths a pattern matches

A pattern matches the paths that can be cut into its literal stretches and one text for each of its
placeholders (`Cut.Spells`), if its fragments are plain: they are read by themselves and consist of
literals, classes, unnamed groups, choices and repetitions that give characters back. The pattern
then compiles, and no path is a fault (`CompiledPattern.fullMatch_iff_spells`).
-/

namespace RequestRouter

/-- A construct of a plain fragment. -/
def Construct.isPlain : Construct → Bool
  | .letter _ | .dot | .oneOf _ | .escape (.code _) | .escape (.item _) => true
  | .quantifier _ greed => greed != .possessive
  | .opening .capture | .opening (.scoped [] []) => true
  | .close | .bar => true
  | _ => false

/-- A fragment that is an expression by itself and has plain constructs only. -/
structure Plain (fragment : List Char) : Prop where
  reads : ∃ e, Expression.read fragment = .ok e
  plain : ∀ c ∈ Expression.constructs fragment, c.isPlain = true

namespace Plain

variable {fragment : List Char}

theorem simple (h : Plain fragment) : Simple false fragment where
  reads := h.reads
  simple := by
    intro c hc
    have hplain := h.plain c hc
    cases c with
    | escape meaning =>
      cases meaning with
      | code | item => rfl
      | _ => cases hplain
    | quantifier bounds greed => exact hplain
    | opening header =>
      cases header with
      | capture => rfl
      | «scoped» on off => cases on <;> cases off <;> exact hplain
      | _ => cases hplain
    | _ => exact hplain

theorem unnamed (h : Plain fragment) (name : List Char) :
    .opening (.named name) ∉ Expression.constructs fragment :=
  fun hmem => nomatch h.plain _ hmem

end Plain

namespace Segment

/-- The texts that a segment can stand for: its literal text and a value that the placeholder takes,
or, where the placeholder may be left out, what stays of the literal text. -/
inductive Spells (s : Segment) : List Char → Prop
  | given {value} (h : s.parameter.accepts value = .ok true) : Spells s (s.literal ++ value)
  | omitted (h : s.parameter.optional = true) : Spells s s.stem

variable {s : Segment} {text : Array Char} {p q before : Nat}

/-- The parts of a segment take the pieces of a text that the segment spells. -/
theorem takes_parts (h : Simple false s.parameter.fragment) (hp : p ≤ text.size) :
    Part.Takes text (s.parts before) p q ↔ p ≤ q ∧ q ≤ text.size ∧ s.Spells (slice text p q) := by
  have hkeeps := (Part.termOf_of_chain h.chain).1.keepsSingly
  rw [parts, Part.takes_append]
  constructor
  · rintro ⟨m, hstem, hplaceholder⟩
    obtain ⟨hpm, hm, hstem⟩ := (Part.takes_letters hp).mp hstem
    have hmq := hplaceholder.le
    have hq := hplaceholder.le_size hm
    refine ⟨Nat.le_trans hpm hmq, hq, ?_⟩
    rw [← slice_append hpm hmq, hstem]
    cases hoptional : s.parameter.optional with
    | false =>
      simp only [hoptional, Bool.false_eq_true, if_false, Part.takes_map_shift] at hplaceholder
      rw [stem_of_required hoptional]
      exact .given (h.accepts_of_takes hkeeps hm hplaceholder)
    | true =>
      simp only [hoptional, if_true] at hplaceholder
      obtain ⟨_, hloop, rfl⟩ := hplaceholder
      rcases Part.takes_optional.mp hloop with rfl | hbody
      · rw [slice_self, List.append_nil]
        exact .omitted hoptional
      · obtain ⟨k, hslash, hvalue⟩ := Part.takes_append.mp (Part.takes_termOf.mp hbody)
        obtain ⟨hmk, hk, hslash⟩ := (Part.takes_letters hm).mp hslash
        rw [Part.takes_map_shift] at hvalue
        rw [← slice_append hmk hvalue.le, hslash, ← List.append_assoc, stem_append_slash]
        exact .given (h.accepts_of_takes hkeeps hk hvalue)
  · rintro ⟨hle, hq, hspells⟩
    generalize hslice : slice text p q = piece at hspells
    cases hspells with
    | @given value haccepts =>
      rw [← stem_append_slash, List.append_assoc] at hslice
      obtain ⟨m, hpm, hmq, hstem, hrest⟩ := slice_eq_append hle hq hslice
      have hm := Nat.le_trans hmq hq
      obtain ⟨k, hmk, hkq, hslash, hvalue⟩ := slice_eq_append hmq hq hrest
      rw [← hvalue] at haccepts
      have hinside := h.takes_of_accepts hkq hq haccepts
      have hslash := (Part.takes_letters hm).mpr ⟨hmk, Nat.le_trans hkq hq, hslash⟩
      refine ⟨m, (Part.takes_letters hp).mpr ⟨hpm, hm, hstem⟩, ?_⟩
      cases hoptional : s.parameter.optional with
      | false =>
        have hnone : s.slash = [] := by simp [slash, takesSlash, hoptional]
        rw [hnone] at hslash
        obtain rfl : m = k := hslash
        simp only [Bool.false_eq_true, if_false, Part.takes_map_shift]
        exact hinside
      | true =>
        refine ⟨q, Part.takes_optional.mpr (.inr (Part.takes_termOf.mpr ?_)), rfl⟩
        exact Part.takes_append.mpr ⟨k, hslash, Part.takes_map_shift.mpr hinside⟩
    | omitted hoptional =>
      refine ⟨q, (Part.takes_letters hp).mpr ⟨hle, hq, hslice⟩, ?_⟩
      rw [hoptional]
      exact ⟨q, Part.takes_optional.mpr (.inl rfl), rfl⟩

end Segment

/-- The texts that a pattern can stand for: those of its segments one after another, and then the
literal text at its end. -/
inductive Cut.Spells : Cut → List Char → Prop
  | tail {tail} : Spells ⟨[], tail⟩ tail
  | segment {s rest tail front back} (hsegment : s.Spells front) (hrest :
      Spells ⟨rest, tail⟩ back) :
      Spells ⟨s :: rest, tail⟩ (front ++ back)

namespace Cut

variable {text : Array Char} {p before : Nat}

/-- The parts of a pattern behind the opening anchor take the ends of a text that the pattern
spells. -/
theorem takes_partsOf {segments : List Segment} {tail : List Char}
    (h : ∀ s ∈ segments, Simple false s.parameter.fragment) (hp : p ≤ text.size) :
    Part.Takes text (Segment.partsOf before segments ++ tail.map Part.letter) p text.size ↔
      Spells ⟨segments, tail⟩ (slice text p text.size) := by
  induction segments generalizing p before with
  | nil =>
    rw [Segment.partsOf, List.nil_append, Part.takes_letters hp]
    constructor
    · rintro ⟨-, -, hslice⟩
      rw [hslice]
      exact .tail
    · intro hspells
      generalize hslice : slice text p text.size = path at hspells
      cases hspells
      exact ⟨hp, Nat.le_refl _, rfl⟩
  | cons s rest ih =>
    have hone := h s List.mem_cons_self
    have hothers := fun s hs => h s (List.mem_cons_of_mem _ hs)
    rw [Segment.partsOf, List.append_assoc, Part.takes_append]
    constructor
    · rintro ⟨m, hsegment, hrest⟩
      obtain ⟨hpm, hm, hspells⟩ := (Segment.takes_parts hone hp).mp hsegment
      rw [← slice_append hpm hm]
      exact .segment hspells ((ih hothers hm).mp hrest)
    · intro hspells
      generalize hslice : slice text p text.size = path at hspells
      cases hspells with
      | segment hsegment hrest =>
        obtain ⟨m, hpm, hm, hfront, hback⟩ := slice_eq_append hp (Nat.le_refl _) hslice
        rw [← hfront] at hsegment
        rw [← hback] at hrest
        exact ⟨m, (Segment.takes_parts hone hp).mpr ⟨hpm, hm, hsegment⟩, (ih hothers hm).mpr hrest⟩

/-- The parts of a pattern take the texts that the pattern spells. The anchors only ask for the ends
of the text, the second one also where a newline follows, which is then not the end. -/
theorem takes_parts {cut : Cut} (h : ∀ s ∈ cut.segments, Simple false s.parameter.fragment)
    (path : List Char) :
    (Part.termOf cut.parts).Takes path.toArray 0 path.toArray.size ↔ cut.Spells path := by
  have hwhole : slice path.toArray 0 path.toArray.size = path := by simp [slice]
  have hinside : Part.Takes path.toArray
      (Segment.partsOf 0 cut.segments ++ cut.tail.map Part.letter) 0 path.toArray.size ↔
        cut.Spells (slice path.toArray 0 path.toArray.size) := takes_partsOf h (Nat.zero_le _)
  rw [hwhole] at hinside
  rw [Part.takes_termOf, parts, ← List.append_assoc]
  constructor
  · rintro ⟨_, ⟨-, rfl⟩, hrest⟩
    obtain ⟨_, hrest, _, ⟨-, rfl⟩, rfl⟩ := Part.takes_append.mp hrest
    exact hinside.mp hrest
  · intro hspells
    refine ⟨0, ⟨rfl, rfl⟩, Part.takes_append.mpr ⟨_, hinside.mpr hspells, _, ⟨?_, rfl⟩, rfl⟩⟩
    simp [Anchor.holds]

end Cut

namespace CompiledPattern

/-- A pattern whose fragments are plain compiles, and it matches the paths that it spells. -/
theorem fullMatch_iff_spells (pattern fallback : List Char) (strict : Bool)
    (hplain : ∀ p ∈ parseParameters pattern fallback, Plain p.fragment)
    (hvalid : strict = true → validate pattern (Cut.ofPattern pattern fallback) = .ok ()) :
    ∃ compiled, compile pattern fallback strict = .ok compiled ∧
      ∀ path, ∃ found, compiled.fullMatch path = .ok found ∧
        (found.isSome = true ↔ (Cut.ofPattern pattern fallback).Spells path) := by
  generalize hcut : Cut.ofPattern pattern fallback = cut at hvalid
  have hplain : ∀ s ∈ cut.segments, Plain s.parameter.fragment := by
    intro s hs
    refine hplain s.parameter ?_
    rw [parseParameters, hcut]
    exact List.mem_map.mpr ⟨s, hs, rfl⟩
  have hsimple := fun s hs => (hplain s hs).simple
  obtain ⟨e, hread, hregex, -, hregular⟩ := Cut.read_of_simple hsimple
    (fun s hs => (Part.termOf_of_chain (hsimple s hs).chain).1.keepsSingly)
    (.inl fun s hs => (hplain s hs).unnamed)
  refine ⟨⟨pattern, expressionOf cut, cut.parameters, e⟩, ?_, fun path => ?_⟩
  · cases strict with
    | false => simp only [compile, hcut, hread]; rfl
    | true => simp only [compile, hcut, hread, hvalid rfl]; rfl
  · refine ⟨e.wholeMarks path.toArray, hregular.fullMatch_eq _, ?_⟩
    rw [hregular.isSome_wholeMarks_iff, hregex]
    exact Cut.takes_parts hsimple path

/-- A path without the optional placeholder at the end and the slash in front of it. -/
theorem fullMatch_iff_spells_omitted :
    ∃ compiled, compile "/u/{id:([0-9]+)}/{?tab}".toList defaultFragment true = .ok compiled ∧
      ∃ found, compiled.fullMatch "/u/7".toList = .ok found ∧ found.isSome = true := by
  have hcut : Cut.ofPattern "/u/{id:([0-9]+)}/{?tab}".toList defaultFragment =
      ⟨[⟨"/u/".toList, ⟨"id".toList, "([0-9]+)".toList, false⟩⟩,
        ⟨"/".toList, ⟨"tab".toList, defaultFragment, true⟩⟩], []⟩ := by decide +kernel
  have hplain : ∀ p ∈ parseParameters "/u/{id:([0-9]+)}/{?tab}".toList defaultFragment,
      Plain p.fragment := by
    rw [parseParameters, hcut]
    intro p hp
    simp only [Cut.parameters, List.map_cons, List.map_nil, List.mem_cons, List.not_mem_nil,
      or_false] at hp
    rcases hp with rfl | rfl
    · exact ⟨⟨_, rfl⟩, by decide⟩
    · exact ⟨⟨_, rfl⟩, by decide⟩
  obtain ⟨compiled, hcompile, hmatch⟩ := fullMatch_iff_spells
    "/u/{id:([0-9]+)}/{?tab}".toList defaultFragment true hplain (fun _ => rfl)
  obtain ⟨found, hfound, hspells⟩ := hmatch "/u/7".toList
  refine ⟨compiled, hcompile, found, hfound, hspells.mpr ?_⟩
  rw [hcut]
  have hid : Segment.Spells ⟨"/u/".toList, ⟨"id".toList, "([0-9]+)".toList, false⟩⟩
      ("/u/".toList ++ "7".toList) := .given rfl
  exact .segment hid (.segment (.omitted rfl) .tail)

end CompiledPattern

end RequestRouter
