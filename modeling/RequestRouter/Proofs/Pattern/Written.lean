import RequestRouter.Pattern.Compile
import RequestRouter.Proofs.Pattern.Nameless
import RequestRouter.Proofs.Pattern.Regular
import RequestRouter.Proofs.Pattern.Scanning
import RequestRouter.Proofs.Pattern.Validation

/-!
# Patterns that are written out

A cut is written as a pattern by putting its placeholders back between its literal texts. If there
is no brace in the literal texts and no placeholder gives a fragment, the pattern is cut there again
(`Cut.ofPattern_written`). With different names and a usable fallback fragment it passes the checks
of strict mode (`CompiledPattern.validate_written`). If the last placeholder gives a fragment, a
pattern that compiles in strict mode has been cut where it is written (`Cut.ofPattern_given`).
-/

namespace RequestRouter

namespace Parameter

/-- The question mark of an optional placeholder. -/
def mark (p : Parameter) : List Char := if p.optional then ['?'] else []

/-- A placeholder that gives no fragment. -/
def written (p : Parameter) : List Char := '{' :: (p.mark ++ (p.name ++ ['}']))

/-- The placeholder of the parameter, as a scan reads it. -/
def source (p : Parameter) : Placeholder.Source := ⟨p.optional, p.name, none⟩

theorem written_source (p : Parameter) : p.source.written = p.written := rfl

end Parameter

/-- A segment as it stands in a pattern. -/
def Segment.written (s : Segment) : List Char := s.literal ++ s.parameter.written

namespace Cut

/-- The pattern with these literal texts and placeholders. -/
def written (cut : Cut) : List Char := cut.segments.flatMap Segment.written ++ cut.tail

/-- A cut that can be written out: no brace in its literal texts, placeholders with names, and the
fallback for their fragments. -/
structure Writable (fallback : List Char) (cut : Cut) : Prop where
  literals : ∀ c ∈ cut.literals, c ≠ '{' ∧ c ≠ '}'
  names : ∀ s ∈ cut.segments, IsName s.parameter.name
  fragments : ∀ s ∈ cut.segments, s.parameter.fragment = fallback

theorem written_cons (s : Segment) (rest : List Segment) (tail : List Char) :
    written ⟨s :: rest, tail⟩ = s.literal ++ (s.parameter.written ++ written ⟨rest, tail⟩) := by
  simp [written, Segment.written]

theorem literals_cons (s : Segment) (rest : List Segment) (tail : List Char) :
    literals ⟨s :: rest, tail⟩ = s.literal ++ literals ⟨rest, tail⟩ := by
  simp [literals]

theorem Writable.not_mem_literal {fallback tail : List Char} {s : Segment} {rest : List Segment}
    (h : Writable fallback ⟨s :: rest, tail⟩) : '{' ∉ s.literal := by
  intro hmem
  apply (h.literals '{' _).1 rfl
  rw [literals_cons]
  exact List.mem_append_left _ hmem

theorem Writable.not_mem_tail {fallback tail : List Char} (h : Writable fallback ⟨[], tail⟩) :
    '{' ∉ tail := fun hmem => (h.literals _ hmem).1 rfl

theorem Writable.rest {fallback tail : List Char} {s : Segment} {rest : List Segment}
    (h : Writable fallback ⟨s :: rest, tail⟩) : Writable fallback ⟨rest, tail⟩ where
  literals := by
    intro c hc
    apply h.literals c
    rw [literals_cons]
    exact List.mem_append_right _ hc
  names := fun s hs => h.names s (List.mem_cons_of_mem _ hs)
  fragments := fun s hs => h.fragments s (List.mem_cons_of_mem _ hs)

theorem Writable.front {fallback tail : List Char} {segments : List Segment}
    (h : Writable fallback ⟨segments, tail⟩) : Writable fallback ⟨segments, []⟩ where
  literals := by
    intro c hc
    apply h.literals c
    rw [Cut.literals, List.append_nil] at hc
    exact List.mem_append_left _ hc
  names := h.names
  fragments := h.fragments

theorem Writable.back {fallback tail : List Char} {segments : List Segment}
    (h : Writable fallback ⟨segments, tail⟩) : Writable fallback ⟨[], tail⟩ where
  literals := fun c hc => h.literals c (List.mem_append_right _ hc)
  names := fun _ hs => absurd hs List.not_mem_nil
  fragments := fun _ hs => absurd hs List.not_mem_nil

end Cut

/-! ## The scan for pieces -/

namespace Cut

open Placeholder

variable {fallback tail : List Char} {segments : List Segment}

/-- Segments that are written in front of a text are cut off it. -/
theorem ofPattern_written_append (h : Writable fallback ⟨segments, []⟩) (rest : List Char) :
    ofPattern (written ⟨segments, []⟩ ++ rest) fallback =
      ⟨segments ++ (ofPattern rest fallback).segments, (ofPattern rest fallback).tail⟩ := by
  induction segments with
  | nil => rfl
  | cons s segments ih =>
    have hread : read (s.parameter.source.written ++ (written ⟨segments, []⟩ ++ rest)) =
        some (s.parameter.source, written ⟨segments, []⟩ ++ rest) :=
      read_written (h.names s List.mem_cons_self) fun _ hnone => nomatch hnone
    have hparameter : s.parameter.source.parameter fallback = s.parameter := by
      rw [← h.fragments s List.mem_cons_self]
      rfl
    rw [written_cons, List.append_assoc, List.append_assoc, ← Parameter.written_source,
      ofPattern_append h.not_mem_literal hread, hparameter, ih h.rest]
    rfl

theorem written_append_tail (segments : List Segment) (tail : List Char) :
    written ⟨segments, tail⟩ = written ⟨segments, []⟩ ++ tail := by
  simp [written]

/-- A pattern that is written out is cut again as it was. -/
theorem ofPattern_written {cut : Cut} (h : cut.Writable fallback) :
    ofPattern cut.written fallback = cut := by
  obtain ⟨segments, tail⟩ := cut
  have htail : ofPattern tail fallback = ⟨[], tail⟩ := by
    rw [ofPattern_eq, scan_of_not_mem h.back.not_mem_tail]
    rfl
  rw [written_append_tail, ofPattern_written_append h.front, htail, List.append_nil]

/-- No placeholder without a name stands in it. -/
theorem hasNameless_written (h : Writable fallback ⟨segments, tail⟩) :
    hasNameless (written ⟨segments, tail⟩) = false := by
  induction segments with
  | nil => exact hasNameless_of_not_mem h.not_mem_tail
  | cons s rest ih =>
    have hparameter : ∀ behind, hasNameless (s.parameter.source.written ++ behind) =
        hasNameless behind :=
      Placeholder.hasNameless_written (h.names s List.mem_cons_self) fun _ hnone => nomatch hnone
    rw [written_cons, hasNameless_append h.not_mem_literal, ← Parameter.written_source, hparameter,
      ih h.rest]

end Cut

namespace CompiledPattern

theorem checkParameters_eq_ok {pattern : List Char} {seen : List (List Char)}
    {parameters : List Parameter} (hnames : (parameters.map Parameter.name).Nodup)
    (hseen : ∀ p ∈ parameters, p.name ∉ seen) (husable : ∀ p ∈ parameters, Usable p.fragment) :
    checkParameters pattern seen parameters = .ok () := by
  induction parameters generalizing seen with
  | nil => rfl
  | cons p rest ih =>
    rw [List.map_cons, List.nodup_cons] at hnames
    have hfresh : seen.contains p.name = false := by
      simpa using hseen p List.mem_cons_self
    have hone : fragmentProblem p.fragment = .ok none := husable p List.mem_cons_self
    simp only [checkParameters, hfresh, Bool.false_eq_true, if_false, hone]
    apply ih hnames.2
    · intro q hq hmem
      rcases List.mem_cons.mp hmem with heq | hmem
      · exact hnames.1 (List.mem_map.mpr ⟨q, hq, heq⟩)
      · exact hseen q (List.mem_cons_of_mem _ hq) hmem
    · exact fun q hq => husable q (List.mem_cons_of_mem _ hq)

/-- What strict mode asks of a pattern. -/
theorem validate_eq_ok_iff {pattern : List Char} {cut : Cut} :
    validate pattern cut = .ok () ↔ Placeholder.hasNameless pattern = false ∧
      (∀ c ∈ cut.literals, c ≠ '{' ∧ c ≠ '}') ∧ Checked cut := by
  constructor
  · intro h
    rw [validate, Placeholder.occursIn_nameless] at h
    split at h
    · cases h
    · next hnameless =>
      split at h
      · cases h
      · next hbraces =>
        obtain ⟨hnames, -, husable⟩ := checked_of_checkParameters h
        refine ⟨by simpa using hnameless, ?_,
          hnames, fun s hs => husable _ (List.mem_map.mpr ⟨s, hs, rfl⟩)⟩
        simpa using hbraces
  · rintro ⟨hnameless, hliterals, hnames, husable⟩
    have hbraces : cut.literals.any (fun c => c == '{' || c == '}') = false := by
      apply List.any_eq_false.mpr
      intro c hc
      simpa using hliterals c hc
    rw [validate, Placeholder.occursIn_nameless, hnameless, hbraces]
    refine checkParameters_eq_ok hnames (fun p _ => List.not_mem_nil) fun p hp => ?_
    obtain ⟨s, hs, rfl⟩ := List.mem_map.mp hp
    exact husable s hs

theorem validate_of_compile {pattern fallback : List Char} {compiled : CompiledPattern}
    (h : compile pattern fallback true = .ok compiled) :
    validate pattern (Cut.ofPattern pattern fallback) = .ok () := by
  obtain ⟨⟨⟩, hvalid, -⟩ := exists_of_bind_ok h
  exact hvalid

/-- A pattern that is written out passes the checks of strict mode. -/
theorem validate_written {cut : Cut} {fallback : List Char} (h : cut.Writable fallback)
    (hnames : (cut.parameters.map Parameter.name).Nodup) (hfallback : Usable fallback) :
    validate cut.written cut = .ok () := by
  refine validate_eq_ok_iff.mpr ⟨Cut.hasNameless_written h, h.literals, hnames, fun s hs => ?_⟩
  rw [h.fragments s hs]
  exact hfallback

end CompiledPattern

/-! ## A fragment at the end

Where a placeholder that gives a fragment stands at the end of a pattern, the scan for placeholders
ends it at the first parenthesis with a brace behind it, which may be inside of the fragment, and it
finds nothing if a line ends before that. Both are noticed in strict mode: what was cut off is not
one pair of parentheses, and a brace stands in the literal text. -/

namespace Placeholder

/-- Literal text in front of a scan stays literal text. -/
theorem mem_literals_scanFrom {literal : List Char} {c : Char} (h : c ∈ literal)
    (text : List Char) : c ∈ (scanFrom literal text).literals := by
  induction literal, text using scanFrom.induct with
  | case1 literal =>
    rw [scanFrom_nil]
    exact h
  | case2 literal d rest source behind hread ih =>
    rw [scanFrom_of_read hread, Pieces.literals, List.flatMap_cons]
    exact List.mem_append_left _ (List.mem_append_left _ h)
  | case3 literal d rest hread ih =>
    rw [scanFrom_cons hread]
    exact ih (List.mem_append_left _ h)

/-- A fragment that is cut off at a parenthesis with a brace behind it is the beginning of what is
written up to a brace at the end. -/
theorem begins_of_readFragment {fragment cutOff behind : List Char}
    (h : readFragment (fragment ++ ['}']) = some (cutOff, behind)) : cutOff <+: fragment := by
  obtain ⟨-, -, -, -, heq⟩ := eq_of_readFragment h
  refine (List.prefix_concat_iff.mp ⟨_, heq.symm⟩).resolve_left fun hwhole => ?_
  have hlength := congrArg List.length heq
  simp only [hwhole, List.length_append, List.length_cons] at hlength
  omega

end Placeholder

namespace CompiledPattern

/-- A pattern that compiles in strict mode has no opening brace in its literal text. -/
theorem not_mem_literals_of_compile {pattern fallback : List Char} {compiled : CompiledPattern}
    (h : compile pattern fallback true = .ok compiled) :
    '{' ∉ (Cut.ofPattern pattern fallback).literals := by
  obtain ⟨-, hliterals, -⟩ := validate_eq_ok_iff.mp (validate_of_compile h)
  exact fun hmem => (hliterals '{' hmem).1 rfl

end CompiledPattern

namespace Cut

open Placeholder

/-- A pattern that compiles in strict mode is cut at the placeholder at its end where it is written,
with the whole fragment that it gives. -/
theorem ofPattern_given {pattern fallback literal name fragment : List Char}
    {front : List Segment} {compiled : CompiledPattern} (hfront : Writable fallback ⟨front, []⟩)
    (hliteral : '{' ∉ literal) (hname : IsName name) (husable : Usable fragment)
    (hpattern : pattern = written ⟨front, []⟩ ++
      (literal ++ (['{'] ++ (name ++ ([':'] ++ (fragment ++ ['}']))))))
    (h : CompiledPattern.compile pattern fallback true = .ok compiled) :
    ofPattern pattern fallback = ⟨front ++ [⟨literal, ⟨name, fragment, false⟩⟩], []⟩ := by
  have hbraces := CompiledPattern.not_mem_literals_of_compile h
  obtain ⟨-, -, -, hchecked⟩ := CompiledPattern.exists_of_compile h
  have husables := (hchecked rfl).usable
  -- the scan comes to the placeholder at the end
  have hcut : ofPattern pattern fallback =
      let last := (scanFrom literal ('{' :: (name ++ ':' :: (fragment ++ ['}'])))).cut fallback
      ⟨front ++ last.segments, last.tail⟩ := by
    rw [hpattern, ofPattern_written_append hfront, ofPattern_eq, scan, scanFrom_append hliteral]
    rfl
  rw [hcut] at hbraces husables ⊢
  have hread := read_given hname (fragment ++ ['}'])
  cases hfragment : readFragment (fragment ++ ['}']) with
  | none =>
    -- its opening brace would be literal text
    rw [hfragment] at hread
    rw [scanFrom_cons hread] at hbraces
    refine absurd ?_ hbraces
    have hbrace : '{' ∈ literal ++ ['{'] := List.mem_append_right literal List.mem_cons_self
    have hmem := mem_literals_scanFrom hbrace (name ++ ':' :: (fragment ++ ['}']))
    rw [← Pieces.literals_cut _ fallback] at hmem
    simp only [literals, List.flatMap_append, List.append_assoc] at hmem ⊢
    exact List.mem_append_right _ hmem
  | some entry =>
    obtain ⟨cutOff, behind⟩ := entry
    rw [hfragment] at hread
    rw [scanFrom_of_read hread] at husables ⊢
    -- a fragment that was cut off would not be usable
    have hcutoff : Usable cutOff :=
      husables ⟨literal, name, cutOff, false⟩ (List.mem_append_right _ List.mem_cons_self)
    obtain rfl := hcutoff.eq_of_begins husable (begins_of_readFragment hfragment)
    obtain ⟨-, -, -, -, heq⟩ := eq_of_readFragment hfragment
    obtain ⟨-, rfl⟩ := List.cons.inj (List.append_cancel_left heq)
    rw [scanFrom_nil]
    rfl

end Cut

end RequestRouter
