import RequestRouter.Pattern.Compile
import RequestRouter.Proofs.Reading.Verbatim

/-!
# The expression of a pattern, cut into units

The expression of a pattern is a text, and it is read again as a text. `Cut.ofChars_expressionOf`
says which units it falls into: those of each part, one after another, where the literal text in
front of an optional placeholder falls into its stem and the slash that the placeholder takes with
it.
-/

namespace RequestRouter

namespace Segment

/-- An optional placeholder takes the slash in front of it. -/
def takesSlash (s : Segment) : Bool := s.parameter.optional && s.literal.getLast? == some '/'

/-- The literal text that stays if the placeholder is left out. -/
def stem (s : Segment) : List Char := if s.takesSlash then s.literal.dropLast else s.literal

/-- The slash that is left out together with the placeholder. -/
def slash (s : Segment) : List Char := if s.takesSlash then ['/'] else []

variable {s : Segment}

theorem stem_append_slash (s : Segment) : s.stem ++ s.slash = s.literal := by
  unfold stem slash
  split
  · next h =>
    obtain ⟨-, hlast⟩ := Bool.and_eq_true_iff.mp h
    obtain ⟨front, hfront⟩ := List.getLast?_eq_some_iff.mp (eq_of_beq hlast)
    rw [hfront, List.dropLast_concat]
  · exact List.append_nil _

theorem stem_of_required (h : s.parameter.optional = false) : s.stem = s.literal := by
  simp [stem, takesSlash, h]

/-- The expression of a segment, written in one way for all three kinds of placeholders. -/
theorem segmentExpression_eq (s : Segment) :
    CompiledPattern.segmentExpression s = verbatim s.stem ++
      if s.parameter.optional then "(?:".toList ++ (verbatim s.slash ++
        (CompiledPattern.enclosed s.parameter.fragment ++ ")?".toList))
      else CompiledPattern.enclosed s.parameter.fragment := by
  have hslash : verbatim ['/'] = ['/'] := by decide
  have hopen : "(?:/".toList = "(?:".toList ++ ['/'] := by decide
  unfold CompiledPattern.segmentExpression stem slash takesSlash
  cases hoptional : s.parameter.optional with
  | false => simp
  | true =>
    cases hlast : s.literal.getLast? == some '/' with
    | true => simp [hslash]
    | false => simp [verbatim]

/-- The units of a fragment as it is enclosed. -/
def enclosedUnits (s : Segment) : Units :=
  (Units.ofChars (CompiledPattern.enclosed s.parameter.fragment)).1

/-- The units of a placeholder. -/
def placeholder (s : Segment) : Units :=
  if s.parameter.optional then
    .char '(' :: .char '?' :: .char ':' ::
      (s.slash.map Lexeme.verbatim ++ (s.enclosedUnits ++ [.char ')', .char '?']))
  else s.enclosedUnits

/-- The units of a segment. -/
def units (s : Segment) : Units := s.stem.map Lexeme.verbatim ++ s.placeholder

end Segment

/-- The units of the expression of a pattern. -/
def Cut.units (cut : Cut) : Units :=
  .char '^' :: (cut.segments.flatMap Segment.units ++ (cut.tail.map Lexeme.verbatim ++ [.char '$']))

namespace Units

/-- An enclosed fragment begins with a parenthesis, and it ends with a lone backslash no more than
the fragment does. -/
theorem ofChars_enclosed {fragment : List Char} (h : (ofChars fragment).2 = false) :
    (∃ rest, (ofChars (CompiledPattern.enclosed fragment)).1 = .char '(' :: rest) ∧
      (ofChars (CompiledPattern.enclosed fragment)).2 = false := by
  unfold CompiledPattern.enclosed
  split
  · next hsingle =>
    obtain ⟨hhead, -⟩ := Bool.and_eq_true_iff.mp hsingle
    obtain ⟨rest, rfl⟩ := List.head?_eq_some_iff.mp (eq_of_beq hhead)
    exact ⟨⟨_, rfl⟩, h⟩
  · rw [List.append_assoc, ofChars_append (by decide), ofChars_append h]
    exact ⟨⟨_, rfl⟩, rfl⟩

theorem ofChars_segment {s : Segment} (h : (ofChars s.parameter.fragment).2 = false) :
    ofChars (CompiledPattern.segmentExpression s) = (s.units, false) := by
  obtain ⟨-, hlone⟩ := ofChars_enclosed h
  have hverbatim : ∀ text, (ofChars (verbatim text)).2 = false := fun text => by
    rw [ofChars_verbatim]
  rw [Segment.segmentExpression_eq, ofChars_append (hverbatim _), ofChars_verbatim, Segment.units,
    Segment.placeholder]
  cases s.parameter.optional with
  | false =>
    simp only [Bool.false_eq_true, if_false]
    rw [hlone, Segment.enclosedUnits]
  | true =>
    simp only [if_true]
    rw [ofChars_append (by decide), ofChars_append (hverbatim _), ofChars_append hlone,
      ofChars_verbatim]
    rfl

theorem ofChars_segments {segments : List Segment} (tail : List Char)
    (h : ∀ s ∈ segments, (ofChars s.parameter.fragment).2 = false) :
    ofChars (segments.flatMap CompiledPattern.segmentExpression ++ tail) =
      (segments.flatMap Segment.units ++ (ofChars tail).1, (ofChars tail).2) := by
  induction segments with
  | nil => rfl
  | cons s rest ih =>
    have hone := ofChars_segment (h s List.mem_cons_self)
    rw [List.flatMap_cons, List.append_assoc, ofChars_append (by rw [hone]), hone,
      ih fun s hs => h s (List.mem_cons_of_mem _ hs), List.flatMap_cons, List.append_assoc]

end Units

/-- The expression of a pattern falls into the units of its parts. -/
theorem Cut.ofChars_expressionOf {cut : Cut}
    (h : ∀ s ∈ cut.segments, (Units.ofChars s.parameter.fragment).2 = false) :
    Units.ofChars (CompiledPattern.expressionOf cut) = (cut.units, false) := by
  have hexpression : CompiledPattern.expressionOf cut =
      '^' :: (cut.segments.flatMap CompiledPattern.segmentExpression ++
        (verbatim cut.tail ++ ['$'])) := by
    simp [CompiledPattern.expressionOf, CompiledPattern.body]
  have hverbatim := Units.ofChars_verbatim cut.tail
  rw [hexpression, Units.ofChars_cons (by decide), Units.ofChars_segments _ h,
    Units.ofChars_append (by rw [hverbatim]), hverbatim]
  rfl

/-- Nothing in the expression of a pattern that follows a quantifier of the pattern itself changes
its order of repetition. -/
theorem Greed.read_segments (segments : List Segment) (tail : List Char)
    (h : ∀ s ∈ segments, (Units.ofChars s.parameter.fragment).2 = false) :
    Greed.read (segments.flatMap Segment.units ++ (tail.map Lexeme.verbatim ++ [.char '$'])) =
      (.greedy, segments.flatMap Segment.units ++ (tail.map Lexeme.verbatim ++ [.char '$'])) := by
  have hletter : ∀ c rest, read (Lexeme.verbatim c :: rest) =
      (.greedy, Lexeme.verbatim c :: rest) := by
    intro c rest
    unfold read
    split
    · next heq =>
      have hunit := (List.cons.inj heq).1
      unfold Lexeme.verbatim at hunit
      split at hunit
      · cases hunit
      · next hc =>
        cases hunit
        exact absurd (by decide) hc
    · next heq =>
      have hunit := (List.cons.inj heq).1
      unfold Lexeme.verbatim at hunit
      split at hunit
      · cases hunit
      · next hc =>
        cases hunit
        exact absurd (by decide) hc
    · rfl
  have hopen : ∀ rest, read (.char '(' :: rest) = (.greedy, .char '(' :: rest) := fun _ => rfl
  cases segments with
  | nil =>
    cases tail with
    | nil => rfl
    | cons c tail => exact hletter c _
  | cons s segments =>
    obtain ⟨⟨rest, henclosed⟩, -⟩ := Units.ofChars_enclosed (h s List.mem_cons_self)
    rw [List.flatMap_cons, Segment.units, Segment.placeholder]
    cases s.stem with
    | cons c stem => exact hletter c _
    | nil =>
      cases s.parameter.optional with
      | true => exact hopen _
      | false =>
        rw [Segment.enclosedUnits, henclosed]
        exact hopen _

end RequestRouter
