import RequestRouter.Proofs.Pattern.Written

/-!
# Patterns put together

The text of one pattern is put in front of another one before anything is read. If each brace of the
first pattern belongs to a placeholder, the scan is behind the last of them when it comes to the
seam (`Placeholder.Tidy.scan`), so the joined text is cut into the pieces of both, and only the
literal text on either side of the seam runs together (`Cut.ofPattern_join`). That shows in the
expression in one case: an optional placeholder that begins the second pattern takes a slash that
ends the first one (`CompiledPattern.body_join`).
-/

namespace RequestRouter

/-! ## The scan across a seam -/

namespace Placeholder

/-- In a tidy text each opening brace begins a placeholder or stands inside of one. -/
inductive Tidy : List Char → Prop
  | nil : Tidy []
  | letter {c : Char} {rest : List Char} : c ≠ '{' → Tidy rest → Tidy (c :: rest)
  | placeholder {source : Source} {behind : List Char} :
    read (source.written ++ behind) = some (source, behind) → Tidy behind →
      Tidy (source.written ++ behind)

variable {text behind : List Char} {source : Source}

/-- A text without an opening brace in its literal text is tidy. -/
theorem tidy_of_not_mem {literal : List Char} (h : '{' ∉ (scanFrom literal text).literals) :
    Tidy text := by
  induction literal, text using scanFrom.induct with
  | case1 literal => exact .nil
  | case2 literal c rest source behind hread ih =>
    obtain ⟨-, hwritten, -⟩ := written_of_read hread
    rw [scanFrom_of_read hread] at h
    rw [hwritten] at hread ⊢
    refine .placeholder hread (ih fun hmem => h ?_)
    rw [Pieces.literals, List.flatMap_cons, List.append_assoc]
    exact List.mem_append_right _ hmem
  | case3 literal c rest hread ih =>
    rw [scanFrom_cons hread] at h
    refine .letter ?_ (ih h)
    rintro rfl
    exact h (mem_literals_scanFrom (List.mem_append_right _ List.mem_cons_self) rest)

theorem untilClose_behind {front : List Char} (h : untilClose text = some (front, behind))
    (more : List Char) : untilClose (text ++ more) = some (front, behind ++ more) := by
  induction text generalizing front with
  | nil => cases h
  | cons c rest ih =>
    by_cases hclose : c = ')' ∧ rest.head? = some '}'
    · rw [untilClose, if_pos hclose] at h
      cases h
      obtain ⟨rfl, hbrace⟩ := hclose
      obtain ⟨behind, rfl⟩ := List.head?_eq_some_iff.mp hbrace
      rfl
    · by_cases hline : c = '\n'
      · rw [untilClose, if_neg hclose, if_pos hline] at h
        cases h
      · rw [untilClose_cons hclose hline, Option.map_eq_some_iff] at h
        obtain ⟨⟨others, last⟩, hrest, heq⟩ := h
        cases heq
        -- the text goes on behind `c`, so what follows it is the same with more text behind it
        have hhere : ¬ (c = ')' ∧ (rest ++ more).head? = some '}') := by
          cases rest with
          | nil => cases hrest
          | cons d rest => exact hclose
        rw [List.cons_append, untilClose_cons hhere hline, ih hrest]
        rfl

theorem readFragment_behind {fragment : List Char}
    (h : readFragment text = some (fragment, behind)) (more : List Char) :
    readFragment (text ++ more) = some (fragment, behind ++ more) := by
  unfold readFragment at h
  split at h
  · next c rest =>
    split at h
    · cases h
    · next hline =>
      obtain ⟨⟨front, last⟩, hrest, heq⟩ := Option.map_eq_some_iff.mp h
      cases heq
      simp only [readFragment, List.cons_append, if_neg hline, untilClose_behind hrest]
      rfl
  · cases h

/-- The fragment of a placeholder that is read ends where it is written to. -/
theorem readFragment_of_read (h : read text = some (source, behind)) :
    ∀ fragment ∈ source.fragment,
      readFragment (fragment ++ '}' :: behind) = some (fragment, behind) := by
  unfold read at h
  split at h
  · next inside =>
    generalize splitMark inside = split at h
    dsimp only at h
    split at h
    · cases h
    · split at h
      · cases h
        exact fun _ hnone => nomatch hnone
      · next rest _ =>
        obtain ⟨⟨fragment, last⟩, hfragment, heq⟩ := Option.map_eq_some_iff.mp h
        cases heq
        obtain ⟨-, -, -, -, hrest⟩ := eq_of_readFragment hfragment
        rintro _ ⟨⟩
        rw [← hrest]
        exact hfragment
      · cases h
  · cases h

/-- A placeholder is read where it is written, whatever follows. -/
theorem read_behind (h : read (source.written ++ behind) = some (source, behind))
    (more : List Char) :
    read (source.written ++ (behind ++ more)) = some (source, behind ++ more) := by
  refine read_written (written_of_read h).1 fun fragment hfragment => ?_
  have hread := readFragment_behind (readFragment_of_read h fragment hfragment) more
  rw [List.append_assoc] at hread
  exact hread

namespace Tidy

/-- What is scanned behind a tidy text goes on with the literal text at its end. -/
theorem scan (h : Tidy text) (literal more : List Char) :
    let pieces := scanFrom literal text
    let later := scanFrom pieces.tail more
    scanFrom literal (text ++ more) =
      ⟨pieces.placeholders ++ later.placeholders, later.tail⟩ := by
  induction h generalizing literal with
  | nil =>
    rw [scanFrom_nil]
    rfl
  | letter hc _ ih =>
    rw [List.cons_append, scanFrom_cons (read_of_ne hc _), scanFrom_cons (read_of_ne hc _)]
    exact ih _
  | placeholder hread _ ih =>
    rw [List.append_assoc, scanFrom_of_read (read_behind hread more), scanFrom_of_read hread, ih []]
    rfl

/-- No placeholder without a name reaches across the end of a tidy text. -/
theorem hasNameless_append (h : Tidy text) (more : List Char) :
    hasNameless (text ++ more) = (hasNameless text || hasNameless more) := by
  induction h with
  | nil => rfl
  | letter hc _ ih => rw [List.cons_append, hasNameless_of_ne hc, hasNameless_of_ne hc, ih]
  | @placeholder source behind hread _ ih =>
    obtain ⟨hname, -, hgiven⟩ := written_of_read hread
    have hlast : ∀ fragment ∈ source.fragment, fragment.getLast? = some ')' := by
      intro fragment hfragment
      obtain ⟨inner, -, -, rfl, -⟩ := hgiven fragment hfragment
      exact List.getLast?_concat (l := '(' :: inner)
    rw [List.append_assoc, hasNameless_written hname hlast, hasNameless_written hname hlast, ih,
      Bool.or_assoc]

end Tidy

end Placeholder

/-! ## Cuts put together -/

namespace Cut

/-- A cut with more literal text in front of it. -/
def preceded (literal : List Char) : Cut → Cut
  | ⟨[], tail⟩ => ⟨[], literal ++ tail⟩
  | ⟨s :: rest, tail⟩ => ⟨{ s with literal := literal ++ s.literal } :: rest, tail⟩

/-- One cut after another. The literal text on either side of the seam runs together. -/
def join (first second : Cut) : Cut :=
  let later := second.preceded first.tail
  ⟨first.segments ++ later.segments, later.tail⟩

theorem literals_preceded (literal : List Char) (cut : Cut) :
    (cut.preceded literal).literals = literal ++ cut.literals := by
  obtain ⟨segments, tail⟩ := cut
  cases segments <;> simp [preceded, literals]

theorem parameters_preceded (literal : List Char) (cut : Cut) :
    (cut.preceded literal).parameters = cut.parameters := by
  obtain ⟨segments, tail⟩ := cut
  cases segments <;> rfl

theorem literals_join (first second : Cut) :
    (first.join second).literals = first.literals ++ second.literals := by
  have hlater := literals_preceded first.tail second
  rw [literals] at hlater
  rw [join, literals, List.flatMap_append, List.append_assoc, hlater, ← List.append_assoc]
  rfl

theorem parameters_join (first second : Cut) :
    (first.join second).parameters = first.parameters ++ second.parameters := by
  rw [← parameters_preceded first.tail second, join, parameters, List.map_append]
  rfl

open Placeholder

variable {p q fallback : List Char}

theorem cut_scanFrom (front literal text fallback : List Char) :
    (scanFrom (front ++ literal) text).cut fallback =
      ((scanFrom literal text).cut fallback).preceded front := by
  induction literal, text using scanFrom.induct with
  | case1 literal =>
    rw [scanFrom_nil, scanFrom_nil]
    rfl
  | case2 literal c rest source behind hread _ =>
    rw [scanFrom_of_read hread, scanFrom_of_read hread]
    rfl
  | case3 literal c rest hread ih =>
    rw [scanFrom_cons hread, scanFrom_cons hread, List.append_assoc]
    exact ih

/-- A pattern behind a tidy one is cut as it is cut by itself. -/
theorem ofPattern_join (h : Tidy p) (q fallback : List Char) :
    ofPattern (p ++ q) fallback = (ofPattern p fallback).join (ofPattern q fallback) := by
  have hlater := cut_scanFrom (scan p).tail [] q fallback
  rw [List.append_nil] at hlater
  have hjoin : ((scan p).cut fallback).join ((scan q).cut fallback) =
      let later := (scanFrom (scan p).tail q).cut fallback
      ⟨((scan p).cut fallback).segments ++ later.segments, later.tail⟩ := by
    rw [hlater]
    rfl
  have hscan : scan (p ++ q) = _ := h.scan [] q
  rw [ofPattern_eq, ofPattern_eq, ofPattern_eq, hjoin, hscan, Pieces.cut, List.map_append]
  rfl

/-- The literal text at the end of a pattern ends the pattern. -/
theorem getLast?_of_tail {c : Char} (h : (ofPattern p fallback).tail.getLast? = some c) :
    p.getLast? = some c := by
  rw [ofPattern_eq] at h
  have htext : (scan p).text = p := text_scanFrom [] p
  rw [← htext, Pieces.text, List.getLast?_append]
  rw [Pieces.cut] at h
  rw [h]
  rfl

/-- An optional placeholder with no text in front of it begins the pattern. -/
theorem begins_of_optional {s : Segment} (h : s ∈ (ofPattern q fallback).segments.head?)
    (hliteral : s.literal = []) (hoptional : s.parameter.optional = true) :
    "\x7b?".toList <+: q := by
  rw [ofPattern_eq] at h
  have htext : (scan q).text = q := text_scanFrom [] q
  generalize scan q = pieces at h htext
  obtain ⟨placeholders, tail⟩ := pieces
  cases placeholders with
  | nil => cases h
  | cons entry rest =>
    obtain ⟨literal, source⟩ := entry
    obtain rfl := Option.some.inj h
    have hmark : source.mark = ['?'] := if_pos hoptional
    have hempty : literal = [] := hliteral
    rw [← htext, Pieces.text_cons, hempty, Source.written, hmark]
    exact ⟨_, rfl⟩

end Cut

/-! ## Expressions put together -/

theorem verbatim_append (a b : List Char) : verbatim (a ++ b) = verbatim a ++ verbatim b :=
  List.flatMap_append

namespace CompiledPattern

/-- More literal text in front of a segment is more literal text in its expression, unless its
placeholder takes the slash at the end of that text. -/
theorem segmentExpression_preceded {s : Segment} {literal : List Char}
    (h : literal.getLast? = some '/' → s.literal = [] → s.parameter.optional = false) :
    segmentExpression { s with literal := literal ++ s.literal } =
      verbatim literal ++ segmentExpression s := by
  have htakes : Segment.takesSlash { s with literal := literal ++ s.literal } = s.takesSlash := by
    unfold Segment.takesSlash
    cases hoptional : s.parameter.optional with
    | false => rfl
    | true =>
      cases hliteral : s.literal with
      | nil =>
        rw [hoptional] at h
        have hlast : literal.getLast? ≠ some '/' := fun hslash => nomatch h hslash hliteral
        simpa using hlast
      | cons c rest => rw [List.getLast?_append_of_ne_nil _ (List.cons_ne_nil c rest)]
  have hstem : Segment.stem { s with literal := literal ++ s.literal } = literal ++ s.stem := by
    unfold Segment.stem
    rw [htakes]
    split
    · next hslash =>
      refine List.dropLast_append_of_ne_nil fun hnil => ?_
      rw [Segment.takesSlash, hnil] at hslash
      simp at hslash
    · rfl
  have hslash : Segment.slash { s with literal := literal ++ s.literal } = s.slash := by
    unfold Segment.slash
    rw [htakes]
  rw [Segment.segmentExpression_eq, Segment.segmentExpression_eq, hstem, hslash, verbatim_append,
    List.append_assoc]

theorem body_preceded {cut : Cut} {literal : List Char}
    (h : literal.getLast? = some '/' → ∀ s ∈ cut.segments.head?, s.literal = [] →
      s.parameter.optional = false) :
    body (cut.preceded literal) = verbatim literal ++ body cut := by
  obtain ⟨segments, tail⟩ := cut
  cases segments with
  | nil => exact verbatim_append literal tail
  | cons s rest =>
    have hone := segmentExpression_preceded fun hslash => h hslash s rfl
    simp only [body, Cut.preceded, List.flatMap_cons, hone, List.append_assoc]

/-- The expression of two cuts is that of both, if no optional placeholder takes a slash across the
seam. -/
theorem body_join {first second : Cut}
    (h : first.tail.getLast? = some '/' → ∀ s ∈ second.segments.head?, s.literal = [] →
      s.parameter.optional = false) :
    body (first.join second) = body first ++ body second := by
  have hlater := body_preceded h
  rw [body] at hlater
  rw [Cut.join, body, List.flatMap_append, List.append_assoc, hlater, ← List.append_assoc]
  rfl

/-! ## Patterns that are accepted one by one -/

/-- The expression without its anchors. -/
def inner (compiled : CompiledPattern) : List Char := compiled.expression.tail.dropLast

variable {fallback p q : List Char} {strict : Bool} {compiled : CompiledPattern}

theorem inner_of_compile (h : compile p fallback strict = .ok compiled) :
    compiled.inner = body (Cut.ofPattern p fallback) := by
  rw [inner, (exists_of_compile h).1, expressionOf]
  exact List.dropLast_concat

theorem tidy_of_validate (h : validate p (Cut.ofPattern p fallback) = .ok ()) :
    Placeholder.Tidy p := by
  obtain ⟨-, hliterals, -⟩ := validate_eq_ok_iff.mp h
  rw [Placeholder.ofPattern_eq, Placeholder.Pieces.literals_cut] at hliterals
  exact Placeholder.tidy_of_not_mem fun hmem => (hliterals '{' hmem).1 rfl

theorem nodup_names_append {first second : List Parameter}
    (hfirst : (first.map Parameter.name).Nodup) (hsecond : (second.map Parameter.name).Nodup)
    (h : ∀ x ∈ first, ∀ y ∈ second, x.name ≠ y.name) :
    ((first ++ second).map Parameter.name).Nodup := by
  rw [List.map_append, List.nodup_append]
  refine ⟨hfirst, hsecond, ?_⟩
  rintro _ hleft other hright rfl
  obtain ⟨x, hx, hname⟩ := List.mem_map.mp hleft
  obtain ⟨y, hy, hname'⟩ := List.mem_map.mp hright
  exact h x hx y hy (hname.trans hname'.symm)

/-- With different names, patterns that pass the checks of strict mode pass them together. -/
theorem validate_append (hp : validate p (Cut.ofPattern p fallback) = .ok ())
    (hq : validate q (Cut.ofPattern q fallback) = .ok ())
    (hnames : ∀ x ∈ (Cut.ofPattern p fallback).parameters,
      ∀ y ∈ (Cut.ofPattern q fallback).parameters, x.name ≠ y.name) :
    validate (p ++ q) (Cut.ofPattern (p ++ q) fallback) = .ok () := by
  have htidy := tidy_of_validate hp
  obtain ⟨hnameless, hliterals, hchecked⟩ := validate_eq_ok_iff.mp hp
  obtain ⟨hnameless', hliterals', hchecked'⟩ := validate_eq_ok_iff.mp hq
  rw [validate_eq_ok_iff, htidy.hasNameless_append, hnameless, hnameless',
    Cut.ofPattern_join htidy, Cut.literals_join]
  refine ⟨rfl, fun c hc => ?_, ?_, fun s hs => ?_⟩
  · exact (List.mem_append.mp hc).elim (hliterals c) (hliterals' c)
  · rw [Cut.parameters_join]
    exact nodup_names_append hchecked.names hchecked'.names hnames
  · -- a segment has its fragment from one of the two patterns
    have hmem : s.parameter ∈ (Cut.ofPattern p fallback).parameters ++
        (Cut.ofPattern q fallback).parameters := by
      rw [← Cut.parameters_join]
      exact List.mem_map.mpr ⟨s, hs, rfl⟩
    rcases List.mem_append.mp hmem with hmem | hmem
    · obtain ⟨t, ht, heq⟩ := List.mem_map.mp hmem
      exact heq ▸ hchecked.usable t ht
    · obtain ⟨t, ht, heq⟩ := List.mem_map.mp hmem
      exact heq ▸ hchecked'.usable t ht

theorem body_append (h : Placeholder.Tidy p)
    (hslash : p.getLast? = some '/' → ¬ "\x7b?".toList <+: q) :
    body (Cut.ofPattern (p ++ q) fallback) =
      body (Cut.ofPattern p fallback) ++ body (Cut.ofPattern q fallback) := by
  rw [Cut.ofPattern_join h]
  refine body_join fun hlast s hs hliteral => ?_
  rw [Bool.eq_false_iff]
  intro hoptional
  exact hslash (Cut.getLast?_of_tail hlast) (Cut.begins_of_optional hs hliteral hoptional)

/-- Patterns that can be put together. Another one can be put behind some if strict mode accepts it,
it has no name in common with them, and it does not begin with an optional placeholder if they end
in a slash. -/
inductive Joinable (fallback : List Char) : List CompiledPattern → Prop
  | nil : Joinable fallback []
  | concat {pieces : List CompiledPattern} {last : CompiledPattern} : Joinable fallback pieces →
    compile last.pattern fallback true = .ok last →
    (∀ x ∈ pieces.flatMap parameters, ∀ y ∈ last.parameters, x.name ≠ y.name) →
    ((pieces.flatMap pattern).getLast? = some '/' → ¬ "\x7b?".toList <+: last.pattern) →
    Joinable fallback (pieces ++ [last])

namespace Joinable

variable {pieces : List CompiledPattern}

/-- What is put together passes the checks, has the parameters of all pieces, and its expression is
put together from theirs. -/
theorem joined (h : Joinable fallback pieces) :
    let text := pieces.flatMap pattern
    validate text (Cut.ofPattern text fallback) = .ok () ∧
      (Cut.ofPattern text fallback).parameters = pieces.flatMap parameters ∧
      body (Cut.ofPattern text fallback) = pieces.flatMap inner := by
  induction h with
  | nil => exact ⟨rfl, rfl, rfl⟩
  | @concat pieces last _ hlast hnames hslash ih =>
    obtain ⟨hvalid, hparameters, hbody⟩ := ih
    obtain ⟨-, hown, -⟩ := exists_of_compile hlast
    have htidy := tidy_of_validate hvalid
    simp only [List.flatMap_append, List.flatMap_singleton]
    refine ⟨validate_append hvalid (validate_of_compile hlast) ?_, ?_, ?_⟩
    · rw [hparameters, ← hown]
      exact hnames
    · rw [Cut.ofPattern_join htidy, Cut.parameters_join, hparameters, ← hown]
    · rw [body_append htidy hslash, hbody, ← inner_of_compile hlast]

/-- The expression of what is put together, in either mode. -/
theorem expression_eq (h : Joinable fallback pieces) {joined : CompiledPattern}
    (hjoined : compile (pieces.flatMap pattern) fallback strict = .ok joined) :
    joined.parameters = pieces.flatMap parameters ∧
      joined.expression = '^' :: pieces.flatMap inner ++ ['$'] := by
  obtain ⟨-, hparameters, hbody⟩ := h.joined
  obtain ⟨hexpression, hown, -⟩ := exists_of_compile hjoined
  exact ⟨hown.trans hparameters, hexpression.trans (by rw [expressionOf, hbody])⟩

end Joinable

theorem joinable_pair {first second : CompiledPattern}
    (hfirst : compile p fallback true = .ok first) (hsecond : compile q fallback true = .ok second)
    (hnames : ∀ x ∈ first.parameters, ∀ y ∈ second.parameters, x.name ≠ y.name)
    (hslash : p.getLast? = some '/' → ¬ "\x7b?".toList <+: q) :
    Joinable fallback [first, second] := by
  have hp := pattern_of_compile hfirst
  have hq := pattern_of_compile hsecond
  subst hp hq
  have hone : Joinable fallback ([] ++ [first]) :=
    .concat .nil hfirst (fun _ hx => absurd hx List.not_mem_nil) fun hnone => nomatch hnone
  have htwo : Joinable fallback ([first] ++ [second]) :=
    .concat hone hsecond (by simpa using hnames) (by simpa using hslash)
  exact htwo

end CompiledPattern

end RequestRouter
