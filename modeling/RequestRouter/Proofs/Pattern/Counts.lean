import RequestRouter.Proofs.Pattern.Segments
import RequestRouter.Proofs.Pattern.Validation
import RequestRouter.Proofs.Reading.Halts

/-!
# Counts in patterns

A count that does not fit stands in braces, and the expression of a pattern has braces that are not
escaped only inside of the fragments. So if reading the expression comes to such a count, the
fragment of some placeholder holds it (`Cut.exists_of_overflows`).
-/

namespace RequestRouter

/-! ## Bounds as they are written -/

theorem Units.chars_append (a b : Units) : chars (a ++ b) = a.chars ++ b.chars :=
  List.flatMap_append

theorem Units.chars_map_char (text : List Char) : chars (text.map Lexeme.char) = text := by
  rw [chars, List.flatMap_map]
  exact List.flatMap_singleton' text

theorem Units.among_of_mem_takeAll {among : Char → Bool} {units : Units} {c : Char}
    (h : c ∈ (takeAll among units).1) : among c = true := by
  fun_induction takeAll among units with
  | case1 d rest hd taken rest' cut ih =>
    rw [cut] at ih
    rcases List.mem_cons.mp h with rfl | h
    · exact hd
    · exact ih h
  | case2 | case3 => cases h

theorem Units.chars_takeAll (among : Char → Bool) (units : Units) :
    units.chars = (takeAll among units).1 ++ (takeAll among units).2.chars := by
  conv => lhs; rw [← takeAll_append among units]
  rw [chars_append, chars_map_char]

namespace Bounds

/-- The text of bounds, with one count or two. -/
def text (low : List Char) (high : Option (List Char)) : List Char :=
  '{' :: (low ++ high.elim [] (',' :: ·)) ++ ['}']

/-- Somewhere in a text stand bounds of which one does not fit. -/
def Within (overflow : Overflow) (whole : List Char) : Prop :=
  ∃ low high, (∀ c ∈ low ++ high.getD [], c.isDigit = true) ∧
    (overflow? low).or (overflow? (high.getD low)) = some overflow ∧ text low high <:+: whole

variable {rest after : Units} {overflow : Overflow}

theorem exists_text (h : Overflows rest overflow after) :
    ∃ low high, (∀ c ∈ low ++ high.getD [], c.isDigit = true) ∧
      (overflow? low).or (overflow? (high.getD low)) = some overflow ∧
      Units.chars (.char '{' :: rest) = text low high ++ after.chars := by
  obtain ⟨low, high, hsplit, hoverflow⟩ := h
  have hchars : ∀ (c : Char) (units : Units), Units.chars (.char c :: units) = c :: units.chars :=
    fun c units => rfl
  have hdigits : ∀ {units : Units}, ∀ c ∈ (units.takeAll Char.isDigit).1, c.isDigit = true :=
    fun c => Units.among_of_mem_takeAll
  unfold split at hsplit
  dsimp only at hsplit
  have hlow := Units.chars_takeAll Char.isDigit rest
  cases hcomma : (rest.takeAll Char.isDigit).2.accept ',' with
  | none =>
    rw [hcomma] at hsplit
    obtain ⟨left, hclose, heq⟩ := Option.map_eq_some_iff.mp hsplit
    have hrest := Units.accept_eq_some hclose
    cases heq
    refine ⟨_, none, by simpa using hdigits, hoverflow, ?_⟩
    dsimp only at hrest
    rw [hchars, hlow, hrest, hchars, text]
    simp
  | some behind =>
    rw [hcomma] at hsplit
    obtain ⟨left, hclose, heq⟩ := Option.map_eq_some_iff.mp hsplit
    have hrest := Units.accept_eq_some hcomma
    have hbehind := Units.chars_takeAll Char.isDigit behind
    have hleft := Units.accept_eq_some hclose
    cases heq
    refine ⟨_, some _, ?_, hoverflow, ?_⟩
    · intro c hc
      exact (List.mem_append.mp hc).elim (hdigits c) (hdigits c)
    · rw [hchars, hlow, hrest, hchars, hbehind, hleft, hchars, text]
      simp

end Bounds

/-- Where reading comes to a count that does not fit, the text has it in braces. -/
theorem Expression.Overflows.within {text : List Char} {overflow : Overflow}
    (h : Overflows text overflow) : Bounds.Within overflow text := by
  obtain ⟨constructs, e, rest, after, hreads, hoverflows, -⟩ := h
  obtain ⟨front, hfront⟩ := hreads.suffix
  obtain ⟨low, high, hdigits, hoverflow, hchars⟩ := Bounds.exists_text hoverflows
  refine ⟨low, high, hdigits, hoverflow, ?_⟩
  rw [← Units.chars_ofChars text, ← hfront, Units.chars_append, hchars]
  rw [List.append_assoc, List.append_assoc, ← List.append_assoc]
  exact List.infix_append _ _ _

/-! ## Texts that stand in fragments only -/

section Infix

variable {w front back : List Char} {c : Char}

/-- A text without some character stands on one side of it. -/
theorem infix_of_append_cons (hc : c ∉ w) (h : w <:+: front ++ c :: back) :
    w <:+: front ∨ w <:+: back := by
  obtain ⟨before, behind, h⟩ := h
  rw [List.append_assoc] at h
  rcases List.append_eq_append_iff.mp h with ⟨a, hfront, ha⟩ | ⟨a, -, ha⟩
  · rcases List.append_eq_append_iff.mp ha with ⟨b, hb, -⟩ | ⟨b, hw, hb⟩
    · exact .inl ⟨before, b, by rw [hfront, hb, List.append_assoc]⟩
    · cases b with
      | nil => exact .inl ⟨before, [], by rw [hfront, hw, List.append_nil, List.append_nil]⟩
      | cons d b =>
        obtain ⟨rfl, -⟩ := List.cons.inj hb
        exact absurd (hw ▸ List.mem_append_right _ List.mem_cons_self) hc
  · cases a with
    | nil =>
      cases w with
      | nil => exact .inl List.nil_infix
      | cons d w =>
        obtain ⟨rfl, -⟩ := List.cons.inj ha
        exact absurd List.mem_cons_self hc
    | cons d a =>
      obtain ⟨-, rfl⟩ := List.cons.inj ha
      exact .inr ⟨a, behind, List.append_assoc ..⟩

theorem infix_of_cons (hc : c ∉ w) (hne : w ≠ []) (h : w <:+: c :: back) : w <:+: back := by
  have h : w <:+: [] ++ c :: back := h
  exact (infix_of_append_cons hc h).resolve_left fun hnil => hne (List.infix_nil.mp hnil)

end Infix

/-- A closing brace in literal text has a backslash in front of it. -/
theorem getLast?_of_verbatim {text front back : List Char}
    (h : verbatim text = front ++ '}' :: back) : front.getLast? = some '\\' := by
  induction text generalizing front with
  | nil => cases front <;> cases h
  | cons c text ih =>
    have hcons : verbatim (c :: text) = verbatimChar c ++ verbatim text := List.flatMap_cons
    rw [hcons] at h
    rcases List.append_eq_append_iff.mp h with ⟨a, rfl, hrest⟩ | ⟨a, hchar, hrest⟩
    · rw [List.getLast?_append, ih hrest, Option.some_or]
    · cases a with
      | nil =>
        have hrest : verbatim text = [] ++ '}' :: back := hrest.symm
        cases ih hrest
      | cons d a =>
        obtain ⟨rfl, -⟩ := List.cons.inj hrest
        unfold verbatimChar at hchar
        split at hchar
        · cases front with
          | nil => cases hchar
          | cons d front =>
            cases front with
            | nil =>
              obtain ⟨rfl, -⟩ := List.cons.inj hchar
              rfl
            | cons => simp at hchar
        · next hreserved =>
          cases front with
          | nil =>
            cases hchar
            exact absurd (by decide) hreserved
          | cons => simp at hchar

/-- A text that can stand in the expression of a pattern only inside of a fragment. -/
structure Foreign (w : List Char) : Prop where
  ne : w ≠ []
  free : ∀ c ∈ "^(?:)$".toList, c ∉ w
  literal : ∀ text, ¬ w <:+: verbatim text

namespace Foreign

variable {w : List Char} (h : Foreign w)

include h

theorem of_cons {c : Char} {rest : List Char} (hc : c ∈ "^(?:)$".toList) (hw : w <:+: c :: rest) :
    w <:+: rest := infix_of_cons (h.free c hc) h.ne hw

/-- In front of the parenthesis that an enclosed fragment begins with there is nothing to look for,
and the parenthesis that ends it separates it from what follows. -/
theorem of_enclosed {literal fragment rest : List Char}
    (hw : w <:+: verbatim literal ++ (CompiledPattern.enclosed fragment ++ rest)) :
    w <:+: fragment ∨ w <:+: rest := by
  obtain ⟨inner, hinner, hfragment⟩ : ∃ inner, CompiledPattern.enclosed fragment =
      '(' :: (inner ++ [')']) ∧ (w <:+: inner → w <:+: fragment) := by
    unfold CompiledPattern.enclosed
    split
    · next hsingle =>
      obtain ⟨inner, rfl⟩ := exists_of_isSingleGroup hsingle
      exact ⟨inner, rfl, fun hw => hw.trans (List.infix_append ['('] inner [')'])⟩
    · exact ⟨'?' :: ':' :: fragment, by simp, fun hw =>
        h.of_cons (by decide) (h.of_cons (by decide) hw)⟩
  rw [hinner, List.cons_append] at hw
  have hw := (infix_of_append_cons (h.free _ (by decide)) hw).resolve_left (h.literal _)
  rw [List.append_assoc] at hw
  exact (infix_of_append_cons (h.free _ (by decide)) hw).imp hfragment id

theorem of_segment {s : Segment} {rest : List Char}
    (hw : w <:+: CompiledPattern.segmentExpression s ++ rest) :
    w <:+: s.parameter.fragment ∨ w <:+: rest := by
  rw [Segment.segmentExpression_eq, List.append_assoc] at hw
  cases hoptional : s.parameter.optional with
  | false =>
    rw [hoptional] at hw
    exact h.of_enclosed hw
  | true =>
    rw [hoptional] at hw
    have hw := (infix_of_append_cons (h.free _ (by decide)) hw).resolve_left (h.literal _)
    have hw := h.of_cons (by decide) (h.of_cons (by decide) hw)
    have hw : w <:+: verbatim s.slash ++ (CompiledPattern.enclosed s.parameter.fragment ++
        (')' :: '?' :: rest)) := by simpa using hw
    refine (h.of_enclosed hw).imp id fun hw => ?_
    exact h.of_cons (by decide) (h.of_cons (by decide) hw)

theorem exists_fragment {cut : Cut} (hw : w <:+: CompiledPattern.expressionOf cut) :
    ∃ p ∈ cut.parameters, w <:+: p.fragment := by
  have hsegments : ∀ segments : List Segment, w <:+: segments.flatMap
      CompiledPattern.segmentExpression ++ (verbatim cut.tail ++ ['$']) →
      ∃ s ∈ segments, w <:+: s.parameter.fragment := by
    intro segments hw
    induction segments with
    | nil =>
      rcases infix_of_append_cons (h.free _ (by decide)) hw with hw | hw
      · exact absurd hw (h.literal _)
      · exact absurd (List.infix_nil.mp hw) h.ne
    | cons s segments ih =>
      rw [List.flatMap_cons, List.append_assoc] at hw
      rcases h.of_segment hw with hw | hw
      · exact ⟨s, List.mem_cons_self, hw⟩
      · obtain ⟨t, ht, hw⟩ := ih hw
        exact ⟨t, List.mem_cons_of_mem _ ht, hw⟩
  rw [CompiledPattern.expressionOf, CompiledPattern.body, List.cons_append] at hw
  have hw := h.of_cons (by decide) hw
  rw [List.append_assoc] at hw
  obtain ⟨s, hs, hw⟩ := hsegments _ hw
  exact ⟨s.parameter, List.mem_map.mpr ⟨s, hs, rfl⟩, hw⟩

end Foreign

theorem Bounds.foreign_text {low : List Char} {high : Option (List Char)}
    (hdigits : ∀ c ∈ low ++ high.getD [], c.isDigit = true) : Foreign (text low high) := by
  have hbody : ∀ c ∈ '{' :: (low ++ high.elim [] (',' :: ·)),
      c = '{' ∨ c = ',' ∨ c.isDigit = true := by
    intro c hc
    rcases List.mem_cons.mp hc with rfl | hc
    · exact .inl rfl
    · rcases List.mem_append.mp hc with hc | hc
      · exact .inr (.inr (hdigits c (List.mem_append_left _ hc)))
      · cases high with
        | none => cases hc
        | some high =>
          rcases List.mem_cons.mp hc with rfl | hc
          · exact .inr (.inl rfl)
          · exact .inr (.inr (hdigits c (List.mem_append_right _ hc)))
  refine ⟨List.cons_ne_nil _ _, fun c hc hmem => ?_, ?_⟩
  · have hsign : ∀ c ∈ "^(?:)$".toList,
        ¬ (c = '{' ∨ c = ',' ∨ c.isDigit = true) ∧ c ≠ '}' := forall_mem_of_all (by decide)
    rcases List.mem_append.mp hmem with hmem | hmem
    · exact (hsign c hc).1 (hbody c hmem)
    · exact (hsign c hc).2 (List.mem_singleton.mp hmem)
  · rintro literal ⟨before, after, hliteral⟩
    -- the brace that closes the bounds would follow a backslash, but it follows one of their signs
    have hwritten : verbatim literal =
        (before ++ '{' :: (low ++ high.elim [] (',' :: ·))) ++ '}' :: after := by
      rw [← hliteral, text]
      simp
    have hlast := getLast?_of_verbatim hwritten
    rw [List.getLast?_append, List.getLast?_cons, Option.some_or] at hlast
    have hmem : '\\' ∈ '{' :: (low ++ high.elim [] (',' :: ·)) := by
      rw [← List.getLast?_cons] at hlast
      exact List.mem_of_getLast? hlast
    exact absurd (hbody _ hmem) (by decide)

/-- If the expression of a pattern comes to a count that does not fit, a fragment holds it. -/
theorem Cut.exists_of_overflows {cut : Cut} {overflow : Overflow}
    (h : Expression.Overflows (CompiledPattern.expressionOf cut) overflow) :
    ∃ p ∈ cut.parameters, Bounds.Within overflow p.fragment := by
  obtain ⟨low, high, hdigits, hoverflow, hinfix⟩ := h.within
  obtain ⟨p, hp, hinfix⟩ := (Bounds.foreign_text hdigits).exists_fragment hinfix
  exact ⟨p, hp, low, high, hdigits, hoverflow, hinfix⟩

end RequestRouter
