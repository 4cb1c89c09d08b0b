import RequestRouter.Proofs.Pattern.Segments
import RequestRouter.Proofs.Reading.Runs

/-!
# What a compiled pattern has passed

A pattern that compiles has an expression that can be read (`CompiledPattern.exists_of_compile`). In
strict mode its parameters have different names and usable fragments besides
(`CompiledPattern.Checked`). A usable fragment begins with a parenthesis that records a group
(`Usable.exists_opening`), and the parenthesis that closes it is the last character of the fragment,
so that no usable fragment is the beginning of another one (`Usable.eq_of_begins`).
-/

namespace RequestRouter

/-- A fragment without a problem. -/
def Usable (fragment : List Char) : Prop := fragmentProblem fragment = .ok none

theorem usable_defaultFragment : Usable defaultFragment := rfl

/-- A parenthesis that a question mark follows only in front of a name records what it encloses. -/
theorem Opening.records_of_read {text : List Char} {header : Opening} {left : Units}
    (hstart : "(?".toList.isPrefixOf ('(' :: text) = true →
      "(?P<".toList.isPrefixOf ('(' :: text) = true)
    (h : read (Units.ofChars text).1 = .ok (header, left)) :
    header = .capture ∨ ∃ name, header = .named name := by
  unfold read at h
  split at h
  · next inner haccept =>
    -- a question mark has to be the one of a named group
    have hquestion := Units.accept_eq_some haccept
    have htext := Units.chars_ofChars text
    rw [hquestion] at htext
    obtain ⟨others, rfl⟩ : ∃ others, text = '?' :: others := ⟨_, htext.symm⟩
    obtain ⟨name, hname⟩ := List.isPrefixOf_iff_prefix.mp (hstart rfl)
    obtain rfl : others = 'P' :: '<' :: name := by simpa using hname.symm
    obtain rfl : inner = .char 'P' :: .char '<' :: (Units.ofChars name).1 :=
      (List.cons.inj hquestion).2.symm
    obtain ⟨⟨name, left⟩, -, hheader⟩ := exists_of_bind_ok h
    cases hheader
    exact .inr ⟨name, rfl⟩
  · cases h
    exact .inl rfl

namespace Usable

variable {fragment : List Char} (h : Usable fragment)

include h

theorem passed : isSingleGroup fragment = true ∧
    ("(?".toList.isPrefixOf fragment = true → "(?P<".toList.isPrefixOf fragment = true) ∧
    ∃ e, Expression.read fragment = .ok e := by
  unfold Usable fragmentProblem at h
  split at h
  · cases h
  · next hsingle =>
    split at h
    · cases h
    · next hstart =>
      refine ⟨by simpa using hsingle, fun hquestion => ?_, ?_⟩
      · rw [hquestion, Bool.true_and] at hstart
        simpa using hstart
      · split at h
        · next e he => exact ⟨e, he⟩
        · split at h <;> cases h

theorem lone : (Units.ofChars fragment).2 = false := by
  obtain ⟨-, -, e, he⟩ := h.passed
  exact (Expression.read_eq_ok_iff.mp he).1

theorem draft : ∃ d, Expression.draft (Units.ofChars fragment).1 = .ok d := by
  obtain ⟨-, -, e, he⟩ := h.passed
  obtain ⟨-, d, hdraft, -⟩ := Expression.read_eq_ok_iff.mp he
  exact ⟨d, hdraft⟩

theorem exists_opening : ∃ header rest,
    Expression.constructs fragment = .opening header :: rest ∧
      (header = .capture ∨ ∃ name, header = .named name) := by
  obtain ⟨hsingle, hstart, -⟩ := h.passed
  obtain ⟨d, hdraft⟩ := h.draft
  have hreads := Expression.reads_of_draft hdraft
  obtain ⟨hhead, -⟩ := Bool.and_eq_true_iff.mp hsingle
  obtain ⟨text, rfl⟩ := List.head?_eq_some_iff.mp (eq_of_beq hhead)
  have hunits : (Units.ofChars ('(' :: text)).1 = .char '(' :: (Units.ofChars text).1 := rfl
  rw [hunits] at hreads
  generalize Expression.constructs ('(' :: text) = cs at hreads
  cases hreads with
  | @next _ _ _ construct after _ rest _ _ hread _ _ =>
    obtain ⟨⟨header, left⟩, hheader, heq⟩ := exists_of_map_ok hread
    cases heq
    exact ⟨header, rest, rfl, Opening.records_of_read hstart hheader⟩

end Usable

/-! ## One pair of parentheses -/

section Spans

variable {mode : ScanMode} {depth : Nat} {c : Char}

theorem spans_outside_cons (hc : c ≠ '\\') (rest : List Char) :
    spans .outside depth (c :: rest) =
      if c == '[' then spans .opened depth rest
      else if c == '(' then spans .outside (depth + 1) rest
      else if c == ')' then
        if depth == 1 then rest.isEmpty else spans .outside (depth - 1) rest
      else spans .outside depth rest := by
  rw [spans]
  · rintro rfl
    exact absurd rfl hc
  · rintro _ _ rfl
    exact absurd rfl hc

theorem spans_inside_cons (hc : c ≠ '\\') (hmode : mode ≠ .outside) (rest : List Char) :
    spans mode depth (c :: rest) = spans (mode.afterMember c) depth rest := by
  rw [spans]
  · rintro rfl
    exact absurd rfl hc
  · rintro _ _ rfl
    exact absurd rfl hc
  · exact hmode

/-- Behind the parenthesis that brings the depth to zero nothing more may follow. -/
theorem eq_nil_of_spans {a b : List Char} (h : spans mode depth a = true)
    (hmore : spans mode depth (a ++ b) = true) : b = [] := by
  fun_induction spans mode depth a with
  | case1 | case2 => cases h
  | case3 mode depth c rest ih => exact ih h hmore
  | case4 depth c rest hlone hpair hclass ih =>
    rw [List.cons_append, spans_outside_cons (ne_backslash hlone hpair), if_pos hclass] at hmore
    exact ih h hmore
  | case5 depth c rest hlone hpair hclass hopen ih =>
    rw [List.cons_append, spans_outside_cons (ne_backslash hlone hpair), if_neg hclass,
      if_pos hopen] at hmore
    exact ih h hmore
  | case6 depth c rest hlone hpair hclass hopen hclose hdepth =>
    rw [List.cons_append, spans_outside_cons (ne_backslash hlone hpair), if_neg hclass,
      if_neg hopen, if_pos hclose, if_pos hdepth, List.isEmpty_iff] at hmore
    exact (List.append_eq_nil_iff.mp hmore).2
  | case7 depth c rest hlone hpair hclass hopen hclose hdepth ih =>
    rw [List.cons_append, spans_outside_cons (ne_backslash hlone hpair), if_neg hclass,
      if_neg hopen, if_pos hclose, if_neg hdepth] at hmore
    exact ih h hmore
  | case8 depth c rest hlone hpair hclass hopen hclose ih =>
    rw [List.cons_append, spans_outside_cons (ne_backslash hlone hpair), if_neg hclass,
      if_neg hopen, if_neg hclose] at hmore
    exact ih h hmore
  | case9 mode depth c rest hlone hpair hmode ih =>
    rw [List.cons_append, spans_inside_cons (ne_backslash hlone hpair) hmode] at hmore
    exact ih h hmore

/-- The parenthesis that closes a group is the last character. -/
theorem getLast?_of_spans {text : List Char}
    (h : spans mode depth text = true) : text.getLast? = some ')' := by
  have hcons : ∀ {c : Char} {rest : List Char}, rest.getLast? = some ')' →
      (c :: rest).getLast? = some ')' := by
    intro c rest hrest
    rw [List.getLast?_cons, hrest]
    rfl
  fun_induction spans mode depth text with
  | case1 | case2 => cases h
  | case3 mode depth c rest ih => exact hcons (hcons (ih h))
  | case4 depth c rest _ _ _ ih => exact hcons (ih h)
  | case5 depth c rest _ _ _ _ ih => exact hcons (ih h)
  | case6 depth c rest _ _ _ _ hclose =>
    obtain rfl := List.isEmpty_iff.mp h
    obtain rfl := eq_of_beq hclose
    rfl
  | case7 depth c rest _ _ _ _ _ _ ih => exact hcons (ih h)
  | case8 depth c rest _ _ _ _ _ ih => exact hcons (ih h)
  | case9 mode depth c rest _ _ _ ih => exact hcons (ih h)

/-- No usable fragment is the beginning of another one. -/
theorem Usable.eq_of_begins {a b : List Char} (ha : Usable a) (hb : Usable b) (h : a <+: b) :
    a = b := by
  obtain ⟨rest, rfl⟩ := h
  obtain ⟨-, hspans⟩ := Bool.and_eq_true_iff.mp ha.passed.1
  obtain ⟨-, hmore⟩ := Bool.and_eq_true_iff.mp hb.passed.1
  rw [eq_nil_of_spans hspans hmore, List.append_nil]

/-- One pair of parentheses that spans a fragment opens and closes it. -/
theorem exists_of_isSingleGroup {fragment : List Char} (h : isSingleGroup fragment = true) :
    ∃ inner, fragment = '(' :: (inner ++ [')']) := by
  obtain ⟨hhead, hspans⟩ := Bool.and_eq_true_iff.mp h
  obtain ⟨rest, rfl⟩ := List.head?_eq_some_iff.mp (eq_of_beq hhead)
  obtain ⟨front, hfront⟩ := List.getLast?_eq_some_iff.mp (getLast?_of_spans hspans)
  cases front with
  | nil => cases hfront
  | cons c inner =>
    obtain ⟨rfl, rfl⟩ := List.cons.inj hfront
    exact ⟨inner, rfl⟩

/-- A usable fragment has something in its parentheses, unless it is empty. -/
theorem Usable.eq_of_ne {fragment : List Char} (h : Usable fragment) (hne : fragment ≠ "()".toList) :
    ∃ c inner, fragment = '(' :: c :: (inner ++ [')']) := by
  obtain ⟨inner, rfl⟩ := exists_of_isSingleGroup h.passed.1
  cases inner with
  | nil => exact absurd rfl hne
  | cons c inner => exact ⟨c, inner, rfl⟩

end Spans

namespace CompiledPattern

/-- What a pattern has passed in strict mode. -/
structure Checked (cut : Cut) : Prop where
  names : (cut.parameters.map Parameter.name).Nodup
  usable : ∀ s ∈ cut.segments, Usable s.parameter.fragment

theorem checked_of_checkParameters {pattern : List Char} {seen : List (List Char)}
    {parameters : List Parameter} (h : checkParameters pattern seen parameters = .ok ()) :
    (parameters.map Parameter.name).Nodup ∧ (∀ p ∈ parameters, p.name ∉ seen) ∧
      ∀ p ∈ parameters, Usable p.fragment := by
  induction parameters generalizing seen with
  | nil => exact ⟨List.nodup_nil, fun _ h => (nomatch h), fun _ h => (nomatch h)⟩
  | cons p rest ih =>
    unfold checkParameters at h
    split at h
    · cases h
    · next hseen =>
      split at h
      · cases h
      · cases h
      · next husable =>
        obtain ⟨hnodup, hfresh, hrest⟩ := ih h
        have hseen : p.name ∉ seen := by simpa using hseen
        refine ⟨?_, ?_, ?_⟩
        · rw [List.map_cons, List.nodup_cons]
          refine ⟨fun hmem => ?_, hnodup⟩
          obtain ⟨q, hq, hname⟩ := List.mem_map.mp hmem
          exact hfresh q hq (hname ▸ List.mem_cons_self)
        · intro q hq
          rcases List.mem_cons.mp hq with rfl | hq
          · exact hseen
          · exact fun hmem => hfresh q hq (List.mem_cons_of_mem _ hmem)
        · intro q hq
          rcases List.mem_cons.mp hq with rfl | hq
          · exact husable
          · exact hrest q hq

/-- A pattern that compiles has an expression that can be read, and has passed the checks if they
are made. -/
theorem exists_of_compile {pattern fallback : List Char} {strict : Bool} {compiled :
    CompiledPattern}
    (h : compile pattern fallback strict = .ok compiled) :
    compiled.expression = expressionOf (Cut.ofPattern pattern fallback) ∧
      compiled.parameters = (Cut.ofPattern pattern fallback).parameters ∧
      Expression.read (expressionOf (Cut.ofPattern pattern fallback)) = .ok compiled.regex ∧
      (strict = true → Checked (Cut.ofPattern pattern fallback)) := by
  generalize hcut : Cut.ofPattern pattern fallback = cut
  unfold compile at h
  rw [hcut] at h
  cases strict with
  | false =>
    rw [if_neg Bool.false_ne_true] at h
    dsimp only at h
    split at h
    · next regex hregex =>
      cases h
      exact ⟨rfl, rfl, hregex, by rintro ⟨⟩⟩
    · split at h <;> cases h
  | true =>
    obtain ⟨⟨⟩, hvalid, h⟩ := exists_of_bind_ok h
    have hchecked : Checked cut := by
      unfold validate at hvalid
      split at hvalid
      · cases hvalid
      · split at hvalid
        · cases hvalid
        · obtain ⟨hnodup, -, husable⟩ := checked_of_checkParameters hvalid
          exact ⟨hnodup, fun s hs => husable _ (List.mem_map.mpr ⟨s, hs, rfl⟩)⟩
    dsimp only at h
    split at h
    · next regex hregex =>
      cases h
      exact ⟨rfl, rfl, hregex, fun _ => hchecked⟩
    · split at h <;> cases h

/-- A compiled pattern keeps the pattern it was compiled from. -/
theorem pattern_of_compile {pattern fallback : List Char} {strict : Bool} {compiled :
    CompiledPattern} (h : compile pattern fallback strict = .ok compiled) :
    compiled.pattern = pattern := by
  unfold compile at h
  cases strict with
  | false =>
    simp only [Bool.false_eq_true, if_false] at h
    split at h
    · cases h
      rfl
    · split at h <;> cases h
  | true =>
    obtain ⟨⟨⟩, -, h⟩ := exists_of_bind_ok h
    simp only at h
    split at h
    · cases h
      rfl
    · split at h <;> cases h

end CompiledPattern

end RequestRouter
