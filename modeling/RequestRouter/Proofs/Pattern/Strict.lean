import RequestRouter.Proofs.Pattern.Written

/-!
# What strict mode rejects

Let a pattern be written from literal text without braces and from placeholders with different names,
whose fragments, if they give any, can stand in for a placeholder and end where they are written
(`Pieces.WellFormed`). Nothing in it is malformed, and it is cut as it is written. Strict mode rejects
it all the same if a placeholder without a name begins inside of a fragment, since that is looked for
in the whole text; if there is none it makes no difference (`CompiledPattern.compile_wellFormed`).
-/

namespace RequestRouter

namespace Placeholder.Pieces

/-- Pieces that are written as they should be. The fragments that are given can stand in for a
placeholder, hold something, and do not end before they are written to. -/
structure WellFormed (pieces : Pieces) : Prop where
  literals : ∀ c ∈ pieces.literals, c ≠ '{' ∧ c ≠ '}'
  names : ∀ source ∈ pieces.sources, IsName source.name
  distinct : (pieces.sources.map Source.name).Nodup
  usable : ∀ source ∈ pieces.sources, ∀ fragment ∈ source.fragment, Usable fragment
  holds : ∀ source ∈ pieces.sources, ∀ fragment ∈ source.fragment, fragment ≠ "()".toList
  sameLine : ∀ source ∈ pieces.sources, ∀ fragment ∈ source.fragment, '\n' ∉ fragment
  unclosed : ∀ source ∈ pieces.sources, ∀ fragment ∈ source.fragment,
    ¬ [')', '}'] <:+: fragment

variable {pieces : Pieces}

namespace WellFormed

/-- A fragment is read up to where it is written to. -/
theorem readFragment (h : pieces.WellFormed) {source : Source} (hsource : source ∈ pieces.sources)
    {fragment : List Char} (hfragment : fragment ∈ source.fragment) (behind : List Char) :
    Placeholder.readFragment (fragment ++ '}' :: behind) = some (fragment, behind) := by
  have hline := h.sameLine source hsource fragment hfragment
  have hclosed := h.unclosed source hsource fragment hfragment
  obtain ⟨c, inner, rfl⟩ := (h.usable source hsource fragment hfragment).eq_of_ne
    (h.holds source hsource fragment hfragment)
  -- the end of the fragment is part of it, so it is not in what comes before it
  apply readFragment_append
  · intro hmem
    apply hline
    rw [List.mem_cons, ← List.cons_append, List.mem_append]
    exact .inr (.inl hmem)
  · intro hinfix
    apply hclosed
    have hinner : inner <:+: '(' :: c :: (inner ++ [')']) := ⟨['(', c], [')'], rfl⟩
    exact hinfix.trans hinner

theorem getLast? (h : pieces.WellFormed) {source : Source} (hsource : source ∈ pieces.sources)
    {fragment : List Char} (hfragment : fragment ∈ source.fragment) :
    fragment.getLast? = some ')' :=
  getLast?_of_spans (Bool.and_eq_true_iff.mp (h.usable source hsource fragment hfragment).passed.1).2

theorem rest {literal tail : List Char} {source : Source} {rest : List (List Char × Source)}
    (h : WellFormed ⟨(literal, source) :: rest, tail⟩) : WellFormed ⟨rest, tail⟩ where
  literals := by
    intro c hc
    apply h.literals c
    rw [Pieces.literals, List.flatMap_cons, List.append_assoc]
    exact List.mem_append_right _ hc
  names := fun source hsource => h.names source (List.mem_cons_of_mem _ hsource)
  distinct := (List.nodup_cons.mp h.distinct).2
  usable := fun source hsource => h.usable source (List.mem_cons_of_mem _ hsource)
  holds := fun source hsource => h.holds source (List.mem_cons_of_mem _ hsource)
  sameLine := fun source hsource => h.sameLine source (List.mem_cons_of_mem _ hsource)
  unclosed := fun source hsource => h.unclosed source (List.mem_cons_of_mem _ hsource)

theorem not_mem_literal {literal tail : List Char} {source : Source}
    {rest : List (List Char × Source)} (h : WellFormed ⟨(literal, source) :: rest, tail⟩) :
    '{' ∉ literal := by
  intro hmem
  apply (h.literals '{' _).1 rfl
  rw [Pieces.literals, List.flatMap_cons]
  exact List.mem_append_left _ (List.mem_append_left _ hmem)

theorem not_mem_tail {tail : List Char} (h : WellFormed ⟨[], tail⟩) : '{' ∉ tail := fun hmem =>
  (h.literals '{' hmem).1 rfl

end WellFormed

/-- What is written from pieces is cut into the same pieces. -/
theorem scan_text (h : pieces.WellFormed) : scan pieces.text = pieces := by
  obtain ⟨placeholders, tail⟩ := pieces
  induction placeholders with
  | nil => exact scan_of_not_mem h.not_mem_tail
  | cons entry rest ih =>
    obtain ⟨literal, source⟩ := entry
    have hread : read (source.written ++ text ⟨rest, tail⟩) = some (source, text ⟨rest, tail⟩) :=
      read_written (h.names source List.mem_cons_self) fun fragment hfragment =>
        h.readFragment List.mem_cons_self hfragment _
    rw [text_cons, scan_append h.not_mem_literal hread, ih h.rest]

/-- A placeholder without a name can only begin inside of a fragment. -/
theorem hasNameless_text (h : pieces.WellFormed) : hasNameless pieces.text =
    pieces.sources.any fun source => source.fragment.any hidesNameless := by
  obtain ⟨placeholders, tail⟩ := pieces
  induction placeholders with
  | nil => exact hasNameless_of_not_mem h.not_mem_tail
  | cons entry rest ih =>
    obtain ⟨literal, source⟩ := entry
    rw [text_cons, hasNameless_append h.not_mem_literal,
      hasNameless_written (h.names source List.mem_cons_self) fun fragment hfragment =>
        h.getLast? List.mem_cons_self hfragment,
      ih h.rest]
    rfl

/-- The pieces of a pattern with one placeholder, which gives a fragment. -/
def single (fragment : List Char) : Pieces := ⟨[(['/'], ⟨false, ['k'], some fragment⟩)], []⟩

theorem wellFormed_single {fragment : List Char} (husable : Usable fragment)
    (hne : fragment ≠ "()".toList) (hline : '\n' ∉ fragment)
    (hclosed : ¬ [')', '}'] <:+: fragment) : (single fragment).WellFormed := by
  have hall {P : List Char → Prop} (h : P fragment) :
      ∀ source ∈ (single fragment).sources, ∀ given ∈ source.fragment, P given := by
    intro source hsource given hgiven
    obtain rfl := List.mem_singleton.mp hsource
    obtain rfl := Option.some.inj hgiven
    exact h
  refine
    { literals := fun c hc => ?_
      names := fun source hsource => ?_
      distinct := List.pairwise_singleton _ _
      usable := hall husable
      holds := hall hne
      sameLine := hall hline
      unclosed := hall hclosed }
  · obtain rfl : c = '/' := List.mem_singleton.mp hc
    decide
  · obtain rfl := List.mem_singleton.mp hsource
    show IsName ['k']
    decide

end Placeholder.Pieces

namespace CompiledPattern

open Placeholder

theorem compile_strict (pattern fallback : List Char) : compile pattern fallback true =
    (validate pattern (Cut.ofPattern pattern fallback) >>= fun _ =>
      compile pattern fallback false) := rfl

variable {pieces : Pieces}

/-- Only a placeholder without a name that begins in a fragment is rejected. -/
theorem validate_wellFormed (h : pieces.WellFormed) :
    validate pieces.text (pieces.cut defaultFragment) =
      if pieces.sources.any fun source => source.fragment.any hidesNameless then
        .error (.invalid pieces.text .emptyName)
      else .ok () := by
  have hbraces : (pieces.cut defaultFragment).literals.any (fun c => c == '{' || c == '}') =
      false := by
    apply List.any_eq_false.mpr
    intro c hc
    rw [Pieces.literals_cut] at hc
    simpa using h.literals c hc
  have hchecked : checkParameters pieces.text [] (pieces.cut defaultFragment).parameters =
      .ok () := by
    rw [Pieces.parameters_cut]
    apply checkParameters_eq_ok
    · rw [List.map_map]
      exact h.distinct
    · exact fun _ _ => List.not_mem_nil
    · intro p hp
      obtain ⟨source, hsource, rfl⟩ := List.mem_map.mp hp
      unfold Source.parameter
      cases hfragment : source.fragment with
      | none => exact usable_defaultFragment
      | some fragment => exact h.usable source hsource fragment hfragment
  rw [validate, occursIn_nameless, Pieces.hasNameless_text h, hbraces, hchecked]
  rfl

/-- A pattern that is written as it should be and compiles without the checks of strict mode has the
parameters that are written, and compiles to the same in strict mode, unless a placeholder without a
name begins in one of its fragments. -/
theorem compile_wellFormed (h : pieces.WellFormed) {compiled : CompiledPattern}
    (hcompiled : compile pieces.text defaultFragment false = .ok compiled) :
    compiled.parameters = (pieces.sources.map fun source => source.parameter defaultFragment) ∧
    compile pieces.text defaultFragment true =
      if pieces.sources.any fun source => source.fragment.any hidesNameless then
        .error (.invalid pieces.text .emptyName)
      else .ok compiled := by
  have hcut : Cut.ofPattern pieces.text defaultFragment = pieces.cut defaultFragment := by
    rw [ofPattern_eq, Pieces.scan_text h]
  constructor
  · rw [(exists_of_compile hcompiled).2.1, hcut, Pieces.parameters_cut]
  · rw [compile_strict, hcut, validate_wellFormed h, hcompiled]
    split <;> rfl

/-- Braces in a fragment do no harm by themselves, but an empty pair does. -/
theorem compile_wellFormed_braces :
    (∃ compiled, compile "/\x7bk:(a\x7b2\x7d)\x7d".toList defaultFragment false = .ok compiled ∧
      compile "/\x7bk:(a\x7b2\x7d)\x7d".toList defaultFragment true = .ok compiled) ∧
    ∃ compiled, compile "/\x7bk:(\x7b\x7d)\x7d".toList defaultFragment false = .ok compiled ∧
      compile "/\x7bk:(\x7b\x7d)\x7d".toList defaultFragment true =
        .error (.invalid "/\x7bk:(\x7b\x7d)\x7d".toList .emptyName) := by
  have hcounted : (Pieces.single "(a\x7b2\x7d)".toList).WellFormed :=
    Pieces.wellFormed_single rfl (by decide) (by decide) (by decide)
  have hempty : (Pieces.single "(\x7b\x7d)".toList).WellFormed :=
    Pieces.wellFormed_single rfl (by decide) (by decide) (by decide)
  constructor
  · refine ⟨_, rfl, ?_⟩
    exact (compile_wellFormed hcounted rfl).2
  · refine ⟨_, rfl, ?_⟩
    exact (compile_wellFormed hempty rfl).2

end CompiledPattern

end RequestRouter
