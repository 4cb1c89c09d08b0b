import Mathlib.Data.List.Induction
import RequestRouter.Proofs.Pattern.Written

/-!
# Paths that are built from a pattern

A template is a pattern of required placeholders and, behind them, optional ones, all of them with
the default fragment. A path is built from it by putting values in the place of the placeholders,
where the optional ones may be left out from some point on. If a slash stands between any two
required placeholders, the values can be told from the path (`PathTemplate.path_inj`): counting the
slashes tells how many optional values there are, the last slashes cut these off, and each of the
required values ends at the first slash of the literal text behind it.
-/

namespace RequestRouter

/-- A value that the default fragment stands for. -/
structure IsValue (value : List Char) : Prop where
  nonempty : value ≠ []
  slash : '/' ∉ value

instance (value : List Char) : Decidable (IsValue value) :=
  decidable_of_iff (value ≠ [] ∧ '/' ∉ value)
    ⟨fun ⟨hne, hslash⟩ => ⟨hne, hslash⟩, fun ⟨hne, hslash⟩ => ⟨hne, hslash⟩⟩

/-- Literal text, then placeholders with the literal text behind each, then optional placeholders
with a slash in front of each. -/
structure PathTemplate where
  lead : List Char
  required : List (List Char × List Char)
  optional : List (List Char)

namespace PathTemplate

/-- The names of the required placeholders. -/
def requiredNames (t : PathTemplate) : List (List Char) := t.required.map Prod.fst

/-- The literal texts behind the required placeholders. -/
def literals (t : PathTemplate) : List (List Char) := t.required.map Prod.snd

/-- The pattern that the template stands for. -/
def pattern (t : PathTemplate) : List Char :=
  t.lead ++ t.required.flatMap (fun (name, literal) => ['{'] ++ name ++ ['}'] ++ literal) ++
    t.optional.flatMap fun name => ['/', '{', '?'] ++ name ++ ['}']

/-- Values with the literal texts behind them. -/
def weave (values literals : List (List Char)) : List Char :=
  (values.zipWith (· ++ ·) literals).flatten

/-- Values with a slash in front of each. -/
def slashed (extra : List (List Char)) : List Char := extra.flatMap ('/' :: ·)

/-- The path with these values for the required placeholders and for the first optional ones. -/
def path (t : PathTemplate) (values extra : List (List Char)) : List Char :=
  t.lead ++ weave values t.literals ++ slashed extra

/-- The names are different and can be names, there is no brace in the literal texts, and a slash
stands between any two required placeholders. -/
structure WellFormed (t : PathTemplate) : Prop where
  distinct : (t.requiredNames ++ t.optional).Nodup
  names : ∀ name ∈ t.requiredNames ++ t.optional, IsName name
  braces : ∀ literal ∈ t.lead :: t.literals, ∀ c ∈ literal, c ≠ '{' ∧ c ≠ '}'
  separated : ∀ literal ∈ t.literals.dropLast, '/' ∈ literal

/-- Values for all required placeholders and for some of the first optional ones. -/
structure Fits (t : PathTemplate) (values extra : List (List Char)) : Prop where
  required : values.length = t.required.length
  optional : extra.length ≤ t.optional.length
  values : ∀ value ∈ values ++ extra, IsValue value

/-! ## The values of a path -/

theorem cut_first {c : Char} {a b a' b' : List Char} (ha : c ∉ a) (ha' : c ∉ a')
    (h : a ++ c :: b = a' ++ c :: b') : a = a' ∧ b = b' := by
  induction a generalizing a' with
  | nil =>
    cases a' with
    | nil => exact ⟨rfl, List.tail_eq_of_cons_eq h⟩
    | cons d a' =>
      obtain rfl : c = d := List.head_eq_of_cons_eq h
      exact absurd List.mem_cons_self ha'
  | cons d a ih =>
    cases a' with
    | nil =>
      obtain rfl : d = c := List.head_eq_of_cons_eq h
      exact absurd List.mem_cons_self ha
    | cons d' a' =>
      obtain ⟨rfl, htails⟩ := List.cons.inj h
      obtain ⟨rfl, hb⟩ := ih (fun hmem => ha (List.mem_cons_of_mem _ hmem))
        (fun hmem => ha' (List.mem_cons_of_mem _ hmem)) htails
      exact ⟨rfl, hb⟩

theorem cut_last {c : Char} {a b a' b' : List Char} (hb : c ∉ b) (hb' : c ∉ b')
    (h : a ++ c :: b = a' ++ c :: b') : a = a' ∧ b = b' := by
  have hreverse : b.reverse ++ c :: a.reverse = b'.reverse ++ c :: a'.reverse := by
    simpa using congrArg List.reverse h
  obtain ⟨hback, hfront⟩ := cut_first (by simpa using hb) (by simpa using hb') hreverse
  exact ⟨List.reverse_inj.mp hfront, List.reverse_inj.mp hback⟩

theorem weave_cons (value literal : List Char) (values literals : List (List Char)) :
    weave (value :: values) (literal :: literals) =
      value ++ (literal ++ weave values literals) := by
  simp [weave]

theorem slashed_cons (value : List Char) (extra : List (List Char)) :
    slashed (value :: extra) = '/' :: (value ++ slashed extra) := by
  simp [slashed]

theorem slashed_concat (extra : List (List Char)) (value : List Char) :
    slashed (extra ++ [value]) = slashed extra ++ '/' :: value := by
  simp [slashed]

/-- Values without slashes add none to those of the literal texts. -/
theorem count_weave {values literals : List (List Char)} (hlength : values.length = literals.length)
    (hvalues : ∀ value ∈ values, '/' ∉ value) :
    (weave values literals).count '/' = literals.flatten.count '/' := by
  induction literals generalizing values with
  | nil =>
    obtain rfl := List.eq_nil_of_length_eq_zero hlength
    rfl
  | cons literal literals ih =>
    cases values with
    | nil => cases hlength
    | cons value values =>
      have hnone : value.count '/' = 0 := List.count_eq_zero.mpr (hvalues value List.mem_cons_self)
      have hrest := ih (Nat.succ.inj hlength) fun v hv => hvalues v (List.mem_cons_of_mem _ hv)
      rw [weave_cons, List.count_append, List.count_append, hnone, hrest, List.flatten_cons,
        List.count_append, Nat.zero_add]

theorem count_slashed {extra : List (List Char)} (hextra : ∀ value ∈ extra, '/' ∉ value) :
    (slashed extra).count '/' = extra.length := by
  induction extra with
  | nil => rfl
  | cons value extra ih =>
    have hnone : value.count '/' = 0 := List.count_eq_zero.mpr (hextra value List.mem_cons_self)
    have hrest := ih fun v hv => hextra v (List.mem_cons_of_mem _ hv)
    rw [slashed_cons, List.count_cons_self, List.count_append, hnone, hrest, List.length_cons,
      Nat.zero_add]

/-- As many values behind slashes as there are can be cut off from the end. -/
theorem append_slashed_inj {front front' : List Char} {extra extra' : List (List Char)}
    (hlength : extra.length = extra'.length) (hextra : ∀ value ∈ extra, '/' ∉ value)
    (hextra' : ∀ value ∈ extra', '/' ∉ value)
    (h : front ++ slashed extra = front' ++ slashed extra') : front = front' ∧ extra = extra' := by
  induction extra using List.reverseRecOn generalizing extra' with
  | nil =>
    obtain rfl := List.eq_nil_of_length_eq_zero hlength.symm
    exact ⟨List.append_cancel_right h, rfl⟩
  | append_singleton extra value ih =>
    cases extra' using List.reverseRecOn with
    | nil => simp at hlength
    | append_singleton extra' value' =>
      rw [slashed_concat, slashed_concat, ← List.append_assoc, ← List.append_assoc] at h
      obtain ⟨hfront, rfl⟩ := cut_last (hextra value (by simp)) (hextra' value' (by simp)) h
      obtain ⟨rfl, rfl⟩ := ih (by simpa using hlength)
        (fun v hv => hextra v (List.mem_append_left _ hv))
        (fun v hv => hextra' v (List.mem_append_left _ hv)) hfront
      exact ⟨rfl, rfl⟩

/-- Where each literal text but the last has a slash, the values in front of them can be told. -/
theorem weave_inj {literals values values' : List (List Char)}
    (hliterals : ∀ literal ∈ literals.dropLast, '/' ∈ literal)
    (hlength : values.length = literals.length) (hlength' : values'.length = literals.length)
    (hvalues : ∀ value ∈ values, '/' ∉ value) (hvalues' : ∀ value ∈ values', '/' ∉ value)
    (h : weave values literals = weave values' literals) : values = values' := by
  induction literals generalizing values values' with
  | nil =>
    rw [List.eq_nil_of_length_eq_zero hlength, List.eq_nil_of_length_eq_zero hlength']
  | cons literal literals ih =>
    obtain ⟨value, values, rfl⟩ := List.exists_cons_of_length_eq_add_one hlength
    obtain ⟨value', values', rfl⟩ := List.exists_cons_of_length_eq_add_one hlength'
    have hrest : values.length = literals.length := Nat.succ.inj hlength
    have hrest' : values'.length = literals.length := Nat.succ.inj hlength'
    rw [weave_cons, weave_cons] at h
    by_cases hlast : literals = []
    · subst hlast
      obtain rfl := List.eq_nil_of_length_eq_zero hrest
      obtain rfl := List.eq_nil_of_length_eq_zero hrest'
      rw [List.append_cancel_right h]
    · rw [List.dropLast_cons_of_ne_nil hlast] at hliterals
      obtain ⟨a, b, rfl, ha⟩ := List.eq_append_cons_of_mem (hliterals literal List.mem_cons_self)
      -- both values end in front of the part of the literal text up to its first slash
      have hfirst : ∀ {value}, '/' ∉ value → '/' ∉ value ++ a := by
        intro value hvalue hmem
        exact (List.mem_append.mp hmem).elim hvalue ha
      simp only [List.append_assoc, List.cons_append] at h
      rw [← List.append_assoc, ← List.append_assoc] at h
      obtain ⟨hvalue, hback⟩ := cut_first
        (hfirst (hvalues value List.mem_cons_self))
        (hfirst (hvalues' value' List.mem_cons_self)) h
      obtain rfl := List.append_cancel_right hvalue
      rw [ih (fun l hl => hliterals l (List.mem_cons_of_mem _ hl)) hrest hrest'
        (fun v hv => hvalues v (List.mem_cons_of_mem _ hv))
        (fun v hv => hvalues' v (List.mem_cons_of_mem _ hv)) (List.append_cancel_left hback)]

variable {t : PathTemplate} {values values' extra extra' : List (List Char)}

theorem Fits.length_eq (h : t.Fits values extra) : values.length = t.literals.length := by
  rw [h.required, literals, List.length_map]

theorem Fits.slash_values (h : t.Fits values extra) : ∀ value ∈ values, '/' ∉ value :=
  fun value hvalue => (h.values value (List.mem_append_left _ hvalue)).slash

theorem Fits.slash_extra (h : t.Fits values extra) : ∀ value ∈ extra, '/' ∉ value :=
  fun value hvalue => (h.values value (List.mem_append_right _ hvalue)).slash

/-- A path is built from one choice of values only. -/
theorem path_inj (ht : t.WellFormed) (h : t.Fits values extra) (h' : t.Fits values' extra')
    (hpath : t.path values extra = t.path values' extra') : values = values' ∧ extra = extra' := by
  have hlength : extra.length = extra'.length := by
    have hcount := congrArg (List.count '/') hpath
    simp only [path, List.count_append, count_weave h.length_eq h.slash_values,
      count_weave h'.length_eq h'.slash_values, count_slashed h.slash_extra,
      count_slashed h'.slash_extra] at hcount
    exact Nat.add_left_cancel hcount
  obtain ⟨hfront, rfl⟩ := append_slashed_inj hlength h.slash_extra h'.slash_extra hpath
  have hweave := List.append_cancel_left hfront
  exact ⟨weave_inj ht.separated h.length_eq h'.length_eq h.slash_values h'.slash_values hweave, rfl⟩

/-! ## The pattern, cut at its placeholders -/

/-- The optional placeholders behind a literal text. -/
def optionalCut : (lead : List Char) → List (List Char) → Cut
  | lead, [] => ⟨[], lead⟩
  | lead, name :: rest =>
    let cut := optionalCut [] rest
    { cut with segments := ⟨lead ++ ['/'], ⟨name, defaultFragment, true⟩⟩ :: cut.segments }

/-- The required placeholders behind a literal text, and the optional ones behind them. -/
def requiredCut (optional : List (List Char)) :
    (lead : List Char) → List (List Char × List Char) → Cut
  | lead, [] => optionalCut lead optional
  | lead, (name, literal) :: rest =>
    let cut := requiredCut optional literal rest
    { cut with segments := ⟨lead, ⟨name, defaultFragment, false⟩⟩ :: cut.segments }

/-- The template as a cut. -/
def cut (t : PathTemplate) : Cut := requiredCut t.optional t.lead t.required

theorem written_optionalCut (lead : List Char) (optional : List (List Char)) :
    (optionalCut lead optional).written =
      lead ++ optional.flatMap fun name => ['/', '{', '?'] ++ name ++ ['}'] := by
  induction optional generalizing lead with
  | nil => simp [optionalCut, Cut.written]
  | cons name rest ih =>
    rw [optionalCut, Cut.written_cons, ih]
    simp [Parameter.written, Parameter.mark]

theorem written_requiredCut (optional : List (List Char)) (lead : List Char)
    (required : List (List Char × List Char)) :
    (requiredCut optional lead required).written =
      lead ++ required.flatMap (fun (name, literal) => ['{'] ++ name ++ ['}'] ++ literal) ++
        optional.flatMap fun name => ['/', '{', '?'] ++ name ++ ['}'] := by
  induction required generalizing lead with
  | nil => simp [requiredCut, written_optionalCut]
  | cons entry rest ih =>
    rw [requiredCut, Cut.written_cons, ih]
    simp [Parameter.written, Parameter.mark]

theorem written_cut (t : PathTemplate) : t.cut.written = t.pattern :=
  written_requiredCut t.optional t.lead t.required

/-- The parameters of the placeholders. -/
def parameters (t : PathTemplate) : List Parameter :=
  t.requiredNames.map (⟨·, defaultFragment, false⟩) ++ t.optional.map (⟨·, defaultFragment, true⟩)

theorem parameters_cut (t : PathTemplate) : t.cut.parameters = t.parameters := by
  have hoptional : ∀ lead optional, (optionalCut lead optional).parameters =
      optional.map (⟨·, defaultFragment, true⟩) := by
    intro lead optional
    induction optional generalizing lead with
    | nil => rfl
    | cons name rest ih => exact congrArg (_ :: ·) (ih [])
  obtain ⟨lead, required, optional⟩ := t
  show (requiredCut optional lead required).parameters = _
  induction required generalizing lead with
  | nil => exact hoptional lead optional
  | cons entry rest ih => exact congrArg (_ :: ·) (ih entry.2)

theorem name_parameters (t : PathTemplate) :
    t.parameters.map Parameter.name = t.requiredNames ++ t.optional := by
  simp [parameters, Function.comp_def]

theorem fragment_of_mem_parameters {p : Parameter} (h : p ∈ t.parameters) :
    p.fragment = defaultFragment := by
  rcases List.mem_append.mp h with h | h
  · obtain ⟨name, -, rfl⟩ := List.mem_map.mp h
    rfl
  · obtain ⟨name, -, rfl⟩ := List.mem_map.mp h
    rfl

/-- Only slashes are added to the literal texts. -/
theorem mem_literals_cut {c : Char} (h : c ∈ t.cut.literals) :
    c = '/' ∨ ∃ literal ∈ t.lead :: t.literals, c ∈ literal := by
  have hoptional : ∀ lead optional, c ∈ (optionalCut lead optional).literals →
      c = '/' ∨ c ∈ lead := by
    intro lead optional h
    induction optional generalizing lead with
    | nil => exact .inr h
    | cons name rest ih =>
      rw [optionalCut, Cut.literals_cons, List.mem_append] at h
      rcases h with h | h
      · rcases List.mem_append.mp h with h | h
        · exact .inr h
        · exact .inl (List.mem_singleton.mp h)
      · exact .inl ((ih [] h).resolve_right List.not_mem_nil)
  obtain ⟨lead, required, optional⟩ := t
  replace h : c ∈ (requiredCut optional lead required).literals := h
  induction required generalizing lead with
  | nil => exact (hoptional lead optional h).imp_right fun h => ⟨lead, List.mem_cons_self, h⟩
  | cons entry rest ih =>
    rw [requiredCut, Cut.literals_cons, List.mem_append] at h
    rcases h with h | h
    · exact .inr ⟨lead, List.mem_cons_self, h⟩
    · refine (ih entry.2 h).imp_right ?_
      rintro ⟨literal, hliteral, hc⟩
      exact ⟨literal, List.mem_cons_of_mem _ hliteral, hc⟩

theorem writable_cut (h : t.WellFormed) : t.cut.Writable defaultFragment where
  literals := by
    intro c hc
    rcases mem_literals_cut hc with rfl | ⟨literal, hliteral, hc⟩
    · decide
    · exact h.braces literal hliteral c hc
  names := by
    intro s hs
    apply h.names
    rw [← name_parameters, ← parameters_cut, Cut.parameters, List.map_map]
    exact List.mem_map.mpr ⟨s, hs, rfl⟩
  fragments := by
    intro s hs
    apply fragment_of_mem_parameters (t := t)
    rw [← parameters_cut]
    exact List.mem_map.mpr ⟨s, hs, rfl⟩

end PathTemplate

end RequestRouter
