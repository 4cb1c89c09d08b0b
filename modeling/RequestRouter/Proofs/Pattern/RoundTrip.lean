import RequestRouter.Pattern.Extract
import RequestRouter.Proofs.Pattern.Filling
import RequestRouter.Proofs.Pattern.Template

/-!
# Extraction undoes path building

The values that a path was built from are taken from it again, each under the name of its own
placeholder (`PathTemplate.extract_path`). The texts of the groups of a match fill the pattern to
the path, so the path is also built from these texts, and a path is built from one choice of values
only. Which of the optional groups took part is left open by this, and it does not matter: values
are handed out in order, and the default fragment accepts each of them.
-/

namespace RequestRouter

/-! ## The default fragment -/

/-- Any character but the slash. -/
def CharTest.notSlash : CharTest := .literal .exact true '/'.toNat

theorem CharTest.notSlash_passesAt {text : Array Char} {p : Nat} :
    notSlash.passesAt text p = true ↔ ∃ c, text[p]? = some c ∧ c ≠ '/' := by
  unfold passesAt
  cases text[p]? with
  | none => simp
  | some c =>
    have hiff : notSlash.holds c.toNat = true ↔ c.toNat ≠ '/'.toNat := by
      simp only [notSlash, holds, Folding.same, Folding.cased, Bool.false_eq_true, if_false,
        bne_iff_ne, ne_eq, Bool.not_eq_true, beq_eq_false_iff_ne]
    rw [Option.any_some, hiff, ne_eq, Char.toNat_inj]
    constructor
    · exact fun h => ⟨c, rfl, h⟩
    · rintro ⟨_, ⟨⟩, h⟩
      exact h

theorem read_defaultFragment : Expression.read defaultFragment =
    .ok ⟨.group 1 (.loop .lazy 1 none (.one .notSlash)), 1, 1⟩ := rfl

theorem single_defaultFragment : Single defaultFragment where
  simple := Plain.simple ⟨⟨_, rfl⟩, by decide⟩
  parts := ⟨_, rfl⟩
  count := rfl

/-- The default fragment accepts the texts that have characters, none of them a slash. -/
theorem accepts_defaultFragment_iff {value : List Char} :
    fragmentAccepts defaultFragment value = .ok true ↔ IsValue value := by
  have hkeeps := (Part.termOf_of_chain single_defaultFragment.simple.chain).1.keepsSingly
  obtain ⟨e, he, -, hregular, -⟩ := single_defaultFragment.simple.regular hkeeps
  obtain rfl := Except.ok.inj (he.symm.trans read_defaultFragment)
  obtain ⟨answer, hanswer, htakes⟩ := hregular.accepts_eq value
  have htrue : fragmentAccepts defaultFragment value = .ok true ↔ answer = true := by
    rw [fragmentAccepts, he]
    show Expression.accepts _ value = .ok true ↔ _
    rw [hanswer, Except.ok.injEq]
  rw [htrue, htakes]
  constructor
  · rintro ⟨n, hn, -, hsteps, -⟩
    obtain ⟨hlength, hpasses⟩ := Regex.steps_one_iff.mp hsteps
    refine ⟨?_, fun hslash => ?_⟩
    · rintro rfl
      rw [List.length_nil] at hlength
      omega
    · obtain ⟨j, hj, hslash⟩ := List.getElem_of_mem hslash
      obtain ⟨c, hc, hne⟩ := CharTest.notSlash_passesAt.mp (hpasses j (by omega))
      rw [Nat.zero_add, List.getElem?_toArray, List.getElem?_eq_getElem hj, hslash] at hc
      exact hne (Option.some.inj hc).symm
  · rintro ⟨hne, hslash⟩
    have hlength : value.length ≠ 0 := fun h => hne (List.eq_nil_of_length_eq_zero h)
    refine ⟨value.length, Nat.pos_of_ne_zero hlength, rfl, ?_, by rintro ⟨⟩⟩
    apply Regex.steps_one_iff.mpr
    refine ⟨(Nat.zero_add _).symm, fun j hj => ?_⟩
    apply CharTest.notSlash_passesAt.mpr
    refine ⟨value[j], ?_, fun heq => hslash (heq ▸ List.getElem_mem hj)⟩
    rw [Nat.zero_add, List.getElem?_toArray, List.getElem?_eq_getElem hj]

namespace PathTemplate

/-! ## What the pattern spells and what fills it -/

theorem stem_optional (lead name : List Char) :
    Segment.stem ⟨lead ++ ['/'], ⟨name, defaultFragment, true⟩⟩ = lead := by
  simp [Segment.stem, Segment.takesSlash]

/-- A literal text with values behind slashes is what optional placeholders behind it spell. -/
theorem spells_optionalCut {lead : List Char} {optional extra : List (List Char)}
    (hlength : extra.length ≤ optional.length) (hvalues : ∀ value ∈ extra, IsValue value) :
    (optionalCut lead optional).Spells (lead ++ slashed extra) := by
  induction optional generalizing lead extra with
  | nil =>
    obtain rfl := List.eq_nil_of_length_eq_zero (Nat.le_zero.mp hlength)
    rw [show slashed [] = [] from rfl, List.append_nil]
    exact .tail
  | cons name rest ih =>
    cases extra with
    | nil =>
      have hrest : (optionalCut [] rest).Spells ([] ++ slashed []) := ih (Nat.zero_le _) hvalues
      have hone := Segment.Spells.omitted
        (s := ⟨lead ++ ['/'], ⟨name, defaultFragment, true⟩⟩) rfl
      rw [stem_optional] at hone
      exact .segment hone hrest
    | cons value extra =>
      have hrest : (optionalCut [] rest).Spells ([] ++ slashed extra) :=
        ih (Nat.le_of_succ_le_succ hlength) fun v hv => hvalues v (List.mem_cons_of_mem _ hv)
      have haccepts := accepts_defaultFragment_iff.mpr (hvalues value List.mem_cons_self)
      have hone : Segment.Spells ⟨lead ++ ['/'], ⟨name, defaultFragment, true⟩⟩
          (lead ++ ['/'] ++ value) := .given haccepts
      have hsplit : lead ++ slashed (value :: extra) =
          lead ++ ['/'] ++ value ++ ([] ++ slashed extra) := by
        simp [slashed_cons]
      rw [hsplit]
      exact .segment hone hrest

/-- A path with values is one that the pattern spells. -/
theorem spells_path {t : PathTemplate} {values extra : List (List Char)}
    (h : t.Fits values extra) : t.cut.Spells (t.path values extra) := by
  obtain ⟨lead, required, optional⟩ := t
  obtain ⟨hlength, hoptional, hvalues⟩ := h
  replace hlength : values.length = required.length := hlength
  replace hoptional : extra.length ≤ optional.length := hoptional
  show (requiredCut optional lead required).Spells
    (lead ++ weave values (required.map Prod.snd) ++ slashed extra)
  induction required generalizing lead values with
  | nil =>
    obtain rfl := List.eq_nil_of_length_eq_zero hlength
    have hpath : lead ++ weave [] [] ++ slashed extra = lead ++ slashed extra := by
      simp [weave]
    rw [List.map_nil, hpath]
    exact spells_optionalCut hoptional hvalues
  | cons entry rest ih =>
    obtain ⟨name, literal⟩ := entry
    obtain ⟨value, values, rfl⟩ := List.exists_cons_of_length_eq_add_one hlength
    have hrest := ih literal (fun v hv => hvalues v (List.mem_cons_of_mem _ hv))
      (Nat.succ.inj hlength)
    have haccepts := accepts_defaultFragment_iff.mpr (hvalues value List.mem_cons_self)
    have hone : Segment.Spells ⟨lead, ⟨name, defaultFragment, false⟩⟩ (lead ++ value) :=
      .given haccepts
    have hsplit : lead ++ weave (value :: values) (((name, literal) :: rest).map Prod.snd) ++
        slashed extra = lead ++ value ++
          (literal ++ weave values (rest.map Prod.snd) ++ slashed extra) := by
      simp [weave_cons]
    rw [hsplit]
    exact .segment hone hrest

/-- The groups of optional placeholders that took part have values that stand behind slashes. -/
theorem exists_of_filled_optionalCut {lead : List Char} {optional : List (List Char)}
    {groups : List (Option (List Char))} {path : List Char}
    (h : (optionalCut lead optional).Filled groups path) :
    ∃ extra, extra.length ≤ optional.length ∧ (∀ value ∈ extra, IsValue value) ∧
      path = lead ++ slashed extra ∧ groups.filterMap id = extra := by
  induction optional generalizing lead groups path with
  | nil =>
    cases h
    exact ⟨[], Nat.le_refl _, nofun, (List.append_nil _).symm, rfl⟩
  | cons name rest ih =>
    cases h with
    | segment hone hrest =>
      obtain ⟨extra, hlength, hvalues, rfl, hgroups⟩ := ih hrest
      cases hone with
      | @given value haccepts =>
        refine ⟨value :: extra, Nat.succ_le_succ hlength, ?_, ?_, ?_⟩
        · exact List.forall_mem_cons.mpr ⟨accepts_defaultFragment_iff.mp haccepts, hvalues⟩
        · simp [slashed_cons]
        · rw [List.filterMap_cons, hgroups]
          rfl
      | omitted =>
        refine ⟨extra, Nat.le_succ_of_le hlength, hvalues, ?_, ?_⟩
        · rw [stem_optional, List.nil_append]
        · rw [List.filterMap_cons, hgroups]
          rfl

/-- Where groups fill the pattern to a path, the path is built from the texts of those that took
part. -/
theorem exists_of_filled {t : PathTemplate} {groups : List (Option (List Char))} {path : List Char}
    (h : t.cut.Filled groups path) :
    ∃ values extra, t.Fits values extra ∧ path = t.path values extra ∧
      groups.filterMap id = values ++ extra := by
  obtain ⟨lead, required, optional⟩ := t
  replace h : (requiredCut optional lead required).Filled groups path := h
  induction required generalizing lead groups path with
  | nil =>
    obtain ⟨extra, hlength, hvalues, rfl, hgroups⟩ := exists_of_filled_optionalCut h
    refine ⟨[], extra, ⟨rfl, hlength, hvalues⟩, ?_, hgroups⟩
    simp [path, weave]
  | cons entry rest ih =>
    cases h with
    | segment hone hrest =>
      obtain ⟨values, extra, ⟨hlength, hoptional, hvalues⟩, rfl, hgroups⟩ := ih entry.2 hrest
      cases hone with
      | @given value haccepts =>
        have hvalue := accepts_defaultFragment_iff.mp haccepts
        refine ⟨value :: values, extra, ⟨congrArg (· + 1) hlength, hoptional, ?_⟩, ?_, ?_⟩
        · exact List.forall_mem_cons.mpr ⟨hvalue, hvalues⟩
        · simp [path, literals, weave_cons]
        · rw [List.filterMap_cons, hgroups]
          rfl
      | omitted hoptional => cases hoptional

/-! ## Extraction -/

/-- The parameters accept the values of a path, the first ones as many as there are. -/
theorem accepts_of_fits {t : PathTemplate} {values extra : List (List Char)}
    (h : t.Fits values extra) :
    ∀ pair ∈ t.parameters.zip (values ++ extra), pair.1.accepts pair.2 = .ok true := by
  intro pair hpair
  obtain ⟨hparameter, hvalue⟩ := List.of_mem_zip hpair
  rw [Parameter.accepts, fragment_of_mem_parameters hparameter]
  exact accepts_defaultFragment_iff.mpr (h.values _ hvalue)

/-- In strict mode the pattern compiles, and the search is right for its expression. -/
theorem exists_compile {t : PathTemplate} (ht : t.WellFormed) :
    ∃ compiled, CompiledPattern.compile t.pattern defaultFragment true = .ok compiled ∧
      compiled.parameters = t.parameters ∧ compiled.regex.Regular ∧
      compiled.regex.regex = Part.termOf t.cut.parts ∧
      compiled.regex.groups = Segment.groupsOf t.cut.segments ∧
      ∀ s ∈ t.cut.segments, Single s.parameter.fragment := by
  have hwritable := writable_cut ht
  have hsingle : ∀ s ∈ t.cut.segments, Single s.parameter.fragment := by
    intro s hs
    rw [hwritable.fragments s hs]
    exact single_defaultFragment
  have hnames : (t.cut.parameters.map Parameter.name).Nodup := by
    rw [parameters_cut, name_parameters]
    exact ht.distinct
  have hcut := Cut.ofPattern_written hwritable
  have hvalid := CompiledPattern.validate_written hwritable hnames usable_defaultFragment
  rw [written_cut] at hcut hvalid
  obtain ⟨e, hread, hregex, hgroups, hregular⟩ := Cut.read_of_simple
    (fun s hs => (hsingle s hs).simple)
    (fun s hs => (Part.termOf_of_chain (hsingle s hs).simple.chain).1.keepsSingly)
    (.inl fun s hs name => by
      rw [hwritable.fragments s hs]
      exact Plain.unnamed ⟨⟨_, rfl⟩, by decide⟩ name)
  refine ⟨⟨t.pattern, CompiledPattern.expressionOf t.cut, t.cut.parameters, e⟩, ?_,
    parameters_cut t, hregular, hregex, hgroups, hsingle⟩
  simp only [CompiledPattern.compile, hcut, hread, hvalid]
  rfl

/-- Extraction undoes path building. In strict mode the pattern compiles, each path that is built
from it is matched, and its values are those that it was built from, each under its name. -/
theorem extract_path {t : PathTemplate} (ht : t.WellFormed) :
    ∃ compiled, CompiledPattern.compile t.pattern defaultFragment true = .ok compiled ∧
      ∀ values extra, t.Fits values extra →
        (∃ marks, compiled.fullMatch (t.path values extra) = .ok (some marks)) ∧
        compiled.extract (t.path values extra) =
          .ok (t.requiredNames.zip values ++ t.optional.zip extra) := by
  obtain ⟨compiled, hcompile, hparameters, hregular, hregex, hgroups, hsingle⟩ := exists_compile ht
  refine ⟨compiled, hcompile, fun values extra hfits => ?_⟩
  obtain ⟨marks, hmarks⟩ : ∃ marks,
      compiled.regex.wholeMarks (t.path values extra).toArray = some marks := by
    rw [← Option.isSome_iff_exists, hregular.isSome_wholeMarks_iff, hregex]
    exact (Cut.takes_parts (fun s hs => (hsingle s hs).simple) _).mpr (spells_path hfits)
  have hmatch : compiled.fullMatch (t.path values extra) = .ok (some marks) := by
    rw [CompiledPattern.fullMatch, hregular.fullMatch_eq, hmarks]
  refine ⟨⟨marks, hmatch⟩, ?_⟩
  -- the path is also built from what the groups took
  have hfilled := Cut.filled_captures hsingle hregular hregex hgroups hmarks
  obtain ⟨values', extra', hfits', hpath, hpool⟩ := exists_of_filled hfilled
  obtain ⟨rfl, rfl⟩ := path_inj ht hfits hfits' hpath
  have hextract : compiled.extract (t.path values extra) =
      handOut t.parameters (values ++ extra) [] := by
    rw [CompiledPattern.extract, CompiledPattern.groups, hmatch, ← hpool, hparameters]
    rfl
  have hlength : (values ++ extra).length ≤ t.parameters.length := by
    have hrequired := hfits.required
    have hoptional := hfits.optional
    simp only [parameters, requiredNames, List.length_append, List.length_map]
    omega
  have hnames : (t.parameters.map Parameter.name).Nodup := by
    rw [name_parameters]
    exact ht.distinct
  have hfresh : ∀ p ∈ t.parameters, p.name ∉ Entries.keys ([] : Entries (List Char) (List Char)) :=
    fun _ _ => List.not_mem_nil
  have hhanded := handOut_zip (accepts_of_fits hfits) hlength hnames hfresh
  rw [hextract, hhanded, name_parameters, List.nil_append, List.zip_append]
  rw [requiredNames, List.length_map, hfits.required]

/-- A value with a newline, one that ends like the literal text behind it, and one for the first of
two optional placeholders. -/
theorem extract_path_partly : ∃ compiled,
    CompiledPattern.compile "/u/{id}/n{tab}.x/{?a}/{?b}".toList defaultFragment true =
      .ok compiled ∧
    (∃ marks, compiled.fullMatch "/u/7\n/n.x.x/k".toList = .ok (some marks)) ∧
    compiled.extract "/u/7\n/n.x.x/k".toList =
      .ok [("id".toList, "7\n".toList), ("tab".toList, ".x".toList), ("a".toList, "k".toList)] := by
  obtain ⟨compiled, hcompile, hpaths⟩ := extract_path
    (t := ⟨"/u/".toList, [("id".toList, "/n".toList), ("tab".toList, ".x".toList)],
      ["a".toList, "b".toList]⟩)
    ⟨by decide, by decide, by simp [literals], by decide⟩
  obtain ⟨hmatch, hextract⟩ := hpaths ["7\n".toList, ".x".toList] ["k".toList]
    ⟨rfl, by decide, by decide⟩
  exact ⟨compiled, hcompile, hmatch, hextract⟩

end PathTemplate

end RequestRouter
