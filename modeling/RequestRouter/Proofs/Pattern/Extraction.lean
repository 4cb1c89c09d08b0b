import RequestRouter.Dispatch.Invoke
import RequestRouter.Proofs.Pattern.Captured

/-!
# The values that handlers are given

The values of a path are handed out by content, not by the group that took them. For patterns in
strict mode whose fragments are orderly, a parameter that is not optional goes without a value only
if an optional one before it, which took no part in the match, was given one
(`CompiledPattern.extract_binds`). If each fragment has its own group only, and the parameters that
took part are the first ones, each of them gets what its own group took
(`CompiledPattern.extract_eq_zip`).
-/

namespace RequestRouter

namespace CompiledPattern

variable {pattern fallback : List Char} {compiled : CompiledPattern}

/-- A handler is prepared with the values of the path. -/
theorem prepare_eq {path : List Char} {values : Entries (List Char) (List Char)}
    (h : compiled.extract path = .ok values) {route : Route} (hroute : route.compiled = compiled)
    (method : String) (lookup : Option Lookup) (registry : Option Registry) :
    route.prepare method (String.ofList path) lookup registry = (do
      let values := values.map fun (name, value) => (String.ofList name, String.ofList value)
      Action.log (.invoking route.handler.displayName method (String.ofList path) values)
      route.handler.prepare values lookup registry) := by
  have hextract : route.extract (String.ofList path) =
      .ok (values.map fun (name, value) => (String.ofList name, String.ofList value)) := by
    rw [Route.extract, String.toList_ofList, hroute, h]
  rw [Route.prepare, hextract]
  rfl

/-- A pattern with an optional placeholder at its end, and a path that leaves that out. -/
theorem exists_compile_tab :
    ∃ compiled, compile "/u/{id:([0-9]+)}/{?tab}".toList defaultFragment true = .ok compiled ∧
      compiled.parameters =
        [⟨"id".toList, "([0-9]+)".toList, false⟩, ⟨"tab".toList, defaultFragment, true⟩] ∧
      compiled.groups "/u/7".toList = .ok (some [some "7".toList, none]) ∧
      (∀ p ∈ compiled.parameters, Orderly p.fragment) ∧
      ∀ p ∈ compiled.parameters, Expression.count p.fragment = 1 := by
  refine ⟨_, rfl, rfl, Draft.toOption_eq_some.mp (by decide +kernel), ?_, ?_⟩
  · exact List.forall_mem_cons.mpr
      ⟨⟨by decide, rfl⟩, List.forall_mem_singleton.mpr ⟨by decide, rfl⟩⟩
  · exact List.forall_mem_cons.mpr ⟨rfl, List.forall_mem_singleton.mpr rfl⟩

/-- In strict mode, with orderly fragments, no path is a fault. The values of a path that matches,
which its handler is given, have one for each parameter that is not optional, unless an optional one
before it has one although its own group took no part in the match. -/
theorem extract_binds (h : compile pattern fallback true = .ok compiled)
    (horderly : ∀ p ∈ compiled.parameters, Orderly p.fragment) (path : List Char) :
    ∃ found, compiled.groups path = .ok found ∧ ∀ groups, found = some groups →
      ∃ values, compiled.extract path = .ok values ∧
        (∀ before p after, compiled.parameters = before ++ p :: after → p.optional = false →
          (values.get? p.name).isSome = true ∨
            ∃ front q back, before = front ++ q :: back ∧ q.optional = true ∧
              groups[(front.map fun p => Expression.count p.fragment).sum]? = some none ∧
              (values.get? q.name).isSome = true) ∧
        ∀ route : Route, route.compiled = compiled → ∀ method lookup registry,
          route.prepare method (String.ofList path) lookup registry = (do
            let values := values.map fun (name, value) => (String.ofList name, String.ofList value)
            Action.log (.invoking route.handler.displayName method (String.ofList path) values)
            route.handler.prepare values lookup registry) := by
  obtain ⟨found, hfound, hcovers⟩ := exists_covers h horderly path
  refine ⟨found, hfound, ?_⟩
  rintro groups rfl
  obtain ⟨segments, texts, hparameters, hcovers⟩ := hcovers groups rfl
  obtain ⟨values, hvalues, -, hserved⟩ := Share.handOut_serves hcovers.fits [] []
  rw [List.nil_append, ← hcovers.pool, Segment.parameter_sharesOf, ← hparameters] at hvalues
  have hextract : compiled.extract path = .ok values := by
    rw [extract, hfound]
    exact hvalues
  refine ⟨values, hextract, ?_, fun _ => prepare_eq hextract⟩
  intro before p after hsplit hrequired
  rw [hparameters] at hsplit
  obtain ⟨front, back, hsegments, rfl, hback⟩ := List.map_eq_append_iff.mp hsplit
  obtain ⟨s, others, rfl, rfl, rfl⟩ := List.map_eq_cons_iff.mp hback
  refine (hcovers.bound hserved hsegments hrequired).imp_right ?_
  rintro ⟨first, q, second, rfl, hoptional, hplace, hbound⟩
  refine ⟨first.map Segment.parameter, q.parameter, second.map Segment.parameter, by simp,
    hoptional, ?_, hbound⟩
  rw [List.map_map]
  exact hplace

/-- A number is given to the parameter in front, where the optional one behind it takes no part. -/
theorem extract_binds_front :
    ∃ compiled values, compile "/u/{id:([0-9]+)}/{?tab}".toList defaultFragment true =
      .ok compiled ∧
      compiled.extract "/u/7".toList = .ok values ∧ (values.get? "id".toList).isSome = true := by
  obtain ⟨compiled, hcompile, hparameters, hgroups, horderly, -⟩ := exists_compile_tab
  obtain ⟨found, hfound, hmatch⟩ := extract_binds hcompile horderly "/u/7".toList
  obtain rfl := Except.ok.inj (hgroups.symm.trans hfound)
  obtain ⟨values, hvalues, hbinds, -⟩ := hmatch _ rfl
  refine ⟨compiled, values, hcompile, hvalues, ?_⟩
  rcases hbinds [] _ _ hparameters rfl with hbound | ⟨front, q, back, hsplit, -⟩
  · exact hbound
  · simp at hsplit

/-- An optional parameter can be given the value of one behind it. And what a group takes in which a
possessive repetition repeats a group is not always accepted by its fragment alone. -/
theorem extract_omits_required :
    (∃ compiled, compile "/{?a}/{b}".toList defaultFragment true = .ok compiled ∧
      compiled.parameters =
        [⟨"a".toList, defaultFragment, true⟩, ⟨"b".toList, defaultFragment, false⟩] ∧
      Orderly defaultFragment ∧
      compiled.groups "/x".toList = .ok (some [none, some "x".toList]) ∧
      compiled.extract "/x".toList = .ok [("a".toList, "x".toList)]) ∧
    ∃ compiled, compile "/{x:((?:ba++)++)}b".toList defaultFragment true = .ok compiled ∧
      compiled.parameters = [⟨"x".toList, "((?:ba++)++)".toList, false⟩] ∧
      (∀ c ∈ Expression.constructs "((?:ba++)++)".toList, c.isSimple true = true) ∧
      compiled.groups "/babb".toList = .ok (some [some "bab".toList]) ∧
      compiled.extract "/babb".toList = .ok [] := by
  constructor
  · exact ⟨_, rfl, rfl, ⟨by decide, rfl⟩, Draft.toOption_eq_some.mp (by decide +kernel),
      Draft.toOption_eq_some.mp (by decide +kernel)⟩
  · exact ⟨_, rfl, rfl, by decide, Draft.toOption_eq_some.mp (by decide +kernel),
      Draft.toOption_eq_some.mp (by decide +kernel)⟩

/-- In strict mode, with orderly fragments that have no groups inside of them, a path that matches
has one group for each parameter. If those that took part are the first ones, as they are where no
parameter is optional, the values are what these groups took, each under the name of its parameter.
-/
theorem extract_eq_zip (h : compile pattern fallback true = .ok compiled)
    (horderly : ∀ p ∈ compiled.parameters, Orderly p.fragment)
    (hcount : ∀ p ∈ compiled.parameters, Expression.count p.fragment = 1) (path : List Char) :
    ∃ found, compiled.groups path = .ok found ∧ ∀ groups, found = some groups →
      groups.length = compiled.parameters.length ∧
      ((∀ p ∈ compiled.parameters, p.optional = false) →
        ∃ values : List (List Char), groups = values.map some) ∧
      ∀ (values : List (List Char)) absent, groups = values.map some ++ List.replicate absent none →
        compiled.extract path = .ok ((compiled.parameters.map Parameter.name).zip values) := by
  have hnames : (compiled.parameters.map Parameter.name).Nodup := by
    obtain ⟨-, hparameters, -, hchecked⟩ := exists_of_compile h
    rw [hparameters]
    exact (hchecked rfl).names
  obtain ⟨found, hfound, hcovers⟩ := exists_covers h horderly path
  refine ⟨found, hfound, ?_⟩
  rintro groups rfl
  obtain ⟨segments, texts, hparameters, hcovers⟩ := hcovers groups rfl
  rw [hparameters] at hcount hnames ⊢
  have hcount : ∀ s ∈ segments, Expression.count s.parameter.fragment = 1 :=
    fun s hs => hcount s.parameter (List.mem_map.mpr ⟨s, hs, rfl⟩)
  have hlength : groups.length = segments.length := hcovers.length hcount
  refine ⟨by rw [List.length_map, hlength], fun hrequired => ?_, ?_⟩
  · exact hcovers.exists_eq_map_some hcount fun s hs =>
      hrequired s.parameter (List.mem_map.mpr ⟨s, hs, rfl⟩)
  · intro values absent hgroups
    have hpool : groups.filterMap id = values := by simp [hgroups]
    have hshort : values.length ≤ (segments.map Segment.parameter).length := by
      rw [List.length_map, ← hlength, hgroups, List.length_append, List.length_map]
      exact Nat.le_add_right _ _
    rw [extract, hfound, hparameters]
    show handOut _ (List.filterMap id _) [] = _
    rw [hpool]
    exact handOut_zip (hcovers.accepts_of_zip hcount hgroups) hshort hnames (by simp [Entries.keys])

theorem extract_eq_zip_front :
    ∃ compiled, compile "/u/{id:([0-9]+)}/{?tab}".toList defaultFragment true = .ok compiled ∧
      compiled.extract "/u/7".toList = .ok [("id".toList, "7".toList)] := by
  obtain ⟨compiled, hcompile, hparameters, hgroups, horderly, hcount⟩ := exists_compile_tab
  obtain ⟨found, hfound, hmatch⟩ := extract_eq_zip hcompile horderly hcount "/u/7".toList
  obtain rfl := Except.ok.inj (hgroups.symm.trans hfound)
  obtain ⟨-, -, hzip⟩ := hmatch _ rfl
  have hextract := hzip ["7".toList] 1 rfl
  rw [hparameters] at hextract
  exact ⟨compiled, hcompile, hextract⟩

/-- The only group takes part, and nothing is given to its parameter. -/
theorem extract_ne_zip :
    ∃ compiled, compile "/{x:((?:ba++)++)}b".toList defaultFragment true = .ok compiled ∧
      compiled.parameters = [⟨"x".toList, "((?:ba++)++)".toList, false⟩] ∧
      (∀ c ∈ Expression.constructs "((?:ba++)++)".toList, c.isSimple true = true) ∧
      Expression.count "((?:ba++)++)".toList = 1 ∧
      compiled.groups "/babb".toList = .ok (some [some "bab".toList]) ∧
      compiled.extract "/babb".toList = .ok [] :=
  ⟨_, rfl, rfl, by decide, rfl, Draft.toOption_eq_some.mp (by decide +kernel),
    Draft.toOption_eq_some.mp (by decide +kernel)⟩

end CompiledPattern

end RequestRouter
