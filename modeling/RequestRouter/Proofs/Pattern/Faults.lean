import RequestRouter.Proofs.Pattern.Captured
import RequestRouter.Routing.Route

/-!
# What can go wrong with a request

Once a pattern has compiled, a path can be a fault in two ways: a fragment cannot be read by itself,
or the marks of a group are crossed after a match. The first cannot happen in strict mode, where
each fragment has been read; the second cannot happen if all fragments are orderly.
-/

namespace RequestRouter

/-- The fragment can be read by itself. -/
def Readable (fragment : List Char) : Prop := ∃ e, Expression.read fragment = .ok e

/-! ## Where faults come from -/

theorem Expression.eq_crossedMarks_of_fullMatch {e : Expression} {text : Array Char}
    {fault : MatchFault} (h : e.fullMatch text = .error fault) : fault = .crossedMarks := by
  unfold fullMatch at h
  split at h
  · cases h
  · split at h
    · cases h
      rfl
    · cases h

theorem Expression.fullMatch_eq_error {e : Expression} {text : Array Char}
    (h : (e.fullMatch text).toOption = none) : e.fullMatch text = .error .crossedMarks := by
  cases hmatch : e.fullMatch text with
  | ok found =>
    rw [hmatch] at h
    cases h
  | error fault => rw [eq_crossedMarks_of_fullMatch hmatch]

theorem Expression.eq_crossedMarks_of_accepts {e : Expression} {text : List Char}
    {fault : MatchFault} (h : e.accepts text = .error fault) : fault = .crossedMarks := by
  unfold accepts at h
  cases hmatch : e.fullMatch text.toArray with
  | ok found =>
    rw [hmatch] at h
    cases h
  | error other =>
    rw [hmatch] at h
    cases h
    exact eq_crossedMarks_of_fullMatch hmatch

theorem Parameter.fault_of_accepts {p : Parameter} {value : List Char} {fault : MatchFault}
    (h : p.accepts value = .error fault) : fault = .crossedMarks ∨
      ∃ error, Expression.read p.fragment = .error error ∧ fault = .unreadable error := by
  unfold accepts fragmentAccepts at h
  split at h
  · next error hread =>
    cases h
    exact .inr ⟨error, hread, rfl⟩
  · exact .inl (Expression.eq_crossedMarks_of_accepts h)

/-- A claim only fails with a fault of the parameter that claims. -/
theorem exists_of_claim_error {accepts : List Char → Except MatchFault Bool}
    {pool : List (List Char)} {fault : MatchFault} (h : claim accepts pool = .error fault) :
    ∃ value, accepts value = .error fault := by
  rcases claim_cases accepts pool with
    ⟨-, hclaim⟩ | ⟨_, value, _, -, -, ⟨-, hclaim⟩ | ⟨other, hother, hclaim⟩⟩
  all_goals rw [hclaim] at h; cases h
  exact ⟨value, hother⟩

theorem exists_of_handOut_error {parameters : List Parameter} {pool : List (List Char)}
    {entries : Entries (List Char) (List Char)} {fault : MatchFault}
    (h : handOut parameters pool entries = .error fault) :
    ∃ p ∈ parameters, ∃ value, p.accepts value = .error fault := by
  induction parameters generalizing pool entries with
  | nil => cases h
  | cons p rest ih =>
    have hrest : ∀ pool entries, handOut rest pool entries = .error fault →
        ∃ q ∈ p :: rest, ∃ value, q.accepts value = .error fault := by
      intro pool entries h
      obtain ⟨q, hq, hvalue⟩ := ih h
      exact ⟨q, List.mem_cons_of_mem _ hq, hvalue⟩
    cases hclaim : claim p.accepts pool with
    | error other =>
      rw [handOut, hclaim] at h
      cases h
      exact ⟨p, List.mem_cons_self, exists_of_claim_error hclaim⟩
    | ok found =>
      rw [handOut, hclaim] at h
      cases found with
      | none => exact hrest _ _ h
      | some found => exact hrest _ _ h

namespace CompiledPattern

variable {compiled : CompiledPattern} {methods : List String} {method : String}
  {path : List Char} {fault : MatchFault}

/-- The path is only looked at for a method that is accepted. -/
theorem fullMatch_of_accepts_error (h : compiled.accepts methods method path = .error fault) :
    compiled.fullMatch path = .error fault := by
  unfold accepts at h
  split at h
  · cases hmatch : compiled.fullMatch path with
    | ok found =>
      rw [hmatch] at h
      cases h
    | error other =>
      rw [hmatch] at h
      cases h
      rfl
  · cases h

/-- A path is a fault as a whole, or it matches and a value is a fault for a parameter. -/
theorem exists_of_extract_error (h : compiled.extract path = .error fault) :
    compiled.fullMatch path = .error fault ∨
      (∃ marks, compiled.fullMatch path = .ok (some marks)) ∧
        ∃ p ∈ compiled.parameters, ∃ value, p.accepts value = .error fault := by
  unfold extract groups at h
  cases hmatch : compiled.fullMatch path with
  | error other =>
    rw [hmatch] at h
    cases h
    exact .inl rfl
  | ok found =>
    rw [hmatch] at h
    cases found with
    | none => cases h
    | some marks => exact .inr ⟨⟨marks, rfl⟩, exists_of_handOut_error h⟩

/-! ## Patterns that have compiled -/

section Compiled

variable {pattern fallback : List Char} {strict : Bool}
  (h : compile pattern fallback strict = .ok compiled)

include h

/-- In strict mode each fragment has been read. -/
theorem readable_of_compile (hstrict : strict = true) :
    ∀ p ∈ compiled.parameters, Readable p.fragment := by
  obtain ⟨-, hparameters, -, hchecked⟩ := exists_of_compile h
  intro p hp
  rw [hparameters] at hp
  obtain ⟨s, hs, rfl⟩ := List.mem_map.mp hp
  exact ((hchecked hstrict).usable s hs).passed.2.2

variable (hread : ∀ p ∈ compiled.parameters, Readable p.fragment)
  (horderly : ∀ p ∈ compiled.parameters, Orderly p.fragment)

include hread horderly

/-- With orderly fragments the search for a path is right, in either mode. -/
theorem exists_fullMatch_of_orderly (path : List Char) :
    ∃ found, compiled.fullMatch path = .ok found := by
  obtain ⟨-, hparameters, hexpression, -⟩ := exists_of_compile h
  generalize Cut.ofPattern pattern fallback = cut at hparameters hexpression
  have hmem : ∀ s ∈ cut.segments, s.parameter ∈ compiled.parameters := by
    intro s hs
    rw [hparameters]
    exact List.mem_map.mpr ⟨s, hs, rfl⟩
  have hsimple : ∀ s ∈ cut.segments, Simple true s.parameter.fragment := fun s hs =>
    { reads := hread _ (hmem s hs)
      simple := (horderly _ (hmem s hs)).simple }
  obtain ⟨e, he, -, -, hregular⟩ := Cut.read_of_simple hsimple
    (fun s hs => (horderly _ (hmem s hs)).keeps) (.inr ⟨_, hexpression⟩)
  obtain rfl : e = compiled.regex := Except.ok.inj (he.symm.trans hexpression)
  exact ⟨_, hregular.fullMatch_eq path.toArray⟩

theorem exists_extract_of_orderly (path : List Char) :
    ∃ values, compiled.extract path = .ok values := by
  cases hextract : compiled.extract path with
  | ok values => exact ⟨values, rfl⟩
  | error fault =>
    exfalso
    rcases exists_of_extract_error hextract with hmatch | ⟨-, p, hp, value, hvalue⟩
    · obtain ⟨found, hfound⟩ := exists_fullMatch_of_orderly h hread horderly path
      rw [hmatch] at hfound
      cases hfound
    · have hsimple : Simple true p.fragment :=
        { reads := hread p hp
          simple := (horderly p hp).simple }
      obtain ⟨answer, hanswer⟩ := hsimple.exists_accepts (horderly p hp).keeps value
      rw [Parameter.accepts, hanswer] at hvalue
      cases hvalue

end Compiled

/-- Where all fragments can be read by themselves, crossed marks are the only fault of a path. -/
theorem eq_crossedMarks_of_extract (hread : ∀ p ∈ compiled.parameters, Readable p.fragment)
    (h : compiled.extract path = .error fault) : fault = .crossedMarks := by
  rcases exists_of_extract_error h with hmatch | ⟨-, p, hp, value, hvalue⟩
  · exact Expression.eq_crossedMarks_of_fullMatch hmatch
  · rcases Parameter.fault_of_accepts hvalue with hcrossed | ⟨error, hfragment, -⟩
    · exact hcrossed
    · obtain ⟨e, he⟩ := hread p hp
      rw [hfragment] at he
      cases he

/-- A possessive repetition that repeats a group, and a path that leaves its marks crossed. -/
theorem exists_compile_crossed : ∃ compiled,
    compile "/{x:((?:(a)|b)*+)}".toList defaultFragment true = .ok compiled ∧
      compiled.fullMatch "/abb".toList = .error .crossedMarks :=
  ⟨_, rfl, Expression.fullMatch_eq_error (by decide +kernel)⟩

/-- A pattern with one placeholder, and a path that it matches. -/
theorem exists_compile_single : ∃ compiled,
    compile "/{y}".toList defaultFragment true = .ok compiled ∧
      ∃ marks, compiled.fullMatch "/abb".toList = .ok (some marks) :=
  ⟨_, rfl, _, Draft.toOption_eq_some.mp (by decide +kernel : _ = some (some [some 1, some 4]))⟩

end CompiledPattern

/-! ## Routes -/

namespace Route

variable {route : Route}

theorem make_of_compile {plan : RoutePlan} {handler : HandlerRef} {compiled : CompiledPattern}
    (hhandler : HandlerRef.ofTarget plan.handler = .ok handler)
    (hcompile : CompiledPattern.compile plan.pattern.toList plan.defaultFragment.toList
      plan.strict = .ok compiled) :
    make plan = .ok
      ⟨methodSet plan.methods, handler, plan.name, plan.defaultFragment, plan.strict,
        compiled⟩ := by
  simp only [make, hhandler, bind, Except.bind, hcompile]

/-- What a route was made from has compiled. -/
theorem compile_of_make {plan : RoutePlan} (h : make plan = .ok route) :
    CompiledPattern.compile plan.pattern.toList plan.defaultFragment.toList plan.strict =
      .ok route.compiled := by
  unfold make at h
  obtain ⟨handler, -, h⟩ := exists_of_bind_ok h
  split at h
  · cases h
  · next compiled hcompile =>
    cases h
    exact hcompile

theorem eq_crossedMarks_of_extract (hread : ∀ p ∈ route.parameters, Readable p.fragment)
    {path : String} {fault : Fault} (h : route.extract path = .error fault) :
    fault = .crossedMarks := by
  unfold extract at h
  split at h
  · next other hextract =>
    cases h
    rw [CompiledPattern.eq_crossedMarks_of_extract hread hextract]
    rfl
  · cases h

theorem exists_extract_of_orderly {plan : RoutePlan} (h : make plan = .ok route)
    (hread : ∀ p ∈ route.parameters, Readable p.fragment)
    (horderly : ∀ p ∈ route.parameters, Orderly p.fragment) (path : String) :
    ∃ values, route.extract path = .ok values := by
  obtain ⟨values, hvalues⟩ := CompiledPattern.exists_extract_of_orderly (compile_of_make h) hread
    horderly path.toList
  exact ⟨_, by rw [extract, hvalues]⟩

end Route

end RequestRouter
