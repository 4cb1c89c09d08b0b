import RequestRouter.Proofs.World.FirstMatch

/-!
# Requests that cannot be looked up

Patterns are checked when they are registered, so that a request should not find an expression that
cannot be read. The expression of a pattern is read as a whole, and the fragments are read once more
by themselves when values are handed out: outside of strict mode a fragment may only make sense
among the others. Where it makes sense by itself, crossed marks are the only fault that is left
(`CompiledPattern.fault_of_compile`).
-/

namespace RequestRouter

/-- The route has been registered, in strict mode or with fragments that can be read by themselves.
-/
def Route.Legible (route : Route) : Prop :=
  ∃ plan, Route.make plan = .ok route ∧
    (plan.strict = true ∨ ∀ p ∈ route.parameters, Readable p.fragment)

theorem Route.Legible.readable {route : Route} (h : route.Legible) :
    ∀ p ∈ route.parameters, Readable p.fragment := by
  obtain ⟨plan, hplan, hstrict | hread⟩ := h
  · exact CompiledPattern.readable_of_compile (compile_of_make hplan) hstrict
  · exact hread

/-- A request is matched by a route, or there is none for it, or marks are crossed. -/
theorem World.exists_leads {world : World}
    (h : ∀ route ∈ world.router.routes, route.Legible) (method path : String) :
    ∃ outcome after, world.Leads method path outcome after ∧
      (∀ fault, outcome = .error fault → fault = .noRoute method path ∨ fault = .crossedMarks) ∧
      (∀ fault, ((findRoute method path).run world).1 = .error fault →
        fault = .noRoute method path ∨ fault = .crossedMarks) ∧
      ((∀ route ∈ world.router.routes, ∀ p ∈ route.parameters, Orderly p.fragment) →
        ∀ fault, outcome = .error fault → fault = .noRoute method path) := by
  by_cases hpasses : ∀ r ∈ world.router.routes, r.Passes method path
  · have hfails := World.fails_of_passes hpasses
    refine ⟨_, _, hfails.leads, ?_, ?_, ?_⟩
    · rintro fault ⟨⟩
      exact .inl rfl
    · intro fault hfault
      rw [hfails.found] at hfault
      cases hfault
      exact .inl rfl
    · rintro - fault ⟨⟩
      rfl
  · obtain ⟨before, route, after, hroutes, hbefore, hroute⟩ := exists_split_of_not_passes hpasses
    have hmem : route ∈ world.router.routes := by
      rw [hroutes]
      exact List.mem_append_right _ List.mem_cons_self
    have hread := (h route hmem).readable
    obtain ⟨plan, hplan, -⟩ := h route hmem
    rcases route.accepts_or_passes_or_crosses method path with haccepts | hpass | hcrosses
    · have hselects := World.selects_of_accepts hroutes hbefore haccepts
      refine ⟨_, _, hselects.leads, ?_, ?_, ?_⟩
      · intro fault hfault
        cases hextract : route.extract path with
        | ok values =>
          rw [hextract] at hfault
          cases hfault
        | error other =>
          rw [hextract] at hfault
          cases hfault
          exact .inr (Route.eq_crossedMarks_of_extract hread hextract)
      · intro fault hfault
        rw [hselects.found] at hfault
        cases hfault
      · intro horderly fault hfault
        obtain ⟨values, hvalues⟩ :=
          Route.exists_extract_of_orderly hplan hread (horderly route hmem) path
        rw [hvalues] at hfault
        cases hfault
    · exact absurd hpass hroute
    · have hfails := World.fails_of_crosses hroutes hbefore hcrosses
      refine ⟨_, _, hfails.leads, ?_, ?_, ?_⟩
      · rintro fault ⟨⟩
        exact .inr rfl
      · intro fault hfault
        rw [hfails.found] at hfault
        cases hfault
        exact .inr rfl
      · intro horderly
        exact absurd hcrosses (Route.not_crosses_of_orderly hplan hread (horderly route hmem))

namespace CompiledPattern

/-- The extraction has failed, and not by crossed marks. -/
theorem exists_unreadable {compiled : CompiledPattern} {path : List Char}
    (h : (match compiled.extract path with
      | .error (.unreadable _) => true
      | _ => false) = true) : ∃ error, compiled.extract path = .error (.unreadable error) := by
  split at h
  · next error hextract => exact ⟨error, hextract⟩
  · cases h

/-- Whatever the method and the path are, to match a pattern that has compiled is a fault only if
marks are crossed. So is the extraction of values, but for fragments that cannot be read by
themselves, of which there are none in strict mode; and if all of them can be read and are orderly,
nothing is a fault. So among routes that have been registered with fragments that can be read, no
lookup of a request fails with a fault of an expression. -/
theorem fault_of_compile {pattern fallback : List Char} {strict : Bool}
    {compiled : CompiledPattern} (h : compile pattern fallback strict = .ok compiled) :
    (∀ methods method path,
      (∀ fault, compiled.accepts methods method path = .error fault → fault = .crossedMarks) ∧
      (∀ fault, compiled.extract path = .error fault → fault = .crossedMarks ∨
        strict = false ∧ (∃ marks, compiled.fullMatch path = .ok (some marks)) ∧
          ∃ p ∈ compiled.parameters, ∃ error,
            Expression.read p.fragment = .error error ∧ fault = .unreadable error) ∧
      ((∀ p ∈ compiled.parameters, Readable p.fragment) →
        (∀ p ∈ compiled.parameters, Orderly p.fragment) →
          (∃ answer, compiled.accepts methods method path = .ok answer) ∧
            ∃ values, compiled.extract path = .ok values)) ∧
    ∀ world : World, (∀ route ∈ world.router.routes, route.Legible) → ∀ method path,
      ∃ outcome after, world.Leads method path outcome after ∧
        (∀ fault, outcome = .error fault →
          fault = .noRoute method path ∨ fault = .crossedMarks) ∧
        (∀ fault, ((findRoute method path).run world).1 = .error fault →
          fault = .noRoute method path ∨ fault = .crossedMarks) ∧
        ((∀ route ∈ world.router.routes, ∀ p ∈ route.parameters, Orderly p.fragment) →
          ∀ fault, outcome = .error fault → fault = .noRoute method path) := by
  refine ⟨fun methods method path => ⟨?_, ?_, fun hread horderly => ⟨?_, ?_⟩⟩, ?_⟩
  · intro fault hfault
    exact Expression.eq_crossedMarks_of_fullMatch (fullMatch_of_accepts_error hfault)
  · intro fault hfault
    rcases exists_of_extract_error hfault with hmatch | ⟨hmatch, p, hp, value, hvalue⟩
    · exact .inl (Expression.eq_crossedMarks_of_fullMatch hmatch)
    · rcases Parameter.fault_of_accepts hvalue with hcrossed | ⟨error, hread, hunreadable⟩
      · exact .inl hcrossed
      · refine .inr ⟨?_, hmatch, p, hp, error, hread, hunreadable⟩
        cases strict with
        | false => rfl
        | true =>
          obtain ⟨e, he⟩ := readable_of_compile h rfl p hp
          rw [hread] at he
          cases he
  · cases haccepts : compiled.accepts methods method path with
    | ok answer => exact ⟨answer, rfl⟩
    | error fault =>
      obtain ⟨found, hfound⟩ := exists_fullMatch_of_orderly h hread horderly path
      rw [fullMatch_of_accepts_error haccepts] at hfound
      cases hfound
  · exact exists_extract_of_orderly h hread horderly path
  · intro world hlegible method path
    exact World.exists_leads hlegible method path

theorem fault_of_compile_single : ∃ compiled,
    compile "/{y}".toList defaultFragment true = .ok compiled ∧
      ∀ fault, compiled.accepts [] "GET" "/abb".toList = .error fault → fault = .crossedMarks := by
  obtain ⟨compiled, hcompile, -⟩ := exists_compile_single
  obtain ⟨hfaults, -⟩ := fault_of_compile hcompile
  exact ⟨compiled, hcompile, (hfaults [] "GET" "/abb".toList).1⟩

/-- Outside of strict mode a fragment can refer to a group of the one before it, and cannot be read
by itself. In strict mode a possessive repetition can leave crossed marks. -/
theorem exists_fault_of_compile :
    (∃ compiled, compile "/{a}/\x7bb:(\\1)\x7d".toList defaultFragment false = .ok compiled ∧
      compiled.accepts [] "GET" "/x/x".toList = .ok true ∧
      ∃ error, compiled.extract "/x/x".toList = .error (.unreadable error)) ∧
    ∃ compiled, compile "/{x:((?:(a)|b)*+)}".toList defaultFragment true = .ok compiled ∧
      compiled.accepts [] "GET" "/abb".toList = .error .crossedMarks := by
  constructor
  · refine ⟨_, rfl, Draft.toOption_eq_some.mp (by decide +kernel), ?_⟩
    exact exists_unreadable (by decide +kernel)
  · obtain ⟨compiled, hcompile, hmatch⟩ := exists_compile_crossed
    refine ⟨compiled, hcompile, ?_⟩
    rw [accepts, hmatch]
    rfl

end CompiledPattern

end RequestRouter
