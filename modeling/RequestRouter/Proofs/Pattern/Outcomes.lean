import RequestRouter.Proofs.Pattern.Counts
import RequestRouter.Proofs.Pattern.Strict
import RequestRouter.Routing.Router

/-!
# How registrations end

A pattern compiles or is at fault, and a configuration is accepted or is at fault, with one
exception: reading a fragment or the expression may come to a count that does not fit
(`CompiledPattern.Overflows`), and then the fault that is reported is neither a fault of the pattern
nor one of the configuration. This takes bounds with such a count in some fragment
(`CompiledPattern.Overflows.within`).
-/

namespace RequestRouter

/-! ## Fragments -/

/-- One pair of parentheses spans the fragment, and it records what it encloses. -/
def Capturing (fragment : List Char) : Prop :=
  isSingleGroup fragment = true ∧
    ("(?".toList.isPrefixOf fragment = true → "(?P<".toList.isPrefixOf fragment = true)

variable {fragment : List Char} {overflow : Overflow} {error : ReadError}

/-- The parenthesis that a fragment begins with opens a level. -/
theorem Capturing.led (h : Capturing fragment) : Expression.Led (Units.ofChars fragment).1 := by
  obtain ⟨hsingle, hstart⟩ := h
  obtain ⟨inner, rfl⟩ := exists_of_isSingleGroup hsingle
  intro unit rest construct after hunits hread
  obtain ⟨rfl, rfl⟩ := List.cons.inj hunits
  obtain ⟨⟨header, left⟩, hheader, heq⟩ := exists_of_map_ok hread
  cases heq
  refine .inr ⟨header, ?_, rfl⟩
  obtain rfl | ⟨name, rfl⟩ := Opening.records_of_read hstart hheader <;> rfl

theorem Cut.led (cut : Cut) :
    Expression.Led (Units.ofChars (CompiledPattern.expressionOf cut)).1 := by
  intro unit rest construct after hunits hread
  obtain ⟨rfl, rfl⟩ := List.cons.inj hunits
  cases hread
  exact .inl rfl

theorem fragmentProblem_eq_error_iff : fragmentProblem fragment = .error error ↔
    Capturing fragment ∧ ∃ overflow, Expression.Overflows fragment overflow ∧
      error = overflow.error := by
  constructor
  · intro h
    unfold fragmentProblem at h
    split at h
    · cases h
    · next hsingle =>
      split at h
      · cases h
      · next hstart =>
        have hcapturing : Capturing fragment := by
          refine ⟨by simpa using hsingle, fun hquestion => ?_⟩
          rw [hquestion, Bool.true_and] at hstart
          simpa using hstart
        refine ⟨hcapturing, ?_⟩
        split at h
        · cases h
        · next other hread =>
          split at h
          · cases h
          · next hnot =>
            cases h
            rw [Bool.not_eq_true] at hnot
            exact (Expression.read_eq_error_iff hcapturing.led hnot).mp hread
  · rintro ⟨hcapturing, overflow, hoverflows, rfl⟩
    have hread := (Expression.read_eq_error_iff hcapturing.led overflow.isMalformed_error).mpr
      ⟨overflow, hoverflows, rfl⟩
    obtain ⟨hsingle, hstart⟩ := hcapturing
    have hcaptures : ¬ ("(?".toList.isPrefixOf fragment &&
        !"(?P<".toList.isPrefixOf fragment) = true := by
      rw [Bool.and_eq_true, Bool.not_eq_true', not_and, Bool.not_eq_false]
      exact hstart
    simp only [fragmentProblem, hsingle, Bool.not_true, Bool.false_eq_true, if_false,
      if_neg hcaptures, hread, overflow.isMalformed_error]

/-! ## Patterns -/

namespace CompiledPattern

variable {pattern fallback : List Char} {strict : Bool}

/-- Compiling a pattern comes to a count that does not fit. In strict mode this may be in the
fragment of a parameter, when everything that is looked at before it has been passed; and it may be
in the expression, when the checks that are made have been passed. -/
inductive Overflows (pattern fallback : List Char) : (strict : Bool) → Overflow → Prop
  | fragment {front back : List Parameter} {p : Parameter} {overflow : Overflow}
      (hnameless : Placeholder.hasNameless pattern = false)
      (hliterals : ∀ c ∈ (Cut.ofPattern pattern fallback).literals, c ≠ '{' ∧ c ≠ '}')
      (hsplit : (Cut.ofPattern pattern fallback).parameters = front ++ p :: back)
      (hnames : ((front ++ [p]).map Parameter.name).Nodup)
      (husable : ∀ q ∈ front, Usable q.fragment) (hcapturing : Capturing p.fragment)
      (hoverflows : Expression.Overflows p.fragment overflow) :
      Overflows pattern fallback true overflow
  | expression {strict : Bool} {overflow : Overflow}
      (hvalid : strict = true → validate pattern (Cut.ofPattern pattern fallback) = .ok ())
      (hoverflows : Expression.Overflows (expressionOf (Cut.ofPattern pattern fallback)) overflow) :
      Overflows pattern fallback strict overflow

theorem Overflows.within (h : Overflows pattern fallback strict overflow) :
    ∃ p ∈ (Cut.ofPattern pattern fallback).parameters, Bounds.Within overflow p.fragment := by
  cases h with
  | @fragment _ _ p _ _ _ hsplit _ _ _ hoverflows =>
    exact ⟨p, hsplit ▸ List.mem_append_right _ List.mem_cons_self, hoverflows.within⟩
  | expression _ hoverflows => exact Cut.exists_of_overflows hoverflows

section Checks

variable {seen : List (List Char)} {parameters : List Parameter}

theorem checkParameters_error {other : CompileError}
    (h : checkParameters pattern seen parameters = .error other) :
    (∃ fault, other = .invalid pattern fault) ∨ ∃ error, other = .host error := by
  induction parameters generalizing seen with
  | nil => cases h
  | cons p rest ih =>
    unfold checkParameters at h
    split at h
    · cases h
      exact .inl ⟨_, rfl⟩
    · split at h
      · cases h
        exact .inr ⟨_, rfl⟩
      · cases h
        exact .inl ⟨_, rfl⟩
      · exact ih h

/-- The checks come to a fragment that they cannot read, past usable ones with other names. -/
theorem checkParameters_eq_host_iff :
    checkParameters pattern seen parameters = .error (.host error) ↔
      ∃ front p back, parameters = front ++ p :: back ∧
        ((front ++ [p]).map Parameter.name).Nodup ∧ (∀ q ∈ front ++ [p], q.name ∉ seen) ∧
        (∀ q ∈ front, Usable q.fragment) ∧ fragmentProblem p.fragment = .error error := by
  induction parameters generalizing seen with
  | nil =>
    constructor
    · intro h
      cases h
    · rintro ⟨front, p, back, h, -⟩
      cases front <;> cases h
  | cons p rest ih =>
    constructor
    · intro h
      unfold checkParameters at h
      split at h
      · cases h
      · next hseen =>
        have hfresh : p.name ∉ seen := by simpa using hseen
        split at h
        · next hproblem =>
          cases h
          exact ⟨[], p, rest, rfl, List.pairwise_singleton .., by simpa using hfresh, nofun,
            hproblem⟩
        · cases h
        · next husable =>
          obtain ⟨front, q, back, rfl, hnames, hothers, hfront, hproblem⟩ := ih.mp h
          refine ⟨p :: front, q, back, rfl, ?_, ?_, ?_, hproblem⟩
          · rw [List.cons_append, List.map_cons, List.nodup_cons]
            refine ⟨fun hmem => ?_, hnames⟩
            obtain ⟨r, hr, hname⟩ := List.mem_map.mp hmem
            exact hothers r hr (hname ▸ List.mem_cons_self)
          · intro r hr
            rcases List.mem_cons.mp hr with rfl | hr
            · exact hfresh
            · exact fun hmem => hothers r hr (List.mem_cons_of_mem _ hmem)
          · intro r hr
            rcases List.mem_cons.mp hr with rfl | hr
            · exact husable
            · exact hfront r hr
    · rintro ⟨front, q, back, hsplit, hnames, hothers, hfront, hproblem⟩
      cases front with
      | nil =>
        obtain ⟨rfl, rfl⟩ := List.cons.inj hsplit
        have hfresh : ¬ seen.contains p.name = true := by
          simpa using hothers p (List.mem_singleton_self p)
        rw [checkParameters, if_neg hfresh, hproblem]
      | cons r front =>
        obtain ⟨rfl, rfl⟩ := List.cons.inj hsplit
        have hfresh : ¬ seen.contains p.name = true := by
          simpa using hothers p List.mem_cons_self
        have husable : fragmentProblem p.fragment = .ok none := hfront p List.mem_cons_self
        rw [List.cons_append, List.map_cons, List.nodup_cons] at hnames
        rw [checkParameters, if_neg hfresh, husable]
        refine ih.mpr ⟨front, q, back, rfl, hnames.2, fun s hs hmem => ?_,
          fun s hs => hfront s (List.mem_cons_of_mem _ hs), hproblem⟩
        rcases List.mem_cons.mp hmem with hname | hmem
        · exact hnames.1 (List.mem_map.mpr ⟨s, hs, hname⟩)
        · exact hothers s (List.mem_cons_of_mem _ hs) hmem

end Checks

theorem validate_error {other : CompileError} {cut : Cut}
    (h : validate pattern cut = .error other) :
    (∃ fault, other = .invalid pattern fault) ∨ ∃ error, other = .host error := by
  unfold validate at h
  split at h
  · cases h
    exact .inl ⟨_, rfl⟩
  · split at h
    · cases h
      exact .inl ⟨_, rfl⟩
    · exact checkParameters_error h

theorem validate_eq_host_iff {cut : Cut} : validate pattern cut = .error (.host error) ↔
    Placeholder.hasNameless pattern = false ∧ (∀ c ∈ cut.literals, c ≠ '{' ∧ c ≠ '}') ∧
      ∃ front p back, cut.parameters = front ++ p :: back ∧
        ((front ++ [p]).map Parameter.name).Nodup ∧ (∀ q ∈ front, Usable q.fragment) ∧
        fragmentProblem p.fragment = .error error := by
  have hbraces : ¬ cut.literals.any (fun c => c == '{' || c == '}') = true ↔
      ∀ c ∈ cut.literals, c ≠ '{' ∧ c ≠ '}' := by simp
  rw [validate, Placeholder.occursIn_nameless]
  cases Placeholder.hasNameless pattern with
  | true =>
    constructor
    · intro h
      cases h
    · rintro ⟨h, -⟩
      cases h
  | false =>
    rw [if_neg Bool.false_ne_true]
    split
    · next hstray =>
      constructor
      · intro h
        cases h
      · rintro ⟨-, hliterals, -⟩
        exact absurd hstray (hbraces.mpr hliterals)
    · next hstray =>
      rw [checkParameters_eq_host_iff]
      simp only [List.not_mem_nil, not_false_eq_true, implies_true, true_and]
      exact ⟨fun h => ⟨hbraces.mp hstray, h⟩, fun h => h.2⟩

/-- Without the checks of strict mode only the expression is read. -/
theorem compile_lenient : compile pattern fallback false =
    match Expression.read (expressionOf (Cut.ofPattern pattern fallback)) with
    | .ok regex => .ok ⟨pattern, expressionOf (Cut.ofPattern pattern fallback),
        (Cut.ofPattern pattern fallback).parameters, regex⟩
    | .error error => if error.isMalformed then .error (.invalid pattern (.malformed error))
        else .error (.host error) := by
  unfold compile
  simp only [Bool.false_eq_true, if_false]
  cases Expression.read (expressionOf (Cut.ofPattern pattern fallback)) <;> rfl

/-- A pattern that passes the checks of strict mode compiles as it does without them. -/
theorem compile_of_valid (hvalid : validate pattern (Cut.ofPattern pattern fallback) = .ok ()) :
    compile pattern fallback true = compile pattern fallback false := by
  rw [compile_strict, hvalid]
  generalize compile pattern fallback false = lenient
  rfl

theorem compile_error {other : CompileError} (h : compile pattern fallback strict = .error other) :
    (∃ fault, other = .invalid pattern fault) ∨ ∃ error, other = .host error := by
  have hlenient : ∀ {other}, compile pattern fallback false = .error other →
      (∃ fault, other = .invalid pattern fault) ∨ ∃ error, other = .host error := by
    intro other h
    rw [compile_lenient] at h
    split at h
    · cases h
    · split at h <;> cases h
      · exact .inl ⟨_, rfl⟩
      · exact .inr ⟨_, rfl⟩
  cases strict with
  | false => exact hlenient h
  | true =>
    cases hvalid : validate pattern (Cut.ofPattern pattern fallback) with
    | error first =>
      rw [compile_strict, hvalid] at h
      cases h
      exact validate_error hvalid
    | ok => exact hlenient (compile_of_valid hvalid ▸ h)

theorem lenient_eq_host_iff : compile pattern fallback false = .error (.host error) ↔
    ∃ overflow, Expression.Overflows (expressionOf (Cut.ofPattern pattern fallback)) overflow ∧
      error = overflow.error := by
  rw [compile_lenient]
  constructor
  · intro h
    split at h
    · cases h
    · next other hread =>
      split at h
      · cases h
      · next hnot =>
        cases h
        rw [Bool.not_eq_true] at hnot
        exact (Expression.read_eq_error_iff (Cut.led _) hnot).mp hread
  · rintro ⟨overflow, hoverflows, rfl⟩
    rw [(Expression.read_eq_error_iff (Cut.led _) overflow.isMalformed_error).mpr
      ⟨overflow, hoverflows, rfl⟩]
    simp only [overflow.isMalformed_error, Bool.false_eq_true, if_false]

/-- What is wrong is something else than the pattern if and only if a count does not fit. -/
theorem compile_eq_host_iff : compile pattern fallback strict = .error (.host error) ↔
    ∃ overflow, Overflows pattern fallback strict overflow ∧ error = overflow.error := by
  cases strict with
  | false =>
    rw [lenient_eq_host_iff]
    constructor
    · rintro ⟨overflow, hoverflows, rfl⟩
      exact ⟨overflow, .expression nofun hoverflows, rfl⟩
    · rintro ⟨overflow, hoverflows, rfl⟩
      cases hoverflows with
      | expression _ hoverflows => exact ⟨overflow, hoverflows, rfl⟩
  | true =>
    constructor
    · intro h
      cases hvalid : validate pattern (Cut.ofPattern pattern fallback) with
      | ok =>
        rw [compile_of_valid hvalid] at h
        obtain ⟨overflow, hoverflows, rfl⟩ := lenient_eq_host_iff.mp h
        exact ⟨overflow, .expression (fun _ => hvalid) hoverflows, rfl⟩
      | error other =>
        rw [compile_strict, hvalid] at h
        cases h
        obtain ⟨hnameless, hliterals, front, p, back, hsplit, hnames, husable, hproblem⟩ :=
          validate_eq_host_iff.mp hvalid
        obtain ⟨hcapturing, overflow, hoverflows, rfl⟩ := fragmentProblem_eq_error_iff.mp hproblem
        exact ⟨overflow, .fragment hnameless hliterals hsplit hnames husable hcapturing hoverflows,
          rfl⟩
    · rintro ⟨overflow, hoverflows, rfl⟩
      cases hoverflows with
      | @fragment front back p _ hnameless hliterals hsplit hnames husable hcapturing hoverflows =>
        have hproblem := fragmentProblem_eq_error_iff.mpr ⟨hcapturing, overflow, hoverflows, rfl⟩
        rw [compile_strict, validate_eq_host_iff.mpr ⟨hnameless, hliterals, front, p, back, hsplit,
          hnames, husable, hproblem⟩]
        rfl
      | expression hvalid hoverflows =>
        rw [compile_of_valid (hvalid rfl)]
        exact lenient_eq_host_iff.mpr ⟨overflow, hoverflows, rfl⟩

end CompiledPattern

/-! ## Configurations and routes -/

/-- Checking a configuration comes to a count that does not fit. -/
structure Config.Overflows (config : Config) (overflow : Overflow) : Prop where
  strict : config.strictPatterns = true
  capturing : Capturing config.defaultFragment.toList
  overflows : Expression.Overflows config.defaultFragment.toList overflow

namespace Config

variable {config : Config}

/-- A configuration is accepted as it is, or its default fragment is at fault. -/
theorem check_cases (config : Config) : config.check = .ok config ∨
    (∃ problem, config.check =
      .error (.configuration (.badFragment config.defaultFragment problem))) ∨
    ∃ error, config.check = .error (.expression error) := by
  unfold check
  split
  · exact .inl rfl
  · split
    · exact .inr (.inr ⟨_, rfl⟩)
    · exact .inr (.inl ⟨_, rfl⟩)
    · exact .inl rfl

theorem check_eq_expression_iff : config.check = .error (.expression error) ↔
    ∃ overflow, config.Overflows overflow ∧ error = overflow.error := by
  constructor
  · intro h
    unfold check at h
    split at h
    · cases h
    · next hstrict =>
      split at h
      · next hproblem =>
        cases h
        obtain ⟨hcapturing, overflow, hoverflows, rfl⟩ := fragmentProblem_eq_error_iff.mp hproblem
        exact ⟨overflow, ⟨by simpa using hstrict, hcapturing, hoverflows⟩, rfl⟩
      · cases h
      · cases h
  · rintro ⟨overflow, ⟨hstrict, hcapturing, hoverflows⟩, rfl⟩
    have hproblem := fragmentProblem_eq_error_iff.mpr ⟨hcapturing, overflow, hoverflows, rfl⟩
    simp only [check, hstrict, Bool.not_true, Bool.false_eq_true, if_false, hproblem]

end Config

theorem HandlerRef.isA_of_ofTarget {target : Target} {fault : Fault}
    (h : ofTarget target = .error fault) : fault.isA (.plain .configuration) = true := by
  unfold ofTarget at h
  split at h
  · cases h
  · unfold ofText at h
    dsimp only at h
    split at h
    · cases h
      rfl
    · split at h <;> cases h
      rfl
  · split at h <;> cases h
    rfl

/-- Making a route fails with a fault of configuration, or compiling its pattern comes to a count
that does not fit. -/
theorem Route.fault_of_make {plan : RoutePlan} {fault : Fault} (h : make plan = .error fault) :
    fault.isA (.plain .configuration) = true ∨ ∃ overflow,
      CompiledPattern.Overflows plan.pattern.toList plan.defaultFragment.toList plan.strict
        overflow ∧ fault = .expression overflow.error := by
  unfold make at h
  cases htarget : HandlerRef.ofTarget plan.handler with
  | error other =>
    rw [htarget] at h
    cases h
    exact .inl (HandlerRef.isA_of_ofTarget htarget)
  | ok ref =>
    rw [htarget] at h
    cases hcompile : CompiledPattern.compile plan.pattern.toList plan.defaultFragment.toList
        plan.strict with
    | ok compiled =>
      simp only [bind, Except.bind, hcompile] at h
      cases h
    | error other =>
      simp only [bind, Except.bind, hcompile] at h
      cases h
      obtain ⟨_, rfl⟩ | ⟨error, rfl⟩ := CompiledPattern.compile_error hcompile
      · exact .inl rfl
      · obtain ⟨overflow, hoverflows, rfl⟩ := CompiledPattern.compile_eq_host_iff.mp hcompile
        exact .inr ⟨overflow, hoverflows, rfl⟩

theorem Methods.isA_of_check {methods : Methods} {fault : Fault}
    (h : methods.check = .error fault) :
    fault.isA (.plain .configuration) = true := by
  cases methods with
  | names => cases h
  | text =>
    cases h
    rfl

namespace Router

variable {router : Router} {methods : Methods} {pattern : String} {handler : Target}
  {name : Option String} {fault : Fault}

theorem isA_of_checkOpen (h : router.checkOpen = .error fault) :
    fault.isA (.plain .configuration) = true := by
  unfold checkOpen at h
  split at h <;> cases h
  rfl

theorem fault_of_map (h : router.map methods pattern handler name = .error fault) :
    fault.isA (.plain .configuration) = true ∨ ∃ overflow,
      CompiledPattern.Overflows (router.base ++ pattern).toList
        router.config.defaultFragment.toList router.config.strictPatterns overflow ∧
      fault = .expression overflow.error := by
  unfold map at h
  cases hopen : router.checkOpen with
  | error other =>
    rw [hopen] at h
    cases h
    exact .inl (isA_of_checkOpen hopen)
  | ok =>
    rw [hopen] at h
    cases hmethods : methods.check with
    | error other =>
      rw [hmethods] at h
      cases h
      exact .inl (Methods.isA_of_check hmethods)
    | ok all =>
      rw [hmethods] at h
      cases hmake : Route.make (router.plan all pattern handler name) with
      | ok route =>
        simp only [bind, Except.bind, hmake] at h
        cases h
      | error other =>
        simp only [bind, Except.bind, hmake] at h
        cases h
        exact Route.fault_of_make hmake

end Router

/-- A pattern compiles, or it is at fault and the fault carries it, or the fault is that of a count,
and this if and only if compiling the pattern comes to a count that does not fit. A configuration is
accepted as it is, or its default fragment is at fault, or the fault is that of a count, and this if
and only if checking the fragment comes to such a count. Registering a route fails with a fault of
configuration only, unless compiling its pattern comes to such a count. For this, bounds with such a
count must stand in the fragment of a parameter, or in the default fragment. -/
theorem registration_outcome (pattern fallback : List Char) (strict : Bool) (config : Config)
    (router : Router) (methods : Methods) (path : String) (handler : Target)
    (name : Option String) :
    (let outcome := CompiledPattern.compile pattern fallback strict;
      ((∃ compiled, outcome = .ok compiled) ∨
        (∃ fault, outcome = .error (.invalid pattern fault)) ∨
        ∃ error, outcome = .error (.host error)) ∧
      (∀ error, outcome = .error (.host error) ↔ ∃ overflow,
        CompiledPattern.Overflows pattern fallback strict overflow ∧ error = overflow.error) ∧
      ∀ overflow, CompiledPattern.Overflows pattern fallback strict overflow →
        ∃ p ∈ (Cut.ofPattern pattern fallback).parameters, Bounds.Within overflow p.fragment) ∧
    ((config.check = .ok config ∨
        (∃ problem, config.check =
          .error (.configuration (.badFragment config.defaultFragment problem))) ∨
        ∃ error, config.check = .error (.expression error)) ∧
      (∀ error, config.check = .error (.expression error) ↔
        ∃ overflow, config.Overflows overflow ∧ error = overflow.error) ∧
      ∀ overflow, config.Overflows overflow →
        Bounds.Within overflow config.defaultFragment.toList) ∧
    ∀ fault, router.map methods path handler name = .error fault →
      fault.isA (.plain .configuration) = true ∨ ∃ overflow,
        CompiledPattern.Overflows (router.base ++ path).toList
          router.config.defaultFragment.toList router.config.strictPatterns overflow ∧
        fault = .expression overflow.error := by
  refine ⟨⟨?_, fun error => CompiledPattern.compile_eq_host_iff, fun overflow h => h.within⟩,
    ⟨config.check_cases, fun error => Config.check_eq_expression_iff,
      fun overflow h => h.overflows.within⟩,
    fun fault => Router.fault_of_map⟩
  cases hcompile : CompiledPattern.compile pattern fallback strict with
  | ok compiled => exact .inl ⟨compiled, rfl⟩
  | error other =>
    obtain ⟨fault, rfl⟩ | ⟨error, rfl⟩ := CompiledPattern.compile_error hcompile
    · exact .inr (.inl ⟨fault, rfl⟩)
    · exact .inr (.inr ⟨error, rfl⟩)

example : CompiledPattern.compile "/\x7bid:(a\x7b4294967295\x7d)\x7d".toList defaultFragment true =
    .error (.host .countTooLarge) := by decide +kernel

end RequestRouter
