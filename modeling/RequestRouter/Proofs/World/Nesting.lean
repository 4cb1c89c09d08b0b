import RequestRouter.Proofs.Pattern.Joining
import RequestRouter.Proofs.World.Programs

/-!
# Expressions of routes in groups

The pattern of a route is put together from the base pattern, the groups around the call that
registers it, and its own pattern. So is its expression, if these patterns can be put together
(`CompiledPattern.Joinable`): each has been compiled by itself, and only the anchors of its
expression are left out.
-/

namespace RequestRouter

/-- What the pattern of a call is put together from: the base pattern that it stands behind, the
groups that have been entered since, and its own pattern. -/
def FlatCall.pieces (call : FlatCall) : List String :=
  call.scope.origin :: (call.scope.extensions ++ [call.call.pattern])

theorem FlatCall.toList_pieces (call : FlatCall) :
    (call.scope.base ++ call.call.pattern).toList = call.pieces.flatMap String.toList := by
  simp [pieces, BaseScope.base]

theorem RouteCall.compile_of_outcome {call : RouteCall} {config : Config} {base : String}
    {route : Route} (h : call.outcome config base = .ok route) :
    CompiledPattern.compile (base ++ call.pattern).toList config.defaultFragment.toList
      config.strictPatterns = .ok route.compiled := by
  obtain ⟨methods, -, hmake⟩ := exists_of_bind_ok h
  exact Route.compile_of_make hmake

namespace Program

/-- A call of a flat meaning answers what it answers under the base pattern of its scope. -/
theorem result_of_flatten {config : Config} (program : Program) (scope : BaseScope) :
    ∀ call ∈ (program.flatten config scope).calls,
      call.result = call.call.outcome config call.scope.base := by
  induction program generalizing scope with
  | done | setBase | fail => exact fun _ h => absurd h List.not_mem_nil
  | call what =>
    intro call hcall
    obtain rfl := List.mem_singleton.mp hcall
    rfl
  | seq first rest ihfirst ihrest =>
    intro call hcall
    simp only [flatten] at hcall
    split at hcall
    · exact (List.mem_append.mp hcall).elim (ihfirst scope call) (ihrest _ call)
    · exact ihfirst scope call hcall
  | group extension body ih => exact ih (scope.enter extension)
  | rescue body expected handler ihbody ihhandler =>
    intro call hcall
    simp only [flatten] at hcall
    split at hcall
    · exact ihbody scope call hcall
    · split at hcall
      · exact (List.mem_append.mp hcall).elim (ihbody scope call) (ihhandler _ call)
      · exact ihbody scope call hcall

/-- The routes of the calls that return are registered. -/
theorem mem_routes_of_flatten (program : Program) {world : World}
    (hopen : world.router.frozen = false) {call : FlatCall}
    (hcall : call ∈ (program.flatten world.router.config ⟨world.router.base, []⟩).calls)
    {route : Route} (h : call.result = .ok route) :
    route ∈ (program.exec.run world).2.router.routes := by
  have hscope : (BaseScope.mk world.router.base []).base = world.router.base :=
    String.append_empty
  cases hrun : program.run.run world with
  | mk account after =>
    have hfollows := follows_flatten program hopen hscope hrun
    rw [exec_run program hrun, hfollows.router]
    refine List.mem_append_right _ (List.mem_filterMap.mpr ⟨call, hcall, ?_⟩)
    rw [h]
    rfl

end Program

namespace CompiledPattern

/-- Of two patterns that strict mode accepts, without a name in common, the second one can be put
behind the first, unless it begins with an optional placeholder and the first ends in a slash, which
that placeholder would take. Nothing is wrong with the joined pattern, it has the parameters of
both, and if its expression can be read it is put together from the expressions of both, without the
anchors between them. It is the same with a route that a program registers inside of any groups: its
pattern and its expression are put together from the base pattern, the groups, and its own pattern.
-/
theorem expression_joined :
    (∀ (fallback p q : List Char) (first second : CompiledPattern),
      compile p fallback true = .ok first → compile q fallback true = .ok second →
      (∀ x ∈ first.parameters, ∀ y ∈ second.parameters, x.name ≠ y.name) →
      (p.getLast? = some '/' → ¬ "\x7b?".toList <+: q) →
      validate (p ++ q) (Cut.ofPattern (p ++ q) fallback) = .ok () ∧
      parseParameters (p ++ q) fallback = first.parameters ++ second.parameters ∧
      ∀ strict joined, compile (p ++ q) fallback strict = .ok joined →
        joined.parameters = first.parameters ++ second.parameters ∧
        joined.expression = '^' :: (first.inner ++ second.inner) ++ ['$']) ∧
    ∀ (program : Program) (world : World), world.router.frozen = false →
      ∀ call ∈ (program.flatten world.router.config ⟨world.router.base, []⟩).calls,
      ∀ route, call.result = .ok route →
        route ∈ (program.exec.run world).2.router.routes ∧
        ∀ pieces, Joinable world.router.config.defaultFragment.toList pieces →
          pieces.map pattern = call.pieces.map String.toList →
          route.parameters = pieces.flatMap parameters ∧
          route.expression.toList = '^' :: pieces.flatMap inner ++ ['$'] := by
  constructor
  · intro fallback p q first second hfirst hsecond hnames hslash
    have hjoinable := joinable_pair hfirst hsecond hnames hslash
    have htext : [first, second].flatMap pattern = p ++ q := by
      simp [pattern_of_compile hfirst, pattern_of_compile hsecond]
    have hparameters : [first, second].flatMap parameters =
        first.parameters ++ second.parameters := by simp
    have hinner : [first, second].flatMap inner = first.inner ++ second.inner := by simp
    obtain ⟨hvalid, hown, -⟩ := hjoinable.joined
    rw [htext] at hvalid hown
    refine ⟨hvalid, hown.trans hparameters, fun strict joined hjoined => ?_⟩
    rw [← hparameters, ← hinner]
    exact hjoinable.expression_eq (htext ▸ hjoined)
  · intro program world hopen call hcall route hroute
    refine ⟨program.mem_routes_of_flatten hopen hcall hroute, fun pieces hjoinable hpieces => ?_⟩
    have houtcome := (program.result_of_flatten _ call hcall).symm.trans hroute
    have hcompile := RouteCall.compile_of_outcome houtcome
    have htext : (call.scope.base ++ call.call.pattern).toList = pieces.flatMap pattern := by
      rw [call.toList_pieces, List.flatMap_def, ← hpieces, ← List.flatMap_def]
    rw [htext] at hcompile
    rw [Route.expression, String.toList_ofList]
    exact hjoinable.expression_eq hcompile

/-- An empty base pattern, a group, and a pattern that begins with an optional segment. -/
theorem exists_joinable : ∃ root first second,
    Joinable defaultFragment [root, first, second] ∧
    (root.pattern = [] ∧ first.pattern = "/u/\x7bid\x7d".toList ∧
      second.pattern = "/\x7b?tab\x7d".toList) ∧
    compile first.pattern defaultFragment true = .ok first ∧
    compile second.pattern defaultFragment true = .ok second ∧
    ∀ x ∈ first.parameters, ∀ y ∈ second.parameters, x.name ≠ y.name := by
  obtain ⟨root, hroot, hnone⟩ : ∃ root, compile [] defaultFragment true = .ok root ∧
      root.parameters = [] := ⟨_, rfl, rfl⟩
  obtain ⟨first, hfirst, hid⟩ : ∃ first,
      compile "/u/\x7bid\x7d".toList defaultFragment true = .ok first ∧
      first.parameters = [⟨"id".toList, defaultFragment, false⟩] := ⟨_, rfl, rfl⟩
  obtain ⟨second, hsecond, htab⟩ : ∃ second,
      compile "/\x7b?tab\x7d".toList defaultFragment true = .ok second ∧
      second.parameters = [⟨"tab".toList, defaultFragment, true⟩] := ⟨_, rfl, rfl⟩
  have hempty := pattern_of_compile hroot
  have hfront := pattern_of_compile hfirst
  have hback := pattern_of_compile hsecond
  rw [← hempty] at hroot
  rw [← hfront] at hfirst
  rw [← hback] at hsecond
  have hnames : ∀ x ∈ first.parameters, ∀ y ∈ second.parameters, x.name ≠ y.name := by
    rw [hid, htab]
    decide
  have hone : Joinable defaultFragment ([] ++ [root]) :=
    .concat .nil hroot (fun _ hx => absurd hx List.not_mem_nil) fun h => nomatch h
  have htwo : Joinable defaultFragment ([root] ++ [first]) :=
    .concat hone hfirst (by simp [hnone]) (by simp [hempty])
  have hall : Joinable defaultFragment ([root, first] ++ [second]) :=
    .concat htwo hsecond (by simpa [hnone] using hnames) (by simp [hempty, hfront])
  exact ⟨root, first, second, hall, ⟨hempty, hfront, hback⟩, hfirst, hsecond, hnames⟩

/-- A program that registers a route inside of a group. -/
def tabProgram : Program :=
  .group "/u/\x7bid\x7d" (.call (.verb .get "/\x7b?tab\x7d" (.ref (.method "Shop" "show")) none))

/-- An optional placeholder keeps the slash of its own pattern. -/
theorem expression_joined_tab :
    ∃ root first second joined, Joinable defaultFragment [root, first, second] ∧
      compile "/u/\x7bid\x7d/\x7b?tab\x7d".toList defaultFragment true = .ok joined ∧
      joined.expression = "^/u/([^/]+?)(?:/([^/]+?))?$".toList ∧
      joined.expression = '^' :: (first.inner ++ second.inner) ++ ['$'] ∧
      ∃ route ∈ (tabProgram.exec.run {}).2.router.routes,
        route.expression.toList = '^' :: [root, first, second].flatMap inner ++ ['$'] := by
  obtain ⟨root, first, second, hjoinable, hpatterns, hfirst, hsecond, hnames⟩ := exists_joinable
  obtain ⟨joined, hjoined, hexpression⟩ : ∃ joined,
      compile "/u/\x7bid\x7d/\x7b?tab\x7d".toList defaultFragment true = .ok joined ∧
      joined.expression = "^/u/([^/]+?)(?:/([^/]+?))?$".toList := ⟨_, rfl, rfl⟩
  obtain ⟨call, hcall, hpieces, route, hroute⟩ : ∃ call ∈
      (tabProgram.flatten ({} : World).router.config ⟨({} : World).router.base, []⟩).calls,
      call.pieces = ["", "/u/\x7bid\x7d", "/\x7b?tab\x7d"] ∧ ∃ route, call.result = .ok route :=
    ⟨_, List.mem_singleton_self _, rfl, _, rfl⟩
  obtain ⟨hempty, hfront, hback⟩ := hpatterns
  obtain ⟨hpair, hprogram⟩ := expression_joined
  obtain ⟨-, -, hcompiled⟩ := hpair defaultFragment _ _ first second hfirst hsecond hnames
    fun _ => by rw [hback]; decide
  rw [hfront, hback] at hcompiled
  obtain ⟨hmem, hjoin⟩ := hprogram tabProgram {} rfl call hcall route hroute
  refine ⟨root, first, second, joined, hjoinable, hjoined, hexpression,
    (hcompiled true joined hjoined).2, route, hmem, (hjoin _ hjoinable ?_).2⟩
  rw [hpieces]
  simp [hempty, hfront, hback]

end CompiledPattern

end RequestRouter
