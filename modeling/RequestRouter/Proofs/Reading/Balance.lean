import RequestRouter.Proofs.Reading.Construct

/-!
# Balanced constructs

Between the parenthesis that opens a level and the one that closes it the constructs are balanced,
and balanced constructs leave the levels around the innermost one as they are. So what is said of a
run over balanced constructs is said of the innermost level only, by induction on `Balanced`.

Flags for the whole expression come too late once something has been read (`not_flags_of_begun`).
-/

namespace RequestRouter

/-- The header opens a level; the others are complete by themselves. -/
def Opening.descends : Opening → Bool
  | .comment | .flags _ | .again _ => false
  | _ => true

namespace Construct

/-- The construct opens a level. -/
def opens : Construct → Bool
  | .opening header => header.descends
  | _ => false

/-- Constructs whose parentheses match. -/
inductive Balanced : List Construct → Prop
  | nil : Balanced []
  | cons {construct rest} (hopens : opens construct = false) (hclose : construct ≠ .close)
      (hrest : Balanced rest) : Balanced (construct :: rest)
  | bracket {construct body rest} (hopens : opens construct = true) (hbody : Balanced body)
      (hrest : Balanced rest) : Balanced (construct :: (body ++ .close :: rest))

/-- The constructs close `depth` levels that are open before them, and those that they open. -/
def Nests : (depth : Nat) → List Construct → Prop
  | depth, [] => depth = 0
  | depth, construct :: rest =>
    if construct = .close then ∃ inner, depth = inner + 1 ∧ Nests inner rest
    else Nests (if construct.opens then depth + 1 else depth) rest

/-- Up to the first parenthesis that closes a level from before, the constructs are balanced. -/
theorem balanced_of_nests {constructs : List Construct} :
    ∀ {depth : Nat}, Nests depth constructs → (depth = 0 → Balanced constructs) ∧
      ∀ inner, depth = inner + 1 →
        ∃ body rest, constructs = body ++ .close :: rest ∧ Balanced body ∧ Nests inner rest := by
  induction hlen : constructs.length using Nat.strongRecOn generalizing constructs with
  | _ length ih =>
    intro depth h
    cases constructs with
    | nil =>
      obtain rfl : depth = 0 := h
      exact ⟨fun _ => .nil, fun inner h => (nomatch h)⟩
    | cons construct rest =>
      simp only [List.length_cons] at hlen
      unfold Nests at h
      split at h
      · next hclose =>
        obtain ⟨inner, rfl, hrest⟩ := h
        refine ⟨fun h => (nomatch h), ?_⟩
        rintro _ ⟨⟩
        exact ⟨[], rest, by rw [hclose]; rfl, .nil, hrest⟩
      · next hclose =>
        split at h
        · next hopens =>
          obtain ⟨body, others, hsplit, hbody, hothers⟩ :=
            (ih rest.length (by omega) rfl h).2 depth rfl
          have hshort : others.length < length := by
            rw [hsplit, List.length_append, List.length_cons] at hlen
            omega
          obtain ⟨hzero, hsucc⟩ := ih others.length hshort rfl hothers
          subst hsplit
          refine ⟨fun h => .bracket hopens hbody (hzero h), fun inner h => ?_⟩
          obtain ⟨body', rest', rfl, hbody', hrest'⟩ := hsucc inner h
          refine ⟨construct :: (body ++ .close :: body'), rest', ?_, .bracket hopens hbody hbody',
            hrest'⟩
          simp
        · next hopens =>
          obtain ⟨hzero, hsucc⟩ := ih rest.length (by omega) rfl h
          have hopens : construct.opens = false := by simpa using hopens
          refine ⟨fun h => .cons hopens hclose (hzero h), fun inner h => ?_⟩
          obtain ⟨body, rest', rfl, hbody, hrest'⟩ := hsucc inner h
          exact ⟨construct :: body, rest', rfl, .cons hopens hclose hbody, hrest'⟩

theorem Balanced.nests_append {body rest : List Construct} (h : Balanced body) {depth : Nat}
    (hrest : Nests depth rest) : Nests depth (body ++ rest) := by
  induction h generalizing depth rest with
  | nil => exact hrest
  | cons hopens hclose _ ih =>
    rw [List.cons_append, Nests, if_neg hclose, hopens]
    exact ih hrest
  | @bracket construct body _ hopens _ _ ihbody ihrest =>
    have hclose : construct ≠ .close := by
      rintro rfl
      cases hopens
    rw [List.cons_append, List.append_assoc, Nests, if_neg hclose, if_pos hopens]
    refine ihbody ?_
    rw [List.cons_append, Nests, if_pos rfl]
    exact ⟨depth, rfl, ihrest hrest⟩

/-- Constructs that close none of the levels before them, and all of their own, are balanced. -/
theorem nests_zero_iff {constructs : List Construct} :
    Nests 0 constructs ↔ Balanced constructs := by
  constructor
  · intro h
    exact (balanced_of_nests h).1 rfl
  · intro h
    have hnil : Nests 0 [] := rfl
    have hnests := h.nests_append hnil
    rwa [List.append_nil] at hnests

end Construct

/-- The flags in force inside of a parenthesis. -/
def Opening.modeIn (mode : Mode) : Opening → Mode
  | .scoped on off => mode.withScoped on off
  | _ => mode

/-- The construct switches on that white space and remarks are skipped. -/
def Construct.setsVerbose : Construct → Bool
  | .opening (.flags on) | .opening (.scoped on _) => on.contains .verbose
  | _ => false

namespace Mode

theorem verbose_set {mode : Mode} {value : Bool} {flag : Flag}
    (h : flag = .verbose → value = false) (hmode : mode.verbose = false) :
    (mode.set value flag).verbose = false := by
  cases flag with
  | verbose => exact h rfl
  | _ => exact hmode

theorem verbose_foldl_set {mode : Mode} {value : Bool} {flags : List Flag}
    (hflags : ∀ flag ∈ flags, flag = .verbose → value = false) (hmode : mode.verbose = false) :
    (flags.foldl (·.set value) mode).verbose = false := by
  induction flags generalizing mode with
  | nil => exact hmode
  | cons flag flags ih =>
    obtain ⟨hflag, hothers⟩ := List.forall_mem_cons.mp hflags
    exact ih hothers (verbose_set hflag hmode)

variable {mode : Mode} {on : List Flag} (hon : on.contains .verbose = false)
  (hmode : mode.verbose = false)

include hon hmode

theorem verbose_withGlobal : (mode.withGlobal on).verbose = false := by
  refine verbose_foldl_set (fun flag hflag heq => ?_) hmode
  subst heq
  rw [List.contains_iff_mem.mpr hflag] at hon
  cases hon

theorem verbose_withScoped (off : List Flag) : (mode.withScoped on off).verbose = false := by
  unfold withScoped
  refine verbose_foldl_set (fun _ _ _ => rfl) (verbose_withGlobal hon ?_)
  split <;> exact hmode

end Mode

theorem Opening.verbose_modeIn {header : Opening} {mode : Mode}
    (hset : Construct.setsVerbose (.opening header) = false) (hmode : mode.verbose = false) :
    (header.modeIn mode).verbose = false := by
  cases header with
  | «scoped» on off => exact Mode.verbose_withScoped hset hmode off
  | _ => exact hmode

namespace Draft

/-- The level has one more piece, and the levels around it are as they were. -/
def Pushed (d d' : Draft) : Prop :=
  d'.outer = d.outer ∧ ∃ piece, d'.level = d.level.push piece

/-- What a construct does to the levels. -/
def Shape (d d' : Draft) : Construct → Prop
  | .letter _ | .escape _ | .dot | .edge _ | .oneOf _ | .opening (.again _) => Pushed d d'
  | .quantifier _ _ =>
    d'.outer = d.outer ∧ ∃ piece before piece', d.level.pieces = piece :: before ∧
      d'.level = { d.level with pieces := piece' :: before }
  | .close =>
    ∃ around outer, d.outer = around :: outer ∧ d' = d.ascend around outer
  | .bar =>
    d'.outer = d.outer ∧
      d'.level = { d.level with branches := d.level.branch :: d.level.branches, pieces := [] }
  | .layout | .remark | .opening .comment => d' = d
  | .opening (.flags on) =>
    d.outer = [] ∧ d.level.branches = [] ∧ d.level.pieces = [] ∧
      d' = { d with level := { d.level with mode := d.level.mode.withGlobal on } }
  | .opening header =>
    d'.outer = d.level :: d.outer ∧
      ∃ opener left, d'.level = { opener, left, mode := header.modeIn d.level.mode }

variable {d d' : Draft} {left : Nat} {after : Units} {construct : Construct}

/-- The group that a choice asks for is found without touching the levels. -/
theorem level_of_testedGroup {name : List Char} {number : Nat}
    (h : d.testedGroup name after = .ok (number, d')) :
    d'.level = d.level ∧ d'.outer = d.outer := by
  unfold testedGroup at h
  dsimp only at h
  split at h
  · split at h
    · cases h
      exact ⟨rfl, rfl⟩
    · cases h
  · split at h
    · cases h
    · split at h
      · cases h
      · split at h
        · cases h
        · split at h
          · cases h
          · cases h
            exact ⟨rfl, rfl⟩

theorem shape_of_openWith {header : Opening} (h : d.openWith left after header = .ok d') :
    d.Shape d' (.opening header) := by
  cases header with
  | capture =>
    cases h
    exact ⟨rfl, _, _, rfl⟩
  | named name =>
    unfold openWith at h
    dsimp only at h
    split at h
    · cases h
    · cases h
      exact ⟨rfl, _, _, rfl⟩
  | «scoped» on off =>
    cases h
    exact ⟨rfl, _, _, rfl⟩
  | atomic =>
    cases h
    exact ⟨rfl, _, _, rfl⟩
  | look behind negated =>
    cases h
    exact ⟨rfl, _, _, rfl⟩
  | test name =>
    obtain ⟨⟨number, tested⟩, htested, h⟩ := exists_of_bind_ok h
    obtain ⟨_, -, h⟩ := exists_of_bind_ok h
    obtain ⟨hlevel, houter⟩ := level_of_testedGroup htested
    cases h
    refine ⟨?_, .test number, left, ?_⟩
    · show tested.level :: tested.outer = _
      rw [hlevel, houter]
    · show ({ opener := .test number, left, mode := tested.level.mode } : Level) = _
      rw [hlevel]
      rfl
  | comment =>
    cases h
    rfl
  | flags on =>
    simp only [openWith] at h
    split at h
    · next hblank =>
      simp only [Bool.and_eq_true, List.isEmpty_iff] at hblank
      cases h
      exact ⟨hblank.1.1, hblank.1.2, hblank.2, rfl⟩
    · cases h
  | again name =>
    unfold openWith at h
    dsimp only at h
    split at h
    · cases h
    · split at h
      · cases h
      · obtain ⟨_, -, h⟩ := exists_of_bind_ok h
        cases h
        exact ⟨rfl, _, rfl⟩

theorem shape_of_take (h : d.take left after construct = some d') : d.Shape d' construct := by
  cases construct with
  | letter c =>
    cases h
    exact ⟨rfl, _, rfl⟩
  | escape meaning =>
    obtain ⟨piece, -, rfl⟩ := Option.map_eq_some_iff.mp h
    exact ⟨rfl, _, rfl⟩
  | dot =>
    cases h
    exact ⟨rfl, _, rfl⟩
  | edge last => cases last <;> cases h <;> exact ⟨rfl, _, rfl⟩
  | oneOf test =>
    cases h
    exact ⟨rfl, _, rfl⟩
  | quantifier bounds greed =>
    have h : d.repeated? bounds greed = some d' := h
    unfold repeated? at h
    split at h
    · cases h
    · cases h
    · cases h
    · next hpieces =>
      cases h
      exact ⟨rfl, _, _, _, hpieces, rfl⟩
  | opening header => exact shape_of_openWith (toOption_eq_some.mp h)
  | close =>
    simp only [take] at h
    split at h
    · cases h
    · next around outer houter =>
      cases h
      exact ⟨around, outer, houter, rfl⟩
  | bar =>
    have h := toOption_eq_some.mp h
    unfold alternate at h
    dsimp only at h
    split at h
    · split at h
      · cases h
        exact ⟨rfl, rfl⟩
      · cases h
    · cases h
      exact ⟨rfl, rfl⟩
  | layout =>
    cases h
    rfl
  | remark =>
    cases h
    rfl

/-- A construct that opens nothing and closes nothing leaves the levels around as they are. -/
theorem outer_of_take (h : d.take left after construct = some d') (hopens : construct.opens = false)
    (hclose : construct ≠ .close) : d'.outer = d.outer := by
  have hshape := shape_of_take h
  cases construct with
  | letter | escape | dot | edge | oneOf | quantifier | bar => exact hshape.1
  | layout | remark =>
    obtain rfl := hshape
    rfl
  | close => exact absurd rfl hclose
  | opening header =>
    cases header with
    | again => exact hshape.1
    | comment =>
      obtain rfl := hshape
      rfl
    | flags =>
      obtain ⟨-, -, -, rfl⟩ := hshape
      rfl
    | _ => cases hopens

/-- Nor does it change what the innermost level was opened with, and only flags change its mode. -/
theorem frame_of_take (h : d.take left after construct = some d') (hopens : construct.opens = false)
    (hclose : construct ≠ .close) :
    d'.level.opener = d.level.opener ∧
      ((∀ on, construct ≠ .opening (.flags on)) → d'.level.mode = d.level.mode) := by
  have hshape := shape_of_take h
  cases construct with
  | letter | escape | dot | edge | oneOf =>
    obtain ⟨-, _, hlevel⟩ := hshape
    rw [hlevel]
    exact ⟨rfl, fun _ => rfl⟩
  | quantifier =>
    obtain ⟨-, _, _, _, -, hlevel⟩ := hshape
    rw [hlevel]
    exact ⟨rfl, fun _ => rfl⟩
  | bar =>
    rw [hshape.2]
    exact ⟨rfl, fun _ => rfl⟩
  | layout | remark =>
    obtain rfl := hshape
    exact ⟨rfl, fun _ => rfl⟩
  | close => exact absurd rfl hclose
  | opening header =>
    cases header with
    | again =>
      obtain ⟨-, _, hlevel⟩ := hshape
      rw [hlevel]
      exact ⟨rfl, fun _ => rfl⟩
    | comment =>
      obtain rfl := hshape
      exact ⟨rfl, fun _ => rfl⟩
    | flags on =>
      obtain ⟨-, -, -, rfl⟩ := hshape
      exact ⟨rfl, fun hflags => absurd rfl (hflags on)⟩
    | _ => cases hopens

/-- A construct that opens a level puts it on top, with nothing in it. -/
theorem level_of_take_opens (h : d.take left after construct = some d')
    (hopens : construct.opens = true) : d'.outer = d.level :: d.outer ∧
      ∃ header opener left, construct = .opening header ∧
        d'.level = { opener, left, mode := header.modeIn d.level.mode } := by
  have hshape := shape_of_take h
  cases construct with
  | opening header =>
    cases header with
    | again | comment | flags => cases hopens
    | _ =>
      obtain ⟨houter, opener, left, hlevel⟩ := hshape
      exact ⟨houter, _, opener, left, rfl, hlevel⟩
  | _ => cases hopens

theorem outer_of_take_opens (h : d.take left after construct = some d')
    (hopens : construct.opens = true) : d'.outer = d.level :: d.outer :=
  (level_of_take_opens h hopens).1

theorem nests_of_reads {units rest : Units} {constructs : List Construct}
    (h : Reads d units constructs d' rest) (hd' : d'.outer = []) :
    Construct.Nests d.outer.length constructs := by
  induction h with
  | done => exact congrArg List.length hd'
  | @next d unit rest construct after d₁ constructs e left hread htake hrest ih =>
    have hrest := ih hd'
    unfold Construct.Nests
    by_cases hclose : construct = .close
    · subst hclose
      obtain ⟨around, outer, houter, rfl⟩ := shape_of_take htake
      rw [if_pos rfl]
      exact ⟨outer.length, by rw [houter]; rfl, hrest⟩
    · rw [if_neg hclose]
      cases hopens : construct.opens with
      | true =>
        rw [outer_of_take_opens htake hopens] at hrest
        exact hrest
      | false =>
        rw [outer_of_take htake hopens hclose] at hrest
        exact hrest

/-! ## Where nothing is skipped -/

/-- No open level skips white space. -/
def SkipsNothing (d : Draft) : Prop := ∀ level ∈ d.level :: d.outer, level.mode.verbose = false

theorem skipsNothing_start (left : Nat) : (start left).SkipsNothing := by
  simp [SkipsNothing, start]

theorem skipsNothing_of_take (h : d.take left after construct = some d')
    (hset : construct.setsVerbose = false) (hd : d.SkipsNothing) : d'.SkipsNothing := by
  obtain ⟨hlevel, houter⟩ := List.forall_mem_cons.mp hd
  have hshape := shape_of_take h
  by_cases hclose : construct = .close
  · subst hclose
    obtain ⟨around, outer, hd', rfl⟩ := hshape
    rw [hd'] at houter
    exact List.forall_mem_cons.mpr (List.forall_mem_cons.mp houter)
  · cases hopens : construct.opens with
    | true =>
      obtain ⟨houter', header, opener, left, rfl, hlevel'⟩ := level_of_take_opens h hopens
      refine List.forall_mem_cons.mpr ⟨?_, ?_⟩
      · rw [hlevel']
        exact Opening.verbose_modeIn hset hlevel
      · rw [houter']
        exact hd
    | false =>
      refine List.forall_mem_cons.mpr ⟨?_, ?_⟩
      · by_cases hflags : ∃ on, construct = .opening (.flags on)
        · obtain ⟨on, rfl⟩ := hflags
          obtain ⟨-, -, -, rfl⟩ := hshape
          exact Mode.verbose_withGlobal hset hlevel
        · rw [(frame_of_take h hopens hclose).2 (not_exists.mp hflags)]
          exact hlevel
      · rw [outer_of_take h hopens hclose]
        exact houter

/-- Without a flag for it, no line is skipped. -/
theorem not_remark_of_reads {units rest : Units} {constructs : List Construct}
    (h : Reads d units constructs d' rest) (hd : d.SkipsNothing)
    (hset : ∀ construct ∈ constructs, construct.setsVerbose = false) : .remark ∉ constructs := by
  induction h with
  | done => exact List.not_mem_nil
  | next hread htake _ ih =>
    obtain ⟨hfirst, hothers⟩ := List.forall_mem_cons.mp hset
    intro hmem
    rcases List.mem_cons.mp hmem with rfl | hmem
    · have hverbose : _ = true := Construct.begins_of_read hread
      rw [hd _ List.mem_cons_self] at hverbose
      cases hverbose
    · exact ih (skipsNothing_of_take htake hfirst hd) hothers hmem

/-! ## Where flags come too late -/

/-- Something has been read. -/
def Begun (d : Draft) : Prop := d.outer ≠ [] ∨ d.level.branches ≠ [] ∨ d.level.pieces ≠ []

variable {units rest : Units} {cs : List Construct}

/-- Once something has been read that stays so, and flags for the whole expression come too late. -/
theorem begun_of_take (hd : d.Begun)
    (h : d.take left after construct = some d') :
    d'.Begun ∧ ∀ on, construct ≠ .opening (.flags on) := by
  have hshape := shape_of_take h
  cases construct with
  | letter | escape | dot | edge | oneOf =>
    obtain ⟨-, _, hlevel⟩ := hshape
    exact ⟨.inr (.inr (by simp [hlevel, Level.push])), by rintro _ ⟨⟩⟩
  | quantifier =>
    obtain ⟨-, _, _, _, -, hlevel⟩ := hshape
    exact ⟨.inr (.inr (by simp [hlevel])), by rintro _ ⟨⟩⟩
  | close =>
    obtain ⟨_, _, -, rfl⟩ := hshape
    exact ⟨.inr (.inr (by simp [ascend, Level.push])), by rintro _ ⟨⟩⟩
  | bar => exact ⟨.inr (.inl (by simp [hshape.2])), by rintro _ ⟨⟩⟩
  | layout | remark =>
    obtain rfl := hshape
    exact ⟨hd, by rintro _ ⟨⟩⟩
  | opening header =>
    cases header with
    | again =>
      obtain ⟨-, _, hlevel⟩ := hshape
      exact ⟨.inr (.inr (by simp [hlevel, Level.push])), by rintro _ ⟨⟩⟩
    | comment =>
      obtain rfl := hshape
      exact ⟨hd, by rintro _ ⟨⟩⟩
    | flags =>
      obtain ⟨houter, hbranches, hpieces, -⟩ := hshape
      rcases hd with hd | hd | hd
      · exact absurd houter hd
      · exact absurd hbranches hd
      · exact absurd hpieces hd
    | _ => exact ⟨.inl (by simp [hshape.1]), by rintro _ ⟨⟩⟩

theorem not_flags_of_begun (h : Reads d units cs d' rest) (hd : d.Begun) (on : List Flag) :
    .opening (.flags on) ∉ cs := by
  induction h with
  | done => exact fun hmem => nomatch hmem
  | next _ htake _ ih =>
    obtain ⟨hbegun, hflags⟩ := begun_of_take hd htake
    intro hmem
    rcases List.mem_cons.mp hmem with heq | hmem
    · exact hflags on heq.symm
    · exact ih hbegun hmem

end Draft

end RequestRouter
