import RequestRouter.Proofs.Reading.Simple

/-!
# A fragment inside of a larger expression

Simple constructs are read inside of a larger expression as they are read alone, with the groups
numbered further on by as many as are open there before (`Draft.Runs.shifted`). The only thing that
can go wrong is a name: a named group needs one that is not taken, so the statement asks that there
are no names or that the larger text can be read to its end.
-/

namespace RequestRouter

/-- The piece with its groups numbered further on. -/
def Piece.shift (count : Nat) : Piece → Piece
  | .anchor a => .anchor a
  | .atom r => .atom (r.shift count)
  | .repeated r => .repeated (r.shift count)
  | .group parts => .group (parts.map (Part.shift count))

namespace Piece

variable {count : Nat}

theorem parts_shift (piece : Piece) : (piece.shift count).parts =
    piece.parts.map (Part.shift count) := by
  cases piece <;> rfl

theorem regex_shift (piece : Piece) : (piece.shift count).regex = piece.regex.shift count := by
  rw [regex, parts_shift, Part.termOf_shift]
  rfl

end Piece

namespace Draft

/-- The innermost levels hold the same, in the second draft with groups numbered further on. -/
structure Shifted (count : Nat) (d e : Draft) : Prop where
  mode : e.level.mode = d.level.mode
  pieces : e.level.pieces = d.level.pieces.map (Piece.shift count)
  branches : e.level.branches = d.level.branches.map (List.map (Part.shift count))
  groups : e.groups = d.groups + count
  tests : e.tests = []
  opener : ∀ number, e.level.opener ≠ .test number

namespace Shifted

variable {count : Nat} {d d' e e' : Draft} {left left' : Nat} {after after' : Units}
  {construct : Construct} {possessive : Bool}

theorem branch (h : Shifted count d e) :
    e.level.branch = d.level.branch.map (Part.shift count) := by
  simp only [Level.branch, h.pieces, ← List.map_reverse, List.flatMap_map, List.map_flatMap,
    Piece.parts_shift]

theorem content (h : Shifted count d e) :
    e.level.content = d.level.content.map (Part.shift count) := by
  rw [Level.content, Level.content, ← Part.joined_shift, h.mode, h.branch, h.branches,
    ← List.map_cons, List.map_reverse]

theorem term (h : Shifted count d e) : e.level.term = d.level.term.shift count := by
  rw [Level.term, Level.term, h.content, Part.termOf_shift]

theorem push (h : Shifted count d e) (piece : Piece) :
    Shifted count (d.push piece) (e.push (piece.shift count)) where
  mode := h.mode
  pieces := by simp [Draft.push, Level.push, h.pieces]
  branches := h.branches
  groups := h.groups
  tests := h.tests
  opener := h.opener

/-- A simple construct that is no parenthesis does the same to both. -/
theorem take (h : Shifted count d e) (hsimple : construct.isSimple possessive = true)
    (hopens : construct.opens = false) (hclose : construct ≠ .close)
    (htake : d.take left after construct = some d') :
    ∃ e', e.take left' after' construct = some e' ∧ Shifted count d' e' ∧ e'.outer = e.outer := by
  rcases Construct.cases_of_isSimple hsimple hopens hclose with htest | ⟨bounds, greed, rfl,
    -⟩ | rfl
  · obtain ⟨test, htest⟩ := htest d.level.mode
    rw [take_of_test? htest] at htake
    cases htake
    rw [← h.mode] at htest
    exact ⟨_, take_of_test? htest, h.push (.atom (.one test)), rfl⟩
  · have hrepeat : d.repeated? bounds greed = some d' := htake
    obtain ⟨piece, before, hpieces, rfl⟩ := repeated?_eq_some hrepeat
    have hpieces' : e.level.pieces = piece.shift count :: before.map (Piece.shift count) := by
      rw [h.pieces, hpieces, List.map_cons]
    have hagain : e.repeated? bounds greed = some { e with level := { e.level with
        pieces := .repeated (.loop greed bounds.least bounds.most (piece.shift count).regex) ::
          before.map (Piece.shift count) } } := by
      unfold repeated? at hrepeat ⊢
      rw [hpieces] at hrepeat
      rw [hpieces']
      cases piece with
      | anchor | repeated => cases hrepeat
      | atom | group => rfl
    refine ⟨_, hagain, ?_, rfl⟩
    exact
      { mode := h.mode
        pieces := by
          rw [Piece.regex_shift]
          rfl
        branches := h.branches
        groups := h.groups
        tests := h.tests
        opener := h.opener }
  · obtain rfl := take_bar htake
    have hbar : e.alternate after' = .ok { e with level := { e.level with
        branches := e.level.branch :: e.level.branches, pieces := [] } } := by
      unfold alternate
      split
      · next number hopener => exact absurd hopener (h.opener number)
      · rfl
    refine ⟨_, toOption_eq_some.mpr hbar, ?_, rfl⟩
    exact
      { mode := h.mode
        pieces := rfl
        branches := by simp [h.branch, h.branches]
        groups := h.groups
        tests := h.tests
        opener := h.opener }

/-- A simple parenthesis opens the same in both, whatever stands before it. -/
theorem openWith {header : Opening} (hmode : e.level.mode = d.level.mode)
    (hgroups : e.groups = d.groups + count) (htests : e.tests = []) (hsimple : header.isSimple =
      true)
    (hopen : d.openWith left after header = .ok d')
    (hopen' : e.openWith left' after' header = .ok e') : Shifted count d' e' := by
  obtain ⟨hlevel, hcount, -, -⟩ := openWith_of_isSimple hsimple hopen
  obtain ⟨hlevel', hcount', -, hkept⟩ := openWith_of_isSimple hsimple hopen'
  refine ⟨?_, ?_, ?_, ?_, hkept.trans htests, ?_⟩
  · rw [hlevel, hlevel']
    exact hmode
  · rw [hlevel, hlevel']
    rfl
  · rw [hlevel, hlevel']
    rfl
  · rw [hcount, hcount', hgroups]
    split <;> omega
  · intro number
    rw [hlevel']
    split <;> exact fun heq => nomatch heq

theorem closedParts {d₁ e₁ : Draft} {header : Opening} {units units' rest rest' : Units}
    {body : List Construct} (hsimple : header.isSimple = true)
    (hopen : d.openWith left after header = .ok d₁)
    (hopen' : e.openWith left' after' header = .ok e₁) (h₁ : Shifted count d₁ e₁)
    (hbody : Runs d₁ units body d' rest) (hbody' : Reads e₁ units' body e' rest')
    (h : Shifted count d' e') : e'.closedParts = d'.closedParts.map (Part.shift count) := by
  have hopener := hbody.opener
  have hopener' := (runs_of_reads hbody.balanced hbody').opener
  rw [(openWith_of_isSimple hsimple hopen).1] at hopener
  rw [(openWith_of_isSimple hsimple hopen').1, h₁.groups] at hopener'
  rw [closedParts_of_opener hopener, closedParts_of_opener hopener', h.content, h.term]
  cases header.captures <;> rfl

theorem ascend {d₂ e₂ : Draft} (h : Shifted count d e) (h₂ : Shifted count d₂ e₂)
    (hclosed : e₂.closedParts = d₂.closedParts.map (Part.shift count)) :
    Shifted count (d₂.ascend d.level d.outer) (e₂.ascend e.level e.outer) where
  mode := h.mode
  pieces := by simp [Draft.ascend, Level.push, Piece.shift, h.pieces, hclosed]
  branches := h.branches
  groups := by rw [ascend_groups, ascend_groups, h₂.groups]
  tests := by rw [ascend_tests, h₂.tests]
  opener := h.opener

end Shifted

theorem exists_openWith {e : Draft} {left : Nat} {after : Units} {header : Opening}
    (hsimple : header.isSimple = true)
    (hgo : (∀ name, header ≠ .named name) ∨ ∃ e₁, e.take left after (.opening header) = some e₁) :
    ∃ e₁, e.openWith left after header = .ok e₁ := by
  rcases hgo with hname | ⟨e₁, htake⟩
  · cases header with
    | named name => exact absurd rfl (hname name)
    | capture | «scoped» => exact ⟨_, rfl⟩
    | _ => cases hsimple
  · exact ⟨e₁, toOption_eq_some.mp htake⟩

/-- A simple parenthesis is read inside of a larger text as it is read alone, if what it encloses
is. -/
theorem reads_bracket {d d₁ d₂ e : Draft} {unit : Lexeme} {rest after inner more : Units}
    {header : Opening} {body : List Construct} {count : Nat} (hmode : e.level.mode = d.level.mode)
    (hgroups : e.groups = d.groups + count) (htests : e.tests = []) (hsimple : header.isSimple =
      true)
    (hdescends : header.descends = true)
    (hread : Construct.read d.level.mode unit rest = .ok (.opening header, after))
    (hopen : d.openWith rest.width after header = .ok d₁)
    (hbody : Runs d₁ after body d₂ (.char ')' :: inner)) (hsealed :
      Units.Sealed (unit :: rest) more)
    (hgo : (∀ name, .opening (.named name) ∉ .opening header :: body) ∨
      e.Goes (unit :: rest ++ more))
    (henclosed : ∀ e₁, Shifted count d₁ e₁ →
      ((∀ name, .opening (.named name) ∉ body) ∨ e₁.Goes (after ++ more)) →
      ∃ e₂, Reads e₁ (after ++ more) body e₂ (.char ')' :: (inner ++ more)) ∧ Shifted count d₂ e₂ ∧
        e₂.outer = e₁.outer) :
    ∃ e₂, Reads e (unit :: rest ++ more) (.opening header :: (body ++ [.close]))
        (e₂.ascend e.level e.outer) (inner ++ more) ∧ Shifted count d₂ e₂ ∧
      e₂.closedParts = d₂.closedParts.map (Part.shift count) := by
  have hread' := (Construct.read_append hread hsealed).2 fun heq => nomatch heq
  rw [← hmode] at hread'
  obtain ⟨e₁, hopen'⟩ : ∃ e₁, e.openWith (rest ++ more).width (after ++ more) header = .ok e₁ := by
    refine exists_openWith hsimple ?_
    rcases hgo with h | h
    · exact .inl fun name heq => h name (heq ▸ List.mem_cons_self)
    · obtain ⟨e₁, htake, -⟩ := h.next hread'
      exact .inr ⟨e₁, htake⟩
  have htake : e.take (rest ++ more).width (after ++ more) (.opening header) = some e₁ :=
    toOption_eq_some.mpr hopen'
  have he₁ := Shifted.openWith hmode hgroups htests hsimple hopen hopen'
  obtain ⟨e₂, hreads, he₂, houter⟩ := henclosed e₁ he₁
    (hgo.imp (fun h name hmem => h name (List.mem_cons_of_mem _ hmem))
      fun h => h.after (.next hread' htake .done))
  rw [outer_of_take_opens htake hdescends] at houter
  refine ⟨e₂, ?_, he₂, Shifted.closedParts hsimple hopen hopen' he₁ hbody hreads he₂⟩
  exact .next hread' htake (hreads.trans (reads_close houter (inner ++ more)))

namespace Runs

variable {d d' e : Draft} {units left : Units} {cs : List Construct} {possessive : Bool}
  {count : Nat}

/-- Simple constructs are read inside of a larger text as they are read alone. -/
theorem shifted {more : Units} (h : Runs d units cs d' left)
    (hsimple : ∀ c ∈ cs, c.isSimple possessive = true) (he : Shifted count d e)
    (hsealed : units ≠ [] → Units.Sealed units more)
    (hgo : (∀ name, .opening (.named name) ∉ cs) ∨ e.Goes (units ++ more)) :
    ∃ e', Reads e (units ++ more) cs e' (left ++ more) ∧ Shifted count d' e' ∧
      e'.outer = e.outer := by
  induction h generalizing e with
  | nil => exact ⟨e, .done, he, rfl⟩
  | @cons d unit rest construct after d₁ others d' left hopens hclose hread htake _ ih =>
    have hone := hsimple _ List.mem_cons_self
    have hothers := fun c hc => hsimple c (List.mem_cons_of_mem _ hc)
    have hs := hsealed (List.cons_ne_nil _ _)
    obtain ⟨hsuffix, hread'⟩ := Construct.read_append hread hs
    have hread' := hread' fun heq => by rw [heq] at hone; cases hone
    rw [← he.mode] at hread'
    obtain ⟨e₁, htake', he₁, houter₁⟩ := he.take hone hopens hclose htake
    have hgo₁ := hgo.imp (fun h name hmem => h name (List.mem_cons_of_mem _ hmem))
      fun h => h.after (.next hread' htake' .done)
    obtain ⟨e', hreads, he', houter⟩ := ih hothers he₁
      (hs.suffix (hsuffix.trans (List.suffix_cons _ _))) hgo₁
    exact ⟨e', .next hread' htake' hreads, he', houter.trans houter₁⟩
  | @bracket d unit rest header after d₁ body d₂ inner others d' left hdescends hread hopen hbody _
      ihbody ih =>
    have hheader : header.isSimple = true := hsimple _ List.mem_cons_self
    have hinner := fun c hc => hsimple c (List.mem_cons_of_mem _ (List.mem_append_left _ hc))
    have hothers := fun c hc => hsimple c
      (List.mem_cons_of_mem _ (List.mem_append_right _ (List.mem_cons_of_mem _ hc)))
    have hs := hsealed (List.cons_ne_nil _ _)
    have hsuffix : after <:+ unit :: rest :=
      (Construct.read_suffix hread).trans (List.suffix_cons _ _)
    have hgo₁ : (∀ name, .opening (.named name) ∉ .opening header :: body) ∨
        e.Goes (unit :: rest ++ more) := by
      refine hgo.imp_left fun h name hmem => h name ?_
      rcases List.mem_cons.mp hmem with hmem | hmem
      · exact hmem ▸ List.mem_cons_self
      · exact List.mem_cons_of_mem _ (List.mem_append_left _ hmem)
    obtain ⟨e₂, hreads₂, he₂, hclosed⟩ := reads_bracket he.mode he.groups he.tests hheader hdescends
      hread hopen hbody hs hgo₁ fun e₁ he₁ h => ihbody hinner he₁ (hs.suffix hsuffix) h
    have hgo₂ := hgo.imp (fun h name hmem => h name (List.mem_cons_of_mem _
      (List.mem_append_right _ (List.mem_cons_of_mem _ hmem)))) fun h => h.after hreads₂
    have hinnerSuffix := ((List.suffix_cons (.char ')') inner).trans hbody.reads.suffix).trans
        hsuffix
    obtain ⟨e', hreads, he', houter⟩ :=
        ih hothers (he.ascend he₂ hclosed) (hs.suffix hinnerSuffix) hgo₂
    refine ⟨e', ?_, he', houter⟩
    have hall := hreads₂.trans hreads
    simpa using hall

end Runs

end Draft

end RequestRouter
