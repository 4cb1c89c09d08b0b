import RequestRouter.Proofs.Reading.Runs

/-!
# How a level grows inside of a larger expression

Any constructs that are read alone are read inside of a larger expression as the same constructs, if
that expression can be read at all. What holds between the two drafts is kept if each construct and
each parenthesis as a whole keeps it (`Draft.Runs.alongside`). In particular, the level they stand in
has as many more alternatives as they have by themselves. While that is none, only pieces are added,
and those that stood there before are still in front of them (`Draft.Runs.grown`).
-/

namespace RequestRouter

namespace Draft

/-- Relations between what is read alone and what is read inside of a larger expression, kept by the
constructs that are allowed. What a parenthesis encloses has a relation of its own. -/
structure Alongside {ι : Type} (allowed : Construct → Prop) (relation : ι → Draft → Draft → Prop) :
    Prop where
  mode : ∀ {i d e}, relation i d e → e.level.mode = d.level.mode
  take : ∀ {i d d' e e' left left' after after' construct}, relation i d e → allowed construct →
    construct.opens = false → construct ≠ .close → d.take left after construct = some d' →
      e.take left' after' construct = some e' → relation i d' e'
  bracket : ∀ {i d d₁ e e₁ left left' after after' header}, relation i d e →
    allowed (.opening header) → header.descends = true →
      d.openWith left after header = .ok d₁ → e.openWith left' after' header = .ok e₁ →
        ∃ j, relation j d₁ e₁ ∧ ∀ d₂ e₂, relation j d₂ e₂ →
          relation i (d₂.ascend d.level d.outer) (e₂.ascend e.level e.outer)

/-- What is read alone is read inside of a larger text that can be read, and the relation is kept. A
line that is skipped to the end of the units could go on in the larger text. -/
theorem Runs.alongside {ι : Type} {allowed : Construct → Prop} {relation : ι → Draft → Draft → Prop}
    {i : ι} {d d' e : Draft} {units rest more : Units} {cs : List Construct}
    (h : Runs d units cs d' rest) (hkeeps : Alongside allowed relation)
    (hallowed : ∀ c ∈ cs, allowed c) (he : relation i d e)
    (hremark : rest ≠ [] ∨ d.level.mode.verbose = false ∧ ∀ on, .opening (.flags on) ∉ cs)
    (hsealed : units ≠ [] → Units.Sealed units more) (hgo : e.Goes (units ++ more)) :
    ∃ e', Reads e (units ++ more) cs e' (rest ++ more) ∧ relation i d' e' := by
  induction h generalizing i e with
  | nil => exact ⟨e, .done, he⟩
  | @cons d unit units construct after d₁ others d' rest hopens hclose hread htake hrest ih =>
    have hs := hsealed (List.cons_ne_nil _ _)
    obtain ⟨hsuffix, hread'⟩ := Construct.read_append hread hs
    have hread' := hread' (by
      rintro rfl rfl
      rcases hremark with hleft | ⟨hverbose, -⟩
      · exact hleft (List.suffix_nil.mp hrest.reads.suffix)
      · rw [Construct.begins_of_read hread] at hverbose
        cases hverbose)
    rw [← hkeeps.mode he] at hread'
    obtain ⟨e₁, htake', hgo₁⟩ := hgo.next hread'
    have hremark₁ : rest ≠ [] ∨ d₁.level.mode.verbose = false ∧ ∀ on,
        .opening (.flags on) ∉ others := by
      refine hremark.imp_right fun ⟨hverbose, hflags⟩ =>
        ⟨?_, fun on hmem => hflags on (.tail _ hmem)⟩
      rw [(frame_of_take htake hopens hclose).2 fun on heq => hflags on (heq ▸ .head _)]
      exact hverbose
    have he₁ := hkeeps.take he (hallowed _ List.mem_cons_self) hopens hclose htake htake'
    obtain ⟨e', hreads, he'⟩ := ih (fun c hc => hallowed c (List.mem_cons_of_mem _ hc)) he₁ hremark₁
      (hs.suffix (hsuffix.trans (List.suffix_cons _ _))) hgo₁
    exact ⟨e', .next hread' htake' hreads, he'⟩
  | @bracket d unit units header after d₁ body d₂ inner others d' rest hdescends hread hopen hbody _
      ihbody ih =>
    have hs := hsealed (List.cons_ne_nil _ _)
    obtain ⟨hsuffix, hread'⟩ := Construct.read_append hread hs
    have hread' := hread' (by rintro ⟨⟩)
    rw [← hkeeps.mode he] at hread'
    -- open the parenthesis
    obtain ⟨e₁, htake', hgo₁⟩ := hgo.next hread'
    obtain ⟨j, he₁, hclose⟩ := hkeeps.bracket he (hallowed _ List.mem_cons_self) hdescends hopen
      (toOption_eq_some.mp htake')
    -- read what it encloses
    have hsuffix := hsuffix.trans (List.suffix_cons unit units)
    obtain ⟨e₂, hreads₂, he₂⟩ := ihbody
      (fun c hc => hallowed c (List.mem_cons_of_mem _ (List.mem_append_left _ hc))) he₁
      (.inl (List.cons_ne_nil _ _)) (hs.suffix hsuffix) hgo₁
    have houter₂ := (runs_of_reads hbody.balanced hreads₂).outer.trans
      (outer_of_take_opens htake' hdescends)
    -- close it
    have hreads₃ := hreads₂.trans (reads_close houter₂ (inner ++ more))
    have hinner := ((List.suffix_cons (.char ')') inner).trans hbody.reads.suffix).trans hsuffix
    have hothers : ∀ c ∈ others, c ∈ Construct.opening header :: (body ++ .close :: others) :=
      fun c hc => List.mem_cons_of_mem _ (List.mem_append_right _ (List.mem_cons_of_mem _ hc))
    have hremark₃ : rest ≠ [] ∨ (d₂.ascend d.level d.outer).level.mode.verbose = false ∧
        ∀ on, .opening (.flags on) ∉ others := by
      refine hremark.imp_right fun ⟨hverbose, hflags⟩ => ⟨hverbose, fun on hmem => ?_⟩
      exact hflags on (hothers _ hmem)
    obtain ⟨e', hreads, he'⟩ := ih (fun c hc => hallowed c (hothers c hc)) (hclose d₂ e₂ he₂)
      hremark₃ (hs.suffix hinner) (hgo₁.after hreads₃)
    refine ⟨e', ?_, he'⟩
    have hall := Reads.next hread' htake' (hreads₃.trans hreads)
    simpa using hall

/-- The innermost level has grown out of `base` as the one of `d` has grown out of nothing. -/
structure Grown (base : Level) (d e : Draft) : Prop where
  mode : e.level.mode = d.level.mode
  branches : e.level.branches.length = base.branches.length + d.level.branches.length
  kept : d.level.branches = [] → e.level.branches = base.branches ∧
    ∃ front, e.level.pieces = front ++ base.pieces ∧ front.length = d.level.pieces.length

variable {base : Level} {d d' e e' : Draft} {left left' : Nat} {after after' : Units}
  {construct : Construct}

namespace Grown

theorem refl (hmode : e.level.mode = d.level.mode) (hbranches : d.level.branches = [])
    (hpieces : d.level.pieces = []) : Grown e.level d e where
  mode := hmode
  branches := by rw [hbranches]; rfl
  kept := fun _ => ⟨rfl, [], rfl, by rw [hpieces]⟩

theorem push (h : Grown base d e) {piece piece' : Piece} (hd : d'.level = d.level.push piece)
    (he : e'.level = e.level.push piece') : Grown base d' e' := by
  refine ⟨?_, ?_, fun hnone => ?_⟩
  · rw [hd, he]
    exact h.mode
  · rw [hd, he]
    exact h.branches
  · rw [hd] at hnone
    obtain ⟨hbranches, front, hfront, hlength⟩ := h.kept hnone
    rw [hd, he]
    refine ⟨hbranches, piece' :: front, ?_, ?_⟩
    · simp only [Level.push, hfront, List.cons_append]
    · simp only [Level.push, List.length_cons, hlength]

theorem same (h : Grown base d e) (hd : d'.level = d.level) (he : e'.level = e.level) :
    Grown base d' e' := by
  refine ⟨?_, ?_, ?_⟩
  · rw [hd, he]
    exact h.mode
  · rw [hd, he]
    exact h.branches
  · rw [hd, he]
    exact h.kept

/-- A construct that opens nothing and closes nothing lets both grow alike. -/
theorem take (h : Grown base d e) (hopens : construct.opens = false) (hclose : construct ≠ .close)
    (hd : d.take left after construct = some d') (he : e.take left' after' construct = some e') :
    Grown base d' e' := by
  have hd := shape_of_take hd
  have he := shape_of_take he
  cases construct with
  | letter | escape | dot | edge | oneOf =>
    obtain ⟨-, _, hd⟩ := hd
    obtain ⟨-, _, he⟩ := he
    exact h.push hd he
  | quantifier =>
    obtain ⟨-, _, before, _, hpieces, hd⟩ := hd
    obtain ⟨-, _, before', piece', hpieces', he⟩ := he
    refine ⟨?_, ?_, fun hnone => ?_⟩
    · rw [hd, he]
      exact h.mode
    · rw [hd, he]
      exact h.branches
    · rw [hd] at hnone
      obtain ⟨hbranches, front, hfront, hlength⟩ := h.kept hnone
      rw [hpieces] at hlength
      cases front with
      | nil => cases hlength
      | cons first front =>
        rw [hpieces', List.cons_append] at hfront
        rw [hd, he]
        refine ⟨hbranches, piece' :: front, ?_, ?_⟩
        · simp only [(List.cons.inj hfront).2, List.cons_append]
        · simpa using hlength
  | bar =>
    refine ⟨?_, ?_, fun hnone => ?_⟩
    · rw [hd.2, he.2]
      exact h.mode
    · rw [hd.2, he.2]
      simp only [List.length_cons, h.branches]
      omega
    · rw [hd.2] at hnone
      cases hnone
  | layout | remark => exact h.same (congrArg level hd) (congrArg level he)
  | close => exact absurd rfl hclose
  | opening header =>
    cases header with
    | again =>
      obtain ⟨-, _, hd⟩ := hd
      obtain ⟨-, _, he⟩ := he
      exact h.push hd he
    | comment => exact h.same (congrArg level hd) (congrArg level he)
    | flags =>
      obtain ⟨-, -, -, rfl⟩ := hd
      obtain ⟨-, -, -, rfl⟩ := he
      exact ⟨by rw [h.mode], h.branches, h.kept⟩
    | _ => cases hopens

end Grown

/-- The level that a parenthesis opens is empty, with the flags that the parenthesis sets. -/
theorem level_of_openWith {header : Opening} (hdescends : header.descends = true)
    (h : d.openWith left after header = .ok d') :
    d'.level.mode = header.modeIn d.level.mode ∧ d'.level.branches = [] ∧ d'.level.pieces = [] := by
  have hshape := shape_of_openWith h
  cases header with
  | comment | flags | again => cases hdescends
  | _ =>
    obtain ⟨-, _, _, hlevel⟩ := hshape
    rw [hlevel]
    exact ⟨rfl, rfl, rfl⟩

theorem alongside_grown : Alongside (fun _ => True) Grown where
  mode := fun h => h.mode
  take := fun h _ hopens hclose hd he => h.take hopens hclose hd he
  bracket := by
    intro base d d₁ e e₁ _ _ _ _ header h _ hdescends hopen hopen'
    obtain ⟨hmode₁, hbranches₁, hpieces₁⟩ := level_of_openWith hdescends hopen
    obtain ⟨hmode₁', -, -⟩ := level_of_openWith hdescends hopen'
    have hmode : e₁.level.mode = d₁.level.mode := by rw [hmode₁, hmode₁', h.mode]
    exact ⟨e₁.level, .refl hmode hbranches₁ hpieces₁, fun d₂ e₂ _ => h.push rfl rfl⟩

/-- What is read alone is read inside of a larger text that can be read, and lets the level grow by
as much. -/
theorem Runs.grown {units rest more : Units} {cs : List Construct} (h : Runs d units cs d' rest)
    (he : Grown base d e)
    (hremark : rest ≠ [] ∨ d.level.mode.verbose = false ∧ ∀ on, .opening (.flags on) ∉ cs)
    (hsealed : units ≠ [] → Units.Sealed units more) (hgo : e.Goes (units ++ more)) :
    ∃ e', Reads e (units ++ more) cs e' (rest ++ more) ∧ Grown base d' e' :=
  h.alongside alongside_grown (fun _ _ => trivial) he hremark hsealed hgo

end Draft

end RequestRouter
