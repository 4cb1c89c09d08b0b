import RequestRouter.Proofs.Matching.Moved
import RequestRouter.Proofs.Reading.Growth
import RequestRouter.Proofs.Reading.Within

/-!
# Constructs read further on

Constructs that neither look behind nor name a group by its number mean the same behind other groups:
in a larger expression they are read as they are read alone, with the groups numbered further on
(`Draft.Runs.moved`). Their groups have other numbers there, but a name stands for the group that it
stands for alone, and a group that is taken again is as wide.
-/

namespace RequestRouter

/-! ## Onward terms -/

namespace Regex

variable {again : Bool} {r : Regex}

theorem onward_seqAll {terms : List Regex} (h : ∀ r ∈ terms, r.Onward again) :
    (seqAll terms).Onward again := by
  induction terms with
  | nil => trivial
  | cons r rest ih =>
    have hrest := ih fun r hr => h r (List.mem_cons_of_mem _ hr)
    cases rest with
    | nil => exact h r List.mem_cons_self
    | cons => exact ⟨h r List.mem_cons_self, hrest⟩

theorem onward_eitherAll {terms : List Regex} (h : ∀ r ∈ terms, r.Onward again) :
    (eitherAll terms).Onward again := by
  induction terms with
  | nil => trivial
  | cons r rest ih =>
    have hrest := ih fun r hr => h r (List.mem_cons_of_mem _ hr)
    cases rest with
    | nil => exact h r List.mem_cons_self
    | cons => exact ⟨h r List.mem_cons_self, hrest⟩

/-- The width of a term depends on that of the groups that it takes again, and not on their numbers. -/
theorem width_shift {count : Nat} {widths widths' : Nat → Width} (h : r.Onward again)
    (hwidths : ∀ number, 0 < number → widths' (number + count) = widths number) :
    (r.shift count).width widths' = r.width widths := by
  induction r with
  | empty | one | place | look => rfl
  | seq a b iha ihb => simp only [shift, width, iha h.1, ihb h.2]
  | either a b iha ihb => simp only [shift, width, iha h.1, ihb h.2]
  | alternative r ih | atomic r ih => exact ih h
  | group _ r ih => exact ih h.2
  | loop _ least most r ih => simp only [shift, width, ih h]
  | again _ number => exact hwidths number h.2
  | ifGroup _ a b iha ihb => simp only [shift, width, iha h.2.1, ihb h.2.2]

/-- A term that takes no group again is as wide whatever the groups are. -/
theorem least_width_eq {widths : Nat → Width} (h : r.Onward false) :
    (r.width widths).least = r.least := by
  have hwidth : r.width widths = r.width fun _ => .zero := by
    induction r with
    | empty | one | place | look => rfl
    | seq a b iha ihb => simp only [width, iha h.1, ihb h.2]
    | either a b iha ihb => simp only [width, iha h.1, ihb h.2]
    | alternative r ih | atomic r ih => exact ih h
    | group _ r ih => exact ih h.2
    | loop _ least most r ih => simp only [width, ih h]
    | again => cases h.1
    | ifGroup _ a b iha ihb => simp only [width, iha h.2.1, ihb h.2.2]
  rw [hwidth, least]

end Regex

namespace Part

variable {again : Bool}

/-- The terms of the parts are onward. -/
def Onward (again : Bool) (parts : List Part) : Prop := ∀ part ∈ parts, part.regex.Onward again

theorem onward_termOf {parts : List Part} (h : Onward again parts) :
    (termOf parts).Onward again := by
  refine Regex.onward_seqAll fun r hr => ?_
  obtain ⟨part, hpart, rfl⟩ := List.mem_map.mp hr
  exact h part hpart

theorem onward_choice (folding : Folding) {alternatives : List (List Part)}
    (h : ∀ parts ∈ alternatives, Onward again parts) :
    (choice folding alternatives).regex.Onward again := by
  unfold choice
  split
  · trivial
  · refine Regex.onward_eitherAll fun r hr => ?_
    obtain ⟨parts, hparts, rfl⟩ := List.mem_map.mp hr
    exact onward_termOf (h parts hparts)

theorem onward_joined (folding : Folding) {alternatives : List (List Part)}
    (h : ∀ parts ∈ alternatives, Onward again parts) : Onward again (joined folding alternatives) := by
  cases alternatives with
  | nil => exact fun _ hpart => absurd hpart List.not_mem_nil
  | cons first others =>
    cases others with
    | nil => exact h first List.mem_cons_self
    | cons second others =>
      intro part hpart
      rcases List.mem_append.mp hpart with hpart | hpart
      · exact h first List.mem_cons_self part (List.mem_of_mem_take hpart)
      · obtain rfl := List.mem_singleton.mp hpart
        refine onward_choice folding fun parts hparts part hpart => ?_
        obtain ⟨whole, hwhole, rfl⟩ := List.mem_map.mp hparts
        exact h whole hwhole part (List.mem_of_mem_drop hpart)

end Part

/-- What the pieces of the level add, and its other alternatives, are onward. -/
structure Level.Onward (again : Bool) (level : Level) : Prop where
  pieces : ∀ piece ∈ level.pieces, Part.Onward again piece.parts
  branches : ∀ alternative ∈ level.branches, Part.Onward again alternative

namespace Level.Onward

variable {again : Bool} {level : Level}

theorem branch (h : level.Onward again) : Part.Onward again level.branch := by
  intro part hpart
  obtain ⟨piece, hpiece, hpart⟩ := List.mem_flatMap.mp hpart
  exact h.pieces piece (List.mem_reverse.mp hpiece) part hpart

theorem content (h : level.Onward again) : Part.Onward again level.content := by
  refine Part.onward_joined _ fun parts hparts => ?_
  rcases List.mem_cons.mp (List.mem_reverse.mp hparts) with rfl | hparts
  · exact h.branch
  · exact h.branches parts hparts

theorem term (h : level.Onward again) : level.term.Onward again := Part.onward_termOf h.content

theorem push (h : level.Onward again) {piece : Piece} (hpiece : Part.Onward again piece.parts) :
    (level.push piece).Onward again where
  pieces := List.forall_mem_cons.mpr ⟨hpiece, h.pieces⟩
  branches := h.branches

end Level.Onward

namespace Opener

/-- The opener with its group numbered `count` further on. -/
def shift (count : Nat) : Opener → Opener
  | .capture number => .capture (number + count)
  | .test number => .test (number + count)
  | opener => opener

/-- The opener is that of an onward term. -/
def Onward : Opener → Prop
  | .capture number | .test number => 0 < number
  | .look behind _ barrier => behind = false ∧ barrier = none
  | .whole | .bare _ | .atomic => True

end Opener

namespace Construct

/-- The construct neither looks behind nor names a group by its number. It takes a group again, by its
name, only if `again` is set. -/
def isOnward (again : Bool) : Construct → Bool
  | .escape (.group _ _) => false
  | .opening (.look behind _) => !behind
  | .opening (.test name) => Text.isIdentifier name
  | .opening (.again _) => again
  | _ => true

end Construct

namespace Draft

section Headers

variable {d d' : Draft} {left : Nat} {after : Units} {name : List Char}

theorem named_of_openWith (h : d.openWith left after (.named name) = .ok d') :
    d' = { d.descend (.capture (d.groups + 1)) d.level.mode left with
      groups := d.groups + 1, names := (String.ofList name, d.groups + 1) :: d.names } := by
  unfold openWith at h
  dsimp only at h
  split at h
  · cases h
  · cases h
    rfl

theorem again_of_openWith (h : d.openWith left after (.again name) = .ok d') :
    ∃ number, d.names.lookup (String.ofList name) = some number ∧
      d' = d.push (.atom (.again d.folding number)) := by
  unfold openWith at h
  dsimp only at h
  split at h
  · cases h
  · next number hnumber =>
    split at h
    · cases h
    · obtain ⟨_, -, h⟩ := exists_of_bind_ok h
      cases h
      exact ⟨number, hnumber, rfl⟩

/-- A choice by the name of a group asks for the group that has the name. -/
theorem test_of_openWith (hname : Text.isIdentifier name = true)
    (h : d.openWith left after (.test name) = .ok d') :
    ∃ number, d.names.lookup (String.ofList name) = some number ∧
      d' = d.descend (.test number) d.level.mode left := by
  obtain ⟨⟨number, tested⟩, htested, h⟩ := exists_of_bind_ok h
  obtain ⟨_, -, h⟩ := exists_of_bind_ok h
  cases h
  unfold testedGroup at htested
  dsimp only at htested
  rw [if_pos hname] at htested
  split at htested
  · next found hfound =>
    cases htested
    exact ⟨number, hfound, rfl⟩
  · cases htested

end Headers

/-- What is known of the groups of one draft is known in the other of groups `count` further on. -/
structure Known (count : Nat) (d e : Draft) : Prop where
  groups : e.groups = d.groups + count
  names : ∀ name, e.names.lookup name = (d.names.lookup name).map (· + count)
  named : ∀ name number, d.names.lookup name = some number → 0 < number
  widths : ∀ number, 0 < number → e.closed.lookup (number + count) = d.closed.lookup number
  barrier : d.barrier = none
  barrier' : e.barrier = none

/-- The innermost level of the second draft holds what that of the first one holds, with groups
numbered further on. Before it stands `base`, as long as there is only one alternative. -/
structure Moved (again : Bool) (count : Nat) (base : List Piece) (d e : Draft) : Prop where
  known : Known count d e
  mode : e.level.mode = d.level.mode
  opener : e.level.opener = d.level.opener.shift count
  opens : d.level.opener.Onward
  onward : d.level.Onward again
  kept : base = [] ∨ d.level.branches = [] →
    e.level.branches = d.level.branches.map (List.map (Part.shift count)) ∧
      e.level.pieces = d.level.pieces.map (Piece.shift count) ++ base

namespace Known

variable {count : Nat} {d e : Draft}

theorem widthOf (h : Known count d e) {number : Nat} (hnumber : 0 < number) :
    e.widthOf (number + count) = d.widthOf number := by
  rw [Draft.widthOf, Draft.widthOf, h.widths number hnumber]

theorem width (h : Known count d e) {again : Bool} {r : Regex} (hr : r.Onward again) :
    (r.shift count).width e.widthOf = r.width d.widthOf :=
  Regex.width_shift hr fun _ => h.widthOf

theorem level (h : Known count d e) (inner inner' : Level) :
    Known count { d with level := inner } { e with level := inner' } :=
  ⟨h.groups, h.names, h.named, h.widths, h.barrier, h.barrier'⟩

/-- One more group is opened in both drafts. -/
theorem opened (h : Known count d e) :
    Known count { d with groups := d.groups + 1 } { e with groups := e.groups + 1 } :=
  ⟨by rw [h.groups, Nat.add_right_comm], h.names, h.named, h.widths, h.barrier, h.barrier'⟩

/-- One more group is opened in both drafts, with a name. -/
theorem openedNamed (h : Known count d e) (name : String) :
    Known count { d with groups := d.groups + 1, names := (name, d.groups + 1) :: d.names }
      { e with groups := e.groups + 1, names := (name, e.groups + 1) :: e.names } where
  groups := h.opened.groups
  names := by
    intro other
    rw [List.lookup_cons, List.lookup_cons]
    cases other == name with
    | true => simp only [h.groups, Option.map_some, Nat.add_right_comm]
    | false => exact h.names other
  named := by
    intro other number hnumber
    rw [List.lookup_cons] at hnumber
    cases hsame : other == name with
    | true =>
      rw [hsame] at hnumber
      cases hnumber
      exact Nat.succ_pos _
    | false =>
      rw [hsame] at hnumber
      exact h.named other number hnumber
  widths := h.widths
  barrier := h.barrier
  barrier' := h.barrier'

/-- A group that is closed in both drafts with the same width. -/
theorem close (h : Known count d e) {number : Nat} {width : Width} :
    Known count { d with closed := (number, width) :: d.closed }
      { e with closed := (number + count, width) :: e.closed } where
  groups := h.groups
  names := h.names
  named := h.named
  widths := by
    intro other hother
    have hsame : (other + count == number + count) = (other == number) := by
      rw [Bool.eq_iff_iff, beq_iff_eq, beq_iff_eq]
      omega
    rw [List.lookup_cons, List.lookup_cons, hsame, h.widths other hother]
  barrier := h.barrier
  barrier' := h.barrier'

end Known

namespace Moved

variable {again : Bool} {count : Nat} {base : List Piece} {d d' e e' : Draft} {left left' : Nat}
  {after after' : Units} {construct : Construct}

theorem folding (h : Moved again count base d e) : e.folding = d.folding := by
  rw [Draft.folding, Draft.folding, h.mode]

/-- A level that has nothing in front of it holds the same as a whole. -/
theorem branch (h : Moved again count [] d e) :
    e.level.branch = d.level.branch.map (Part.shift count) := by
  obtain ⟨-, hpieces⟩ := h.kept (.inl rfl)
  simp only [Level.branch, hpieces, List.append_nil, ← List.map_reverse, List.flatMap_map,
    List.map_flatMap, Piece.parts_shift]

theorem content (h : Moved again count [] d e) :
    e.level.content = d.level.content.map (Part.shift count) := by
  obtain ⟨hbranches, -⟩ := h.kept (.inl rfl)
  rw [Level.content, Level.content, ← Part.joined_shift, h.mode, h.branch, hbranches,
    ← List.map_cons, List.map_reverse]

theorem term (h : Moved again count [] d e) : e.level.term = d.level.term.shift count := by
  rw [Level.term, Level.term, h.content, Part.termOf_shift]

theorem push (h : Moved again count base d e) (piece : Piece)
    (hpiece : Part.Onward again piece.parts) :
    Moved again count base (d.push piece) (e.push (piece.shift count)) where
  known := h.known.level _ _
  mode := h.mode
  opener := h.opener
  opens := h.opens
  onward := h.onward.push hpiece
  kept := by
    intro hcond
    obtain ⟨hbranches, hpieces⟩ := h.kept hcond
    refine ⟨hbranches, ?_⟩
    show piece.shift count :: e.level.pieces = _
    rw [hpieces]
    rfl

theorem push_atom (h : Moved again count base d e) {r : Regex} (hr : r.Onward again) :
    Moved again count base (d.push (.atom r)) (e.push (.atom (r.shift count))) := by
  refine h.push (.atom r) fun part hpart => ?_
  obtain rfl := List.mem_singleton.mp hpart
  exact hr

theorem push_anchor (h : Moved again count base d e) (anchor : Anchor) :
    Moved again count base (d.push (.anchor anchor)) (e.push (.anchor anchor)) := by
  refine h.push (.anchor anchor) fun part hpart => ?_
  obtain rfl := List.mem_singleton.mp hpart
  trivial

/-- The last piece is repeated in both. -/
theorem repeated (h : Moved again count base d e) {bounds : Bounds} {greed : Greed}
    (hd : d.repeated? bounds greed = some d') (he : e.repeated? bounds greed = some e') :
    Moved again count base d' e' := by
  obtain ⟨piece, before, hpieces, rfl⟩ := repeated?_eq_some hd
  obtain ⟨piece', before', hpieces', rfl⟩ := repeated?_eq_some he
  have honward := h.onward.pieces
  rw [hpieces] at honward
  have hpiece : Part.Onward again
      (Piece.repeated (.loop greed bounds.least bounds.most piece.regex)).parts := by
    intro part hpart
    obtain rfl := List.mem_singleton.mp hpart
    exact Part.onward_termOf (honward piece List.mem_cons_self)
  refine
    { known := h.known.level _ _
      mode := h.mode
      opener := h.opener
      opens := h.opens
      onward := ⟨List.forall_mem_cons.mpr
        ⟨hpiece, fun p hp => honward p (List.mem_cons_of_mem _ hp)⟩, h.onward.branches⟩
      kept := fun hcond => ?_ }
  obtain ⟨hbranches, hsame⟩ := h.kept hcond
  rw [hpieces, hpieces', List.map_cons, List.cons_append] at hsame
  obtain ⟨rfl, rfl⟩ := List.cons.inj hsame
  refine ⟨hbranches, ?_⟩
  show Piece.repeated (.loop greed bounds.least bounds.most (piece.shift count).regex) :: _ = _
  rw [Piece.regex_shift]
  rfl

/-- Another alternative begins in both. Where something stands before the first one, nothing is said
of the levels any more. -/
theorem alternate (h : Moved again count base d e) (hd : d.take left after .bar = some d')
    (he : e.take left' after' .bar = some e') : Moved again count base d' e' := by
  obtain rfl := take_bar hd
  obtain rfl := take_bar he
  refine
    { known := h.known.level _ _
      mode := h.mode
      opener := h.opener
      opens := h.opens
      onward := ⟨fun _ hp => absurd hp List.not_mem_nil,
        List.forall_mem_cons.mpr ⟨h.onward.branch, h.onward.branches⟩⟩
      kept := fun hcond => ?_ }
  obtain rfl : base = [] := hcond.resolve_right (List.cons_ne_nil _ _)
  obtain ⟨hbranches, -⟩ := h.kept (.inl rfl)
  refine ⟨?_, rfl⟩
  show e.level.branch :: e.level.branches = _
  rw [h.branch, hbranches]
  rfl

/-- A construct that is no parenthesis is taken alike in both. -/
theorem take (h : Moved again count base d e) (honward : construct.isOnward again = true)
    (hopens : construct.opens = false) (hclose : construct ≠ .close)
    (hd : d.take left after construct = some d') (he : e.take left' after' construct = some e') :
    Moved again count base d' e' := by
  cases construct with
  | letter c =>
    cases hd
    cases he
    rw [h.folding]
    exact h.push_atom (r := .one (.literal d.folding false c.toNat)) trivial
  | dot =>
    cases hd
    cases he
    rw [h.mode]
    exact h.push_atom (r := .one (.any d.level.mode.dotAll)) trivial
  | oneOf test =>
    cases hd
    cases he
    exact h.push_atom (r := .one test) trivial
  | edge last =>
    cases last with
    | false =>
      cases hd
      cases he
      rw [h.mode]
      exact h.push_anchor _
    | true =>
      cases hd
      cases he
      rw [h.mode]
      exact h.push_anchor _
  | escape meaning =>
    cases meaning with
    | code code =>
      cases hd
      cases he
      rw [h.folding]
      exact h.push_atom (r := .one (.literal d.folding false code)) trivial
    | item item =>
      cases hd
      cases he
      rw [h.folding]
      exact h.push_atom (r := .one (.classOf d.folding false [item])) trivial
    | anchor anchor =>
      cases hd
      cases he
      exact h.push_anchor anchor
    | group number width => cases honward
  | quantifier bounds greed => exact h.repeated hd he
  | bar => exact h.alternate hd he
  | layout | remark =>
    cases hd
    cases he
    exact h
  | close => exact absurd rfl hclose
  | opening header =>
    cases header with
    | comment =>
      cases hd
      cases he
      exact h
    | flags on =>
      obtain ⟨-, -, -, rfl⟩ := shape_of_take hd
      obtain ⟨-, -, -, rfl⟩ := shape_of_take he
      exact
        { known := h.known.level _ _
          mode := by rw [h.mode]
          opener := h.opener
          opens := h.opens
          onward := ⟨h.onward.pieces, h.onward.branches⟩
          kept := h.kept }
    | again name =>
      obtain ⟨number, hnumber, rfl⟩ := again_of_openWith (toOption_eq_some.mp hd)
      obtain ⟨number', hnumber', rfl⟩ := again_of_openWith (toOption_eq_some.mp he)
      rw [h.known.names, hnumber] at hnumber'
      cases hnumber'
      rw [h.folding]
      exact h.push_atom (r := .again d.folding number) ⟨honward, h.known.named _ _ hnumber⟩
    | _ => cases hopens

/-- A level that is opened in both holds nothing yet, and what is known of the groups is known on it.
-/
theorem descend (hknown : Known count d e) {mode : Mode} (opener : Opener)
    (hopener : opener.Onward) :
    Moved again count [] (d.descend opener mode left)
      (e.descend (opener.shift count) mode left') where
  known := ⟨hknown.groups, hknown.names, hknown.named, hknown.widths, hknown.barrier,
    hknown.barrier'⟩
  mode := rfl
  opener := rfl
  opens := hopener
  onward := ⟨fun _ hp => absurd hp List.not_mem_nil, fun _ hp => absurd hp List.not_mem_nil⟩
  kept := fun _ => ⟨rfl, rfl⟩

/-- A parenthesis is opened alike in both, whatever stands in front of it. -/
theorem openWith {header : Opening} (h : Moved again count base d e)
    (honward : (Construct.opening header).isOnward again = true) (hdescends : header.descends = true)
    (hd : d.openWith left after header = .ok d') (he : e.openWith left' after' header = .ok e') :
    Moved again count [] d' e' := by
  cases header with
  | comment | flags | again => cases hdescends
  | capture =>
    cases hd
    cases he
    rw [h.mode, h.known.groups, Nat.add_right_comm]
    have hknown := h.known.opened
    rw [h.known.groups, Nat.add_right_comm] at hknown
    exact descend hknown (.capture (d.groups + 1)) (Nat.succ_pos _)
  | named name =>
    obtain rfl := named_of_openWith hd
    obtain rfl := named_of_openWith he
    have hknown := h.known.openedNamed (String.ofList name)
    rw [h.known.groups, Nat.add_right_comm] at hknown
    rw [h.mode, h.known.groups, Nat.add_right_comm]
    exact descend hknown (.capture (d.groups + 1)) (Nat.succ_pos _)
  | «scoped» on off =>
    cases hd
    cases he
    rw [h.mode]
    exact descend h.known (.bare (!on.isEmpty || !off.isEmpty)) trivial
  | atomic =>
    cases hd
    cases he
    rw [h.mode]
    exact descend h.known .atomic trivial
  | look behind negated =>
    have hahead : behind = false := by simpa [Construct.isOnward] using honward
    subst hahead
    cases hd
    cases he
    show Moved again count [] (d.descend (.look false negated d.barrier) d.level.mode left)
      (e.descend (.look false negated e.barrier) e.level.mode left')
    rw [h.known.barrier, h.known.barrier', h.mode]
    exact descend h.known (.look false negated none) ⟨rfl, rfl⟩
  | test name =>
    obtain ⟨number, hnumber, rfl⟩ := test_of_openWith honward hd
    obtain ⟨number', hnumber', rfl⟩ := test_of_openWith honward he
    rw [h.known.names, hnumber] at hnumber'
    cases hnumber'
    rw [h.mode]
    exact descend h.known (.test number) (h.known.named _ _ hnumber)

/-! ## What a parenthesis closes into -/

theorem onward_closedParts (h : Moved again count base d e) : Part.Onward again d.closedParts := by
  have hwhole : ∀ {r : Regex}, r.Onward again → Part.Onward again [.whole r] := by
    intro r hr part hpart
    obtain rfl := List.mem_singleton.mp hpart
    exact hr
  have hopens := h.opens
  unfold Draft.closedParts
  cases hopener : d.level.opener with
  | whole => exact h.onward.content
  | bare flagged =>
    cases flagged with
    | false => exact h.onward.content
    | true => exact hwhole h.onward.term
  | capture number =>
    rw [hopener] at hopens
    exact hwhole ⟨hopens, h.onward.term⟩
  | atomic => exact hwhole h.onward.term
  | look behind negated barrier =>
    rw [hopener] at hopens
    obtain ⟨rfl, -⟩ := hopens
    exact hwhole ⟨rfl, h.onward.term⟩
  | test number =>
    rw [hopener] at hopens
    have hbranch := Part.onward_termOf h.onward.branch
    have hbranches := h.onward.branches
    cases hcases : d.level.branches with
    | nil => exact hwhole ⟨hopens, hbranch, trivial⟩
    | cons present others =>
      rw [hcases] at hbranches
      exact hwhole ⟨hopens, Part.onward_termOf (hbranches present List.mem_cons_self), hbranch⟩

theorem closedParts (h : Moved again count [] d e) :
    e.closedParts = d.closedParts.map (Part.shift count) := by
  have hopens := h.opens
  have hopener' := h.opener
  obtain ⟨hbranches, -⟩ := h.kept (.inl rfl)
  unfold Draft.closedParts
  cases hopener : d.level.opener with
  | whole =>
    rw [hopener] at hopener'
    simp only [hopener', Opener.shift]
    exact h.content
  | bare flagged =>
    rw [hopener] at hopener'
    cases flagged with
    | false =>
      simp only [hopener', Opener.shift]
      exact h.content
    | true =>
      simp only [hopener', Opener.shift, h.term]
      rfl
  | capture number =>
    rw [hopener] at hopener'
    simp only [hopener', Opener.shift, h.term]
    rfl
  | atomic =>
    rw [hopener] at hopener'
    simp only [hopener', Opener.shift, h.term]
    rfl
  | look behind negated barrier =>
    rw [hopener] at hopens hopener'
    obtain ⟨rfl, -⟩ := hopens
    simp only [hopener', Opener.shift, h.term]
    rfl
  | test number =>
    rw [hopener] at hopener'
    cases hcases : d.level.branches with
    | nil =>
      rw [hcases] at hbranches
      simp only [hopener', Opener.shift, hbranches, List.map_nil, h.branch, Part.termOf_shift]
      rfl
    | cons present others =>
      rw [hcases] at hbranches
      simp only [hopener', Opener.shift, hbranches, List.map_cons, h.branch, Part.termOf_shift]
      rfl

/-- A parenthesis as a whole leaves the groups alike. A group is closed in both as wide. -/
theorem known_closeMarks (h : Moved again count [] d e) : Known count d.closeMarks e.closeMarks := by
  have hopens := h.opens
  have hopener' := h.opener
  unfold closeMarks
  cases hopener : d.level.opener with
  | capture number =>
    rw [hopener] at hopener'
    simp only [hopener', Opener.shift, h.term, h.known.width h.onward.term]
    exact h.known.close
  | look behind negated barrier =>
    rw [hopener] at hopens hopener'
    obtain ⟨-, rfl⟩ := hopens
    simp only [hopener', Opener.shift]
    exact ⟨h.known.groups, h.known.names, h.known.named, h.known.widths, rfl, rfl⟩
  | whole | bare | atomic | test =>
    rw [hopener] at hopener'
    simp only [hopener', Opener.shift]
    exact h.known

theorem ascend (h : Moved again count base d e) {d₂ e₂ : Draft} (h₂ : Moved again count [] d₂ e₂) :
    Moved again count base (d₂.ascend d.level d.outer) (e₂.ascend e.level e.outer) := by
  have hpush := h.push (.group d₂.closedParts) h₂.onward_closedParts
  have hknown := h₂.known_closeMarks
  rw [Draft.ascend, Draft.ascend, h₂.closedParts]
  exact
    { known := ⟨hknown.groups, hknown.names, hknown.named, hknown.widths, hknown.barrier,
        hknown.barrier'⟩
      mode := hpush.mode
      opener := hpush.opener
      opens := hpush.opens
      onward := hpush.onward
      kept := hpush.kept }

theorem alongside : Alongside (fun c => c.isOnward again = true) (Moved again count) where
  mode := fun h => h.mode
  take := fun h honward hopens hclose hd he => h.take honward hopens hclose hd he
  bracket := fun h honward hdescends hd he =>
    ⟨[], h.openWith honward hdescends hd he, fun _ _ h₂ => h.ascend h₂⟩

end Moved

/-- What is read alone is read inside of a larger text that can be read, with groups numbered further
on. -/
theorem Runs.moved {again : Bool} {count : Nat} {base : List Piece} {d d' e : Draft}
    {units rest more : Units} {cs : List Construct} (h : Runs d units cs d' rest)
    (honward : ∀ c ∈ cs, c.isOnward again = true) (he : Moved again count base d e)
    (hremark : rest ≠ [] ∨ d.level.mode.verbose = false ∧ ∀ on, .opening (.flags on) ∉ cs)
    (hsealed : units ≠ [] → Units.Sealed units more) (hgo : e.Goes (units ++ more)) :
    ∃ e', Reads e (units ++ more) cs e' (rest ++ more) ∧ Moved again count base d' e' :=
  h.alongside Moved.alongside honward he hremark hsealed hgo

end Draft

end RequestRouter
