import RequestRouter.Proofs.Pattern.Written
import RequestRouter.Proofs.Pattern.Leading
import RequestRouter.Proofs.Reading.Moved

/-!
# A fragment behind other placeholders

A fragment means the same behind other placeholders, each behind a slash and with the default
fragment, as it means alone behind a slash (`CompiledPattern.fullMatch_behind`). In the larger
expression the fragment is read as it is read alone, with its groups numbered further on; the values
in front are taken in one way only; and from there on the two matches run in step.

That is not so for fragments that can tell where they stand: by a look-behind, or by a group that
they name by its number. Three further cases are left out. A fragment that falls into alternatives
outside of its parentheses takes the rest of the pattern into them. One that takes a group again by
its name could succeed on fewer characters than it is thought to need at least, which is looked at
for the path as a whole. And the fragments in front have to be the default one.
-/

namespace RequestRouter

/-! ## Reading -/

namespace Draft

/-- On the outermost level, in the first alternative, with so many groups before, all without a name.
-/
structure Ready (count : Nat) (e : Draft) : Prop where
  mode : e.level.mode = {}
  opener : e.level.opener = .whole
  branches : e.level.branches = []
  groups : e.groups = count
  names : ∀ name, e.names.lookup name = none
  closed : ∀ number, count < number → e.closed.lookup number = none
  barrier : e.barrier = none

namespace Ready

variable {count : Nat} {e : Draft} {more : Units}

theorem start (left : Nat) : Ready 0 (.start left) :=
  ⟨rfl, rfl, rfl, rfl, fun _ => rfl, fun _ _ => rfl, rfl⟩

theorem push (h : Ready count e) (piece : Piece) : Ready count (e.push piece) :=
  ⟨h.mode, h.opener, h.branches, h.groups, h.names, h.closed, h.barrier⟩

/-- A text that is read alone begins as it does here, where there are already some pieces. -/
theorem moved (h : Ready count e) (again : Bool) (left : Nat) :
    Moved again count e.level.pieces (.start left) e where
  known :=
    { groups := h.groups.trans (Nat.zero_add count).symm
      names := h.names
      named := by rintro _ _ ⟨⟩
      widths := fun number hnumber => h.closed _ (Nat.lt_add_of_pos_left hnumber)
      barrier := rfl
      barrier' := h.barrier }
  mode := h.mode
  opener := h.opener
  opens := trivial
  onward := ⟨fun _ hp => absurd hp List.not_mem_nil, fun _ hp => absurd hp List.not_mem_nil⟩
  kept := fun _ => ⟨h.branches, rfl⟩

theorem reads_slash (h : Ready count e) (more : Units) :
    Reads e (.char '/' :: more) [.letter '/'] (e.push (.letter '/')) more := by
  have hread : Construct.read e.level.mode (.char '/') more = .ok (.letter '/', more) := by
    rw [h.mode]
    rfl
  have htest : (Construct.letter '/').test? e.level.mode = some (.letter '/') := by
    rw [h.mode]
    rfl
  exact .next hread (take_of_test? htest) .done

/-- A usable fragment that is onward is read here as it is read alone. -/
theorem reads_fragment {fragment : List Char} {again : Bool} {d : Draft} (h : Ready count e)
    (husable : Usable fragment)
    (honward : ∀ c ∈ Expression.constructs fragment, c.isOnward again = true)
    (hdraft : Expression.draft (Units.ofChars fragment).1 = .ok d)
    (hgo : e.Goes ((Units.ofChars fragment).1 ++ more)) :
    ∃ e', Reads e ((Units.ofChars fragment).1 ++ more) (Expression.constructs fragment) e' more ∧
      Moved again count e.level.pieces d e' := by
  have hlast := Units.getLast?_of_spans
    ((Units.spans_ofChars _ _ husable.lone).symm.trans
      (Bool.and_eq_true_iff.mp husable.passed.1).2)
  exact (runs_of_draft hdraft).moved honward (h.moved again _) (.inr ⟨rfl, husable.not_flags⟩)
    (fun _ => .inr hlast) hgo

/-- The default fragment is read as one more group. -/
theorem reads_default (h : Ready count e) (hgo : e.Goes ((Units.ofChars defaultFragment).1 ++ more)) :
    ∃ cs e', Reads e ((Units.ofChars defaultFragment).1 ++ more) cs e' more ∧ Ready (count + 1) e' ∧
      e'.level.pieces = .group [.whole (.group (count + 1) .valueTerm)] :: e.level.pieces := by
  obtain ⟨d, hdraft, hgroups, hnames, hclosed, hbranches, hpieces, hopener, hmode⟩ :
      ∃ d, Expression.draft (Units.ofChars defaultFragment).1 = .ok d ∧ d.groups = 1 ∧
        d.names = [] ∧ d.closed = [(1, ⟨1, none⟩)] ∧ d.level.branches = [] ∧
        d.level.pieces = [.group [.whole (.group 1 .valueTerm)]] ∧ d.level.opener = .whole ∧
        d.level.mode = {} := ⟨_, rfl, rfl, rfl, rfl, rfl, rfl, rfl, rfl⟩
  have honward : ∀ c ∈ Expression.constructs defaultFragment, c.isOnward true = true := by decide
  obtain ⟨e', hreads, hmoved⟩ := h.reads_fragment usable_defaultFragment honward hdraft hgo
  obtain ⟨hkept, hsame⟩ := hmoved.kept (.inr hbranches)
  refine ⟨_, e', hreads, ?_, ?_⟩
  · exact
      { mode := hmoved.mode.trans hmode
        opener := by rw [hmoved.opener, hopener]; rfl
        branches := by rw [hkept, hbranches]; rfl
        groups := by rw [hmoved.known.groups, hgroups, Nat.add_comm]
        names := fun name => by rw [hmoved.known.names, hnames]; rfl
        closed := by
          intro number hnumber
          obtain ⟨further, rfl⟩ : ∃ further, number = further + 2 + count :=
            ⟨number - 2 - count, by omega⟩
          rw [hmoved.known.widths _ (Nat.succ_pos _), hclosed, List.lookup_cons]
          have hother : (further + 2 == 1) = false := by
            rw [beq_eq_false_iff_ne]
            omega
          rw [hother]
          rfl
        barrier := hmoved.known.barrier' }
  · rw [hsame, hpieces, Nat.add_comm count 1]
    rfl

end Ready

end Draft

/-- The placeholders in front, each behind a slash. -/
def Segment.slashed (names : List (List Char)) : List Segment :=
  names.map fun name => ⟨['/'], ⟨name, defaultFragment, false⟩⟩

namespace Draft.Ready

variable {count : Nat} {e : Draft} {more : Units}

/-- The placeholders in front are read as one group each. -/
theorem reads_slashed (h : Ready count e) (names : List (List Char))
    (hgo : e.Goes ((Segment.slashed names).flatMap Segment.units ++ more)) :
    ∃ cs e', Reads e ((Segment.slashed names).flatMap Segment.units ++ more) cs e' more ∧
      Ready (count + names.length) e' ∧
      e'.level.branch = e.level.branch ++ Part.slashedGroups count names.length := by
  induction names generalizing count e with
  | nil => exact ⟨[], e, .done, h, (List.append_nil _).symm⟩
  | cons name names ih =>
    have hunits : (Segment.slashed (name :: names)).flatMap Segment.units ++ more =
        .char '/' :: ((Units.ofChars defaultFragment).1 ++
          ((Segment.slashed names).flatMap Segment.units ++ more)) := by
      rw [Segment.slashed, List.map_cons, List.flatMap_cons, List.append_assoc]
      rfl
    rw [hunits] at hgo ⊢
    have hslash := h.reads_slash ((Units.ofChars defaultFragment).1 ++
      ((Segment.slashed names).flatMap Segment.units ++ more))
    have hgo₁ := hgo.after hslash
    obtain ⟨_, e₁, hreads₁, hready₁, hpieces₁⟩ := (h.push (.letter '/')).reads_default hgo₁
    obtain ⟨_, e', hreads, hready, hbranch⟩ := ih hready₁ (hgo₁.after hreads₁)
    refine ⟨_, e', hslash.trans (hreads₁.trans hreads), ?_, ?_⟩
    · have hcount : count + (name :: names).length = count + 1 + names.length := by
        rw [List.length_cons]
        omega
      rw [hcount]
      exact hready
    · rw [hbranch]
      simp [Level.branch, hpieces₁, Draft.push, Level.push, Piece.parts, Piece.letter, Part.letter,
        Part.slashedGroups]

end Draft.Ready

namespace Part

variable {widths : Nat → Width}

theorem least_termOf_cons (part : Part) (rest : List Part) :
    ((termOf (part :: rest)).width widths).least =
      (part.regex.width widths).least + ((termOf rest).width widths).least := by
  cases rest with
  | nil => exact (Nat.add_zero _).symm
  | cons next rest => rfl

theorem least_termOf_append (parts rest : List Part) :
    ((termOf (parts ++ rest)).width widths).least =
      ((termOf parts).width widths).least + ((termOf rest).width widths).least := by
  induction parts with
  | nil => exact (Nat.zero_add _).symm
  | cons part parts ih =>
    rw [List.cons_append, least_termOf_cons, least_termOf_cons, ih, Nat.add_assoc]

theorem least_slashedGroups (before count : Nat) :
    ((termOf (slashedGroups before count)).width widths).least = 2 * count := by
  induction count generalizing before with
  | zero => rfl
  | succ count ih =>
    rw [slashedGroups, least_termOf_cons, least_termOf_cons, ih]
    show 1 + (1 + 2 * count) = 2 * (count + 1)
    omega

end Part

namespace Cut

/-- The placeholders in front, and behind them the one with a fragment. -/
def behind (names : List (List Char)) (name fragment : List Char) : Cut :=
  ⟨Segment.slashed names ++ [⟨['/'], ⟨name, fragment, false⟩⟩], []⟩

variable {names : List (List Char)} {name fragment : List Char} {again : Bool} {d : Draft}
  {e : Expression}

/-- The units of the expression, piece by piece. -/
theorem units_behind (husable : Usable fragment) (names : List (List Char)) (name : List Char) :
    (behind names name fragment).units =
      .char '^' :: ((Segment.slashed names).flatMap Segment.units ++
        (.char '/' :: ((Units.ofChars fragment).1 ++ [.char '$']))) := by
  have hlast : (⟨['/'], ⟨name, fragment, false⟩⟩ : Segment).units =
      .char '/' :: (Units.ofChars fragment).1 := by
    rw [Segment.units, Segment.placeholder, Segment.enclosedUnits, husable.enclosed]
    rfl
  rw [Cut.units, behind, List.flatMap_append, List.flatMap_singleton, hlast]
  simp

/-- What a draft holds at the end: what it held in front of the slash, and then what the fragment is
read into. -/
theorem branch_behind {d e e' : Draft} {count : Nat} {front : List Part}
    (hfront : e.level.branch = front)
    (hpieces : e'.level.pieces = d.level.pieces.map (Piece.shift count) ++
      .letter '/' :: e.level.pieces) :
    (e'.push (.anchor .lastLineEnd)).level.branch = front ++ .letter '/' ::
      (d.level.branch.map (Part.shift count) ++ [.atom (.place .lastLineEnd)]) := by
  have hshifted : (d.level.pieces.map (Piece.shift count)).reverse.flatMap Piece.parts =
      d.level.branch.map (Part.shift count) := by
    simp only [Level.branch, ← List.map_reverse, List.flatMap_map, List.map_flatMap,
      Piece.parts_shift]
  have hlast : (e'.push (.anchor .lastLineEnd)).level.pieces =
      .anchor .lastLineEnd :: (d.level.pieces.map (Piece.shift count) ++
        .letter '/' :: e.level.pieces) := by
    show .anchor .lastLineEnd :: e'.level.pieces = _
    rw [hpieces]
  have hfront' : e.level.pieces.reverse.flatMap Piece.parts = front := hfront
  rw [Level.branch, hlast, List.reverse_cons, List.reverse_append, List.reverse_cons,
    List.flatMap_append, List.flatMap_append, List.flatMap_append, hshifted, hfront']
  simp [Piece.parts, Piece.letter, Part.letter]

/-- The expression of the pattern, as a term: the groups in front, and then what the fragment is read
into alone, with its groups numbered further on. -/
theorem read_behind (husable : Usable fragment)
    (honward : ∀ c ∈ Expression.constructs fragment, c.isOnward again = true)
    (hdraft : Expression.draft (Units.ofChars fragment).1 = .ok d)
    (hwhole : d.level.branches = [])
    (h : Expression.read (CompiledPattern.expressionOf (behind names name fragment)) = .ok e) :
    e.regex = Part.termOf (.atom (.place .textStart) ::
        (Part.slashedGroups 0 names.length ++ .letter '/' ::
          (d.level.branch.map (Part.shift names.length) ++ [.atom (.place .lastLineEnd)]))) ∧
      e.groups = d.groups + names.length ∧
      e.least = 2 * names.length + 1 + ((Part.termOf d.level.branch).width d.widthOf).least ∧
      Part.Onward again d.level.branch := by
  have husables : ∀ s ∈ (behind names name fragment).segments, Usable s.parameter.fragment := by
    intro s hs
    rcases List.mem_append.mp hs with hs | hs
    · obtain ⟨_, -, rfl⟩ := List.mem_map.mp hs
      exact usable_defaultFragment
    · obtain rfl := List.mem_singleton.mp hs
      exact husable
  have hunits := ofChars_expressionOf fun s hs => (husables s hs).lone
  obtain ⟨-, final, hfinal, -, rfl⟩ := Expression.read_eq_ok_iff.mp h
  rw [hunits] at hfinal
  obtain ⟨⟨_, hall⟩, -⟩ := Expression.draft_eq_ok_iff.mp hfinal
  generalize Units.width (behind names name fragment).units = left at hall
  rw [units_behind husable] at hall
  have hcaret : Draft.Reads (.start left) (.char '^' ::
      ((Segment.slashed names).flatMap Segment.units ++
        (.char '/' :: ((Units.ofChars fragment).1 ++ [.char '$'])))) [.edge false]
      ((Draft.start left).push (.anchor .textStart))
      ((Segment.slashed names).flatMap Segment.units ++
        (.char '/' :: ((Units.ofChars fragment).1 ++ [.char '$']))) := .next rfl rfl .done
  have hready := (Draft.Ready.start left).push (.anchor .textStart)
  have hgo : Draft.Goes _ _ := ⟨_, final, (hall.after hcaret).choose_spec⟩
  obtain ⟨_, e₁, hreads₁, hready₁, hbranch₁⟩ := hready.reads_slashed names hgo
  have hslash := hready₁.reads_slash ((Units.ofChars fragment).1 ++ [.char '$'])
  have hready₂ := hready₁.push (.letter '/')
  rw [Nat.zero_add] at hready₂
  obtain ⟨e', hreads', hmoved⟩ := hready₂.reads_fragment husable honward hdraft
    ((hgo.after hreads₁).after hslash)
  obtain ⟨hbranches, hpieces⟩ := hmoved.kept (.inr hwhole)
  have hmode : e'.level.mode = {} := by
    rw [hmoved.mode, (Draft.runs_of_draft hdraft).mode husable.not_flags]
    rfl
  obtain ⟨_, hend⟩ := hall.after (hcaret.trans (hreads₁.trans (hslash.trans
    (hreads'.trans (Draft.reads_dollar hmode)))))
  cases hend
  -- what the draft holds at the end
  have hnone : (e'.push (.anchor .lastLineEnd)).level.branches = [] := by
    show e'.level.branches = []
    rw [hbranches, hwhole]
    rfl
  have hbranch : (e'.push (.anchor .lastLineEnd)).level.branch =
      .atom (.place .textStart) :: (Part.slashedGroups 0 names.length ++ .letter '/' ::
        (d.level.branch.map (Part.shift names.length) ++ [.atom (.place .lastLineEnd)])) :=
    branch_behind hbranch₁ hpieces
  have hcontent : (e'.push (.anchor .lastLineEnd)).level.content =
      (e'.push (.anchor .lastLineEnd)).level.branch := by
    rw [Level.content, hnone]
    rfl
  have honward := hmoved.onward.branch
  refine ⟨?_, hmoved.known.groups, ?_, honward⟩
  · rw [Level.term, hcontent, hbranch]
  · have hwidth := hmoved.known.width (Part.onward_termOf honward)
    rw [Level.term, hcontent, hbranch, Part.least_termOf_cons, Part.least_termOf_append,
      Part.least_slashedGroups, Part.least_termOf_cons, Part.least_termOf_append,
      Part.termOf_shift]
    show 0 + (2 * names.length + (1 + ((((Part.termOf d.level.branch).shift names.length).width
      e'.widthOf).least + 0))) = _
    rw [hwidth]
    omega

end Cut

/-! ## Matching -/

namespace Regex

theorem shift_zero (r : Regex) : r.shift 0 = r := by
  induction r with
  | empty | one | place | again => rfl
  | seq a b iha ihb | either a b iha ihb | ifGroup _ a b iha ihb =>
    simp only [shift, iha, ihb, Nat.add_zero]
  | alternative r ih | atomic r ih | loop _ _ _ r ih | look _ _ r ih => simp only [shift, ih]
  | group _ r ih => simp only [shift, ih, Nat.add_zero]

end Regex

/-- The marks of a success. -/
def Attempt.marks? : Attempt → Option Marks
  | .matched trail => some trail.marks
  | .failed _ => none

namespace Expression

/-- A match of a whole text is told by the successes of any attempt that has the same ones. -/
theorem wholeMarks_eq {e : Expression} {text : Array Char} {attempt : Attempt}
    (h : ∀ u, e.regex.run text false none (atEnd text) 0 (.start 0) = .matched u ↔
      attempt = .matched u) :
    e.wholeMarks text = if text.size < e.least then none else attempt.marks? := by
  unfold wholeMarks
  split
  · rfl
  · cases hrun : e.regex.run text false none (atEnd text) 0 (.start 0) with
    | matched u =>
      rw [(h u).mp hrun]
      rfl
    | failed u =>
      cases attempt with
      | matched u =>
        rw [(h u).mpr rfl] at hrun
        cases hrun
      | failed => rfl

/-- The groups in front take the values, and the rest of the term begins behind the last slash. -/
theorem run_behind {values : List (List Char)} {w : List Char} {parts : List Part} {u : Trail}
    (hvalues : ∀ value ∈ values, IsValue value) (hparts : parts ≠ []) :
    (Part.termOf (.atom (.place .textStart) ::
        (Part.slashedGroups 0 values.length ++ .letter '/' :: parts))).run
        (PathTemplate.slashed values ++ '/' :: w).toArray false none
        (atEnd (PathTemplate.slashed values ++ '/' :: w).toArray) 0 (.start 0) = .matched u ↔
      (Part.termOf parts).run (PathTemplate.slashed values ++ '/' :: w).toArray false none
        (atEnd (PathTemplate.slashed values ++ '/' :: w).toArray)
        (1 + (PathTemplate.slashed values).length)
        ⟨(PathTemplate.slashed values).length, Marks.ofValues 0 values⟩ = .matched u := by
  generalize hpath : PathTemplate.slashed values ++ '/' :: w = path
  have hne : Part.slashedGroups 0 values.length ++ .letter '/' :: parts ≠ [] := by simp
  have hslice : slice path.toArray 0 path.toArray.size = PathTemplate.slashed values ++ '/' :: w := by
    rw [hpath]
    simp [slice]
  have hslash : path.toArray[(PathTemplate.slashed values).length]? = some '/' := by
    simp [← hpath]
  have hrun : (Part.termOf (Part.slashedGroups 0 values.length ++ .letter '/' :: parts)).run
        path.toArray false none (atEnd path.toArray) 0 ⟨0, []⟩ = .matched u ↔ _ :=
    Part.run_slashedGroups hvalues (Nat.zero_le _) hslice rfl
  rw [Nat.zero_add, Part.run_slash hparts hslash, Nat.add_comm] at hrun
  rw [Part.run_cons _ hne]
  exact hrun

end Expression

/-- The path with some values in front, as the move of the path without them. -/
def Move.behind (values : List (List Char)) (w : List Char) : Move where
  text := ('/' :: w).toArray
  longer := (PathTemplate.slashed values ++ '/' :: w).toArray
  offset := (PathTemplate.slashed values).length
  marks := Marks.ofValues 0 values
  groups := values.length
  size := by
    simp only [List.size_toArray, List.length_append]
    omega
  get := by
    intro pos
    rw [List.getElem?_toArray, List.getElem?_toArray, List.getElem?_append_right (by omega),
      Nat.add_sub_cancel]
  places := Marks.length_ofValues 0 values

namespace Move

variable {values : List (List Char)} {w : List Char}

theorem follows_atEnd (m : Move) (low first : Nat) :
    m.Follows low first first (Expression.atEnd m.text) (Expression.atEnd m.longer) := by
  intro pos t hfirst hsize hlow hhead
  have hend : (pos + m.offset == m.longer.size) = (pos == m.text.size) := by
    rw [m.size, Bool.eq_iff_iff, beq_iff_eq, beq_iff_eq]
    omega
  unfold Expression.atEnd
  rw [hend]
  split
  · exact .matched hfirst hsize
  · exact .failed hlow hhead

/-- The groups of the values in front are in order, and those behind are as they are alone. -/
theorem crossed_behind {short long : Expression} (hgroups : long.groups = short.groups + values.length)
    (t : Trail) :
    long.groupNumbers.any ((behind values w).trail t).marks.isCrossed =
      short.groupNumbers.any t.marks.isCrossed := by
  have hshifted : ∀ number, ((behind values w).trail t).marks.isCrossed
      (number + 1 + values.length) = t.marks.isCrossed (number + 1) :=
    fun number => (behind values w).isCrossed_trail (Nat.succ_pos number) t
  rw [Bool.eq_iff_iff, Expression.groupNumbers, Expression.groupNumbers, List.any_map, List.any_map,
    List.any_eq_true, List.any_eq_true, hgroups]
  constructor
  · rintro ⟨number, hnumber, hcrossed⟩
    rw [List.mem_range] at hnumber
    by_cases hfront : number < values.length
    · have hordered : ((behind values w).trail t).marks.isCrossed (number + 1) = false :=
        Marks.isCrossed_ofValues _ hfront
      rw [Function.comp_apply, hordered] at hcrossed
      cases hcrossed
    · obtain ⟨inner, rfl⟩ : ∃ inner, number = inner + values.length :=
        ⟨number - values.length, by omega⟩
      refine ⟨inner, List.mem_range.mpr (by omega), ?_⟩
      rw [Function.comp_apply, Nat.add_right_comm, hshifted] at hcrossed
      exact hcrossed
  · rintro ⟨number, hnumber, hcrossed⟩
    rw [List.mem_range] at hnumber
    refine ⟨number + values.length, List.mem_range.mpr (by omega), ?_⟩
    rw [Function.comp_apply, Nat.add_right_comm, hshifted]
    exact hcrossed

theorem two_mul_le_length_slashed {values : List (List Char)} (h : ∀ value ∈ values, IsValue value) :
    2 * values.length ≤ (PathTemplate.slashed values).length := by
  induction values with
  | nil => exact Nat.zero_le _
  | cons value values ih =>
    have hne : value.length ≠ 0 :=
      fun hnil => (h value List.mem_cons_self).nonempty (List.eq_nil_of_length_eq_zero hnil)
    have hrest := ih fun v hv => h v (List.mem_cons_of_mem _ hv)
    rw [PathTemplate.slashed_cons, List.length_cons, List.length_cons, List.length_append]
    omega

/-- Two expressions that come to the same term, in the one behind the values, match alike. A path that
is too short for the term is not matched by either, unless the term can take less than is asked for.
-/
theorem agree_behind {short long : Expression} {r : Regex} {again : Bool} {least : Nat}
    (hr : r.Onward again) (hroom : least ≤ w.length ∨ least = r.least)
    (hvalues : ∀ value ∈ values, IsValue value)
    (hgroups : long.groups = short.groups + values.length)
    (hshort : short.wholeMarks ('/' :: w).toArray =
      if ('/' :: w).length < 1 + least then none
      else (r.run ('/' :: w).toArray false none (Expression.atEnd ('/' :: w).toArray) 1
        ⟨0, []⟩).marks?)
    (hlong : long.wholeMarks (PathTemplate.slashed values ++ '/' :: w).toArray =
      if (PathTemplate.slashed values ++ '/' :: w).length < 2 * values.length + 1 + least then none
      else ((r.shift values.length).run (PathTemplate.slashed values ++ '/' :: w).toArray false none
        (Expression.atEnd (PathTemplate.slashed values ++ '/' :: w).toArray)
        (1 + (PathTemplate.slashed values).length)
        ⟨(PathTemplate.slashed values).length, Marks.ofValues 0 values⟩).marks?) :
    (long.fullMatch (PathTemplate.slashed values ++ '/' :: w).toArray).map Option.isSome =
      (short.fullMatch ('/' :: w).toArray).map Option.isSome := by
  have hsize : (behind values w).text.size = w.length + 1 := List.length_cons
  have hfirst : 1 ≤ (behind values w).text.size := by omega
  have htrail : (behind values w).trail ⟨0, []⟩ =
      ⟨(PathTemplate.slashed values).length, Marks.ofValues 0 values⟩ := by
    simp [trail, behind]
  have hcarries : (behind values w).Carries 0 (1 + r.least)
      (r.run ('/' :: w).toArray false none (Expression.atEnd ('/' :: w).toArray) 1 ⟨0, []⟩)
      ((r.shift values.length).run (PathTemplate.slashed values ++ '/' :: w).toArray false none
        (Expression.atEnd (PathTemplate.slashed values ++ '/' :: w).toArray)
        (1 + (PathTemplate.slashed values).length)
        ⟨(PathTemplate.slashed values).length, Marks.ofValues 0 values⟩) := by
    rw [← htrail]
    exact Regex.carries_run (behind values w) hr ((behind values w).follows_atEnd 0 _)
      (Nat.succ_pos 0) hfirst (Nat.zero_le _) (Nat.zero_le _) (Nat.zero_le _)
  unfold Expression.fullMatch
  rw [hshort, hlong]
  generalize r.run ('/' :: w).toArray false none (Expression.atEnd ('/' :: w).toArray) 1 ⟨0, []⟩ =
    attempt at hcarries ⊢
  generalize (r.shift values.length).run (PathTemplate.slashed values ++ '/' :: w).toArray false none
      (Expression.atEnd (PathTemplate.slashed values ++ '/' :: w).toArray)
      (1 + (PathTemplate.slashed values).length)
      ⟨(PathTemplate.slashed values).length, Marks.ofValues 0 values⟩ = attempt' at hcarries ⊢
  cases hcarries with
  | failed => simp [Attempt.marks?]
  | @matched t htop hend =>
    -- a success has taken what the term takes at least, so neither path is too short
    have hfront := two_mul_le_length_slashed hvalues
    have hlength : ('/' :: w).length = w.length + 1 := List.length_cons
    have hlength' : (PathTemplate.slashed values ++ '/' :: w).length =
        (PathTemplate.slashed values).length + (w.length + 1) := by simp
    have henough : least ≤ w.length := by
      rcases hroom with hroom | hroom <;> omega
    rw [if_neg (by omega), if_neg (by omega)]
    simp only [Attempt.marks?, crossed_behind hgroups]
    split <;> rfl

end Move

namespace CompiledPattern

/-- The pattern of some placeholders, each behind a slash, with one behind them that has a fragment. -/
def behindPattern (names : List (List Char)) (name fragment : List Char) : List Char :=
  names.flatMap (fun front => ['/', '{'] ++ front ++ ['}']) ++
    (['/', '{'] ++ name ++ [':'] ++ fragment ++ ['}'])

variable {names values : List (List Char)} {name fragment w : List Char}

theorem ofPattern_behindPattern {compiled : CompiledPattern} (hnames : ∀ front ∈ names, IsName front)
    (hname : IsName name) (husable : Usable fragment)
    (h : compile (behindPattern names name fragment) defaultFragment true = .ok compiled) :
    Cut.ofPattern (behindPattern names name fragment) defaultFragment =
      Cut.behind names name fragment := by
  have hfront : Cut.Writable defaultFragment ⟨Segment.slashed names, []⟩ :=
    { literals := by
        intro c hc
        rw [Cut.literals, List.append_nil] at hc
        obtain ⟨s, hs, hc⟩ := List.mem_flatMap.mp hc
        obtain ⟨front, -, rfl⟩ := List.mem_map.mp hs
        obtain rfl := List.mem_singleton.mp hc
        decide
      names := by
        intro s hs
        obtain ⟨front, hfront, rfl⟩ := List.mem_map.mp hs
        exact hnames front hfront
      fragments := by
        intro s hs
        obtain ⟨front, -, rfl⟩ := List.mem_map.mp hs
        rfl }
  have hslash : '{' ∉ ['/'] := by decide
  refine Cut.ofPattern_given hfront hslash hname husable ?_ h
  simp [behindPattern, Cut.written, Segment.slashed, List.flatMap_map, Segment.written,
    Parameter.written, Parameter.mark]

/-- What is read of the fragment, with the end of the pattern behind it. -/
theorem exists_behind {compiled : CompiledPattern} {again : Bool} {d : Draft} (w : List Char)
    (hnames : ∀ front ∈ names, IsName front) (hname : IsName name) (husable : Usable fragment)
    (honward : ∀ c ∈ Expression.constructs fragment, c.isOnward again = true)
    (hdraft : Expression.draft (Units.ofChars fragment).1 = .ok d)
    (hwhole : d.level.branches = [])
    (h : compile (behindPattern names name fragment) defaultFragment true = .ok compiled)
    (hvalues : ∀ value ∈ values, IsValue value) (hlength : values.length = names.length) :
    compiled.regex.wholeMarks (PathTemplate.slashed values ++ '/' :: w).toArray =
        (if (PathTemplate.slashed values ++ '/' :: w).length <
            2 * values.length + 1 + ((Part.termOf d.level.branch).width d.widthOf).least then none
        else (((Part.termOf (d.level.branch ++ [.atom (.place .lastLineEnd)])).shift
          values.length).run (PathTemplate.slashed values ++ '/' :: w).toArray false none
            (Expression.atEnd (PathTemplate.slashed values ++ '/' :: w).toArray)
            (1 + (PathTemplate.slashed values).length)
            ⟨(PathTemplate.slashed values).length, Marks.ofValues 0 values⟩).marks?) ∧
      compiled.regex.groups = d.groups + values.length ∧
      Part.Onward again d.level.branch := by
  obtain ⟨-, -, hread, -⟩ := exists_of_compile h
  rw [ofPattern_behindPattern hnames hname husable h] at hread
  obtain ⟨hregex, hgroups, hleast, honward⟩ := Cut.read_behind husable honward hdraft hwhole hread
  rw [← hlength] at hregex hgroups hleast
  have hterm : Part.termOf (d.level.branch.map (Part.shift values.length) ++
      [.atom (.place .lastLineEnd)]) =
        (Part.termOf (d.level.branch ++ [.atom (.place .lastLineEnd)])).shift values.length := by
    rw [← Part.termOf_shift, List.map_append]
    rfl
  refine ⟨?_, hgroups, honward⟩
  rw [← hterm, ← hleast]
  apply Expression.wholeMarks_eq
  intro u
  rw [hregex]
  exact Expression.run_behind hvalues (by simp)

/-- A fragment that cannot tell where it stands matches the same behind other placeholders. -/
theorem fullMatch_behind {short long : CompiledPattern} (hnames : ∀ front ∈ names, IsName front)
    (hname : IsName name) (husable : Usable fragment)
    (honward : ∀ c ∈ Expression.constructs fragment, c.isOnward true = true)
    (hwhole : Expression.isChoice fragment = false)
    (hwide : (∀ c ∈ Expression.constructs fragment, c.isOnward false = true) ∨
      ∀ e, Expression.read fragment = .ok e → e.least ≤ w.length)
    (hshort : compile (behindPattern [] name fragment) defaultFragment true = .ok short)
    (hlong : compile (behindPattern names name fragment) defaultFragment true = .ok long)
    (hlength : values.length = names.length) (hvalues : ∀ value ∈ values, IsValue value) :
    (long.fullMatch (PathTemplate.slashed values ++ '/' :: w)).map Option.isSome =
      (short.fullMatch ('/' :: w)).map Option.isSome := by
  obtain ⟨-, -, e, hread⟩ := husable.passed
  obtain ⟨-, d, hdraft, -, rfl⟩ := Expression.read_eq_ok_iff.mp hread
  have hnone : d.level.branches = [] := by
    rw [Expression.isChoice, hdraft] at hwhole
    simpa using hwhole
  have hterm : d.level.term = Part.termOf d.level.branch := by
    rw [Level.term, Level.content, hnone]
    rfl
  -- both matches, from behind the slash on
  obtain ⟨hlongMarks, hlongGroups, hinner⟩ :=
    exists_behind w hnames hname husable honward hdraft hnone hlong hvalues hlength
  have hnoNames : ∀ front ∈ ([] : List (List Char)), IsName front := by simp
  have hnoValues : ∀ value ∈ ([] : List (List Char)), IsValue value := by simp
  obtain ⟨hshortMarks, hshortGroups, -⟩ :=
    exists_behind w hnoNames hname husable honward hdraft hnone hshort hnoValues rfl
  have hleast : (Part.termOf (d.level.branch ++ [.atom (.place .lastLineEnd)])).least =
      (Part.termOf d.level.branch).least := Part.least_termOf_append _ _
  have hregex : (Part.termOf (d.level.branch ++ [.atom (.place .lastLineEnd)])).Onward true := by
    refine Part.onward_termOf fun part hpart => ?_
    rcases List.mem_append.mp hpart with hpart | hpart
    · exact hinner part hpart
    · obtain rfl := List.mem_singleton.mp hpart
      trivial
  have hroom : ((Part.termOf d.level.branch).width d.widthOf).least ≤ w.length ∨
      ((Part.termOf d.level.branch).width d.widthOf).least =
        (Part.termOf (d.level.branch ++ [.atom (.place .lastLineEnd)])).least := by
    rcases hwide with hnever | hwide
    · obtain ⟨-, -, hnever⟩ :=
        exists_behind w hnoNames hname husable hnever hdraft hnone hshort hnoValues rfl
      right
      rw [hleast]
      exact Regex.least_width_eq (Part.onward_termOf hnever)
    · left
      have hle := hwide _ hread
      rw [hterm] at hle
      exact hle
  rw [List.length_nil, Regex.shift_zero] at hshortMarks
  have hgroups : long.regex.groups = short.regex.groups + values.length := by
    rw [hlongGroups, hshortGroups]
    rfl
  exact Move.agree_behind hregex hroom hvalues hgroups hshortMarks hlongMarks

/-- A fragment that looks ahead and takes a group again by its name, behind one placeholder. -/
theorem fullMatch_behind_named : ∃ short long,
    compile (behindPattern [] "k".toList "((?P<g>a|b)(?=c)c(?P=g))".toList) defaultFragment true =
      .ok short ∧
    compile (behindPattern ["x".toList] "k".toList "((?P<g>a|b)(?=c)c(?P=g))".toList) defaultFragment
      true = .ok long ∧
    (short.fullMatch "/bcb".toList).map Option.isSome = .ok true ∧
    (long.fullMatch "/v/bcb".toList).map Option.isSome = .ok true := by
  obtain ⟨short, long, e, hshort, hlong, hread, hleast, hmatch⟩ : ∃ short long e,
      compile (behindPattern [] "k".toList "((?P<g>a|b)(?=c)c(?P=g))".toList) defaultFragment true =
        .ok short ∧
      compile (behindPattern ["x".toList] "k".toList "((?P<g>a|b)(?=c)c(?P=g))".toList)
        defaultFragment true = .ok long ∧
      Expression.read "((?P<g>a|b)(?=c)c(?P=g))".toList = .ok e ∧ e.least = 3 ∧
      (short.fullMatch "/bcb".toList).map Option.isSome = .ok true :=
    ⟨_, _, _, rfl, rfl, rfl, rfl, Draft.toOption_eq_some.mp (by decide +kernel)⟩
  have hwide : ∀ e', Expression.read "((?P<g>a|b)(?=c)c(?P=g))".toList = .ok e' →
      e'.least ≤ "bcb".toList.length := by
    intro e' he'
    rw [hread] at he'
    cases he'
    rw [hleast]
    decide
  have husable : Usable "((?P<g>a|b)(?=c)c(?P=g))".toList := rfl
  have honward : ∀ c ∈ Expression.constructs "((?P<g>a|b)(?=c)c(?P=g))".toList,
      c.isOnward true = true := by decide
  have hwhole : Expression.isChoice "((?P<g>a|b)(?=c)c(?P=g))".toList = false := rfl
  have hsame : (long.fullMatch (PathTemplate.slashed ["v".toList] ++ '/' :: "bcb".toList)).map
      Option.isSome = (short.fullMatch ('/' :: "bcb".toList)).map Option.isSome :=
    fullMatch_behind (by decide) (by decide) husable honward hwhole (.inr hwide) hshort hlong rfl
      (by decide)
  exact ⟨short, long, hshort, hlong, hmatch, hsame.trans hmatch⟩

/-- A fragment that names a group by its number means something else behind a placeholder: the group
in front is counted. -/
theorem fullMatch_behind_numbered : ∃ short long, Usable "((a)(b)\\3)".toList ∧
    IsName "x".toList ∧ IsName "k".toList ∧ IsValue "v".toList ∧
    compile (behindPattern [] "k".toList "((a)(b)\\3)".toList) defaultFragment true = .ok short ∧
    compile (behindPattern ["x".toList] "k".toList "((a)(b)\\3)".toList) defaultFragment true =
      .ok long ∧
    (short.fullMatch "/abb".toList).map Option.isSome = .ok true ∧
    (long.fullMatch (PathTemplate.slashed ["v".toList] ++ "/abb".toList)).map Option.isSome =
      .ok false := by
  refine ⟨_, _, rfl, ?_, ?_, ?_, rfl, rfl, Draft.toOption_eq_some.mp ?_,
    Draft.toOption_eq_some.mp ?_⟩
  · decide
  · decide
  · decide
  · decide +kernel
  · decide +kernel

end CompiledPattern

end RequestRouter
