import RequestRouter.Proofs.Reading.Chain
import RequestRouter.Proofs.Reading.Runs

/-!
# Simple constructs

The constructs that literals, classes, groups, choices and repetitions are written with. On one
level a simple construct adds a test, repeats the last piece or begins a new alternative, and a
simple parenthesis records a group or nothing (`Draft.take_of_test?`, `Draft.openWith_of_isSimple`).
So the term that simple constructs amount to is tame, and its groups are numbered in the order in
which they open (`Draft.Runs.chained`, `Expression.regular_of_isSimple`).
-/

namespace RequestRouter

/-- A parenthesis that records a group. -/
def Opening.captures : Opening → Bool
  | .capture | .named _ => true
  | _ => false

/-- A parenthesis that records a group or only encloses. -/
def Opening.isSimple : Opening → Bool
  | .capture | .named _ | .scoped [] [] => true
  | _ => false

namespace Construct

/-- The test that a construct stands for, by the flags in force. -/
def test? (mode : Mode) : Construct → Option CharTest
  | .letter c => some (.literal mode.folding false c.toNat)
  | .escape (.code code) => some (.literal mode.folding false code)
  | .escape (.item item) => some (.classOf mode.folding false [item])
  | .dot => some (.any mode.dotAll)
  | .oneOf test => some test
  | _ => none

/-- Literals, classes, groups, choices and repetitions, the possessive ones only if `possessive` is
set. -/
def isSimple (possessive : Bool) : Construct → Bool
  | .letter _ | .dot | .oneOf _ | .escape (.code _) | .escape (.item _) => true
  | .quantifier _ greed => possessive || greed != .possessive
  | .opening header => header.isSimple
  | .close | .bar => true
  | _ => false

variable {possessive : Bool} {construct : Construct}

theorem cases_of_isSimple (h : construct.isSimple possessive = true)
    (hopens : construct.opens = false) (hclose : construct ≠ .close) :
    (∀ mode, ∃ test, construct.test? mode = some test) ∨
      (∃ bounds greed, construct = .quantifier bounds greed ∧
        (greed = .possessive → possessive = true)) ∨ construct = .bar := by
  cases construct with
  | letter | dot | oneOf => exact .inl fun mode => ⟨_, rfl⟩
  | escape meaning =>
    cases meaning with
    | code | item => exact .inl fun mode => ⟨_, rfl⟩
    | _ => cases h
  | quantifier bounds greed =>
    refine .inr (.inl ⟨bounds, greed, rfl, ?_⟩)
    rintro rfl
    cases possessive with
    | true => rfl
    | false => cases h
  | opening header =>
    cases header with
    | capture | named | «scoped» => cases hopens
    | _ => cases h
  | bar => exact .inr (.inr rfl)
  | close => exact absurd rfl hclose
  | _ => cases h

theorem isComment_of_isSimple (h : construct.isSimple possessive = true) :
    construct.isComment = false := by
  cases construct with
  | opening header =>
    cases header with
    | comment => cases h
    | _ => rfl
  | remark => cases h
  | _ => rfl

theorem ordered_of_read {mode : Mode} {unit : Lexeme} {rest after : Units} {bounds : Bounds}
    {greed : Greed} (h : read mode unit rest = .ok (.quantifier bounds greed, after)) :
    bounds.most.all (bounds.least ≤ ·) = true := by
  obtain ⟨c, left, h⟩ := begins_of_read h
  unfold Bounds.read? at h
  split at h
  · cases h
    rfl
  · cases h
    rfl
  · cases h
    rfl
  · unfold Bounds.readBraced at h
    split at h
    · cases h
    · split at h
      · cases h
      · obtain ⟨least, -, h⟩ := exists_of_bind_ok h
        obtain ⟨most, -, h⟩ := exists_of_bind_ok h
        dsimp only at h
        split at h
        · cases h
        · next hordered =>
          cases h
          cases most <;> simp at hordered ⊢
          exact hordered
  · cases h

end Construct

/-! ## Levels in order -/

/-- The alternatives of a level, the one being read among them, hold groups numbered in order. -/
def Level.Chained (possessive : Bool) (first last : Nat) (level : Level) : Prop :=
  Part.Chains possessive first last (level.branch :: level.branches).reverse

namespace Level

variable {possessive : Bool} {first middle last : Nat} {level : Level}

theorem branch_push (level : Level) (piece : Piece) :
    (level.push piece).branch = level.branch ++ piece.parts := by
  simp [branch, push]

theorem chained_iff : level.Chained possessive first last ↔
    ∃ middle, Part.Chains possessive first middle level.branches.reverse ∧
      Part.Chain possessive middle last level.branch := by
  rw [Chained, List.reverse_cons, Part.chains_append]
  constructor
  · rintro ⟨middle, hbranches, _, hbranch, rfl⟩
    exact ⟨middle, hbranches, hbranch⟩
  · rintro ⟨middle, hbranches, hbranch⟩
    exact ⟨middle, hbranches, last, hbranch, rfl⟩

theorem Chained.push {piece : Piece} (h : level.Chained possessive first middle)
    (hpiece : Part.Chain possessive middle last piece.parts) :
    (level.push piece).Chained possessive first last := by
  obtain ⟨start, hbranches, hbranch⟩ := chained_iff.mp h
  refine chained_iff.mpr ⟨start, hbranches, ?_⟩
  rw [branch_push]
  exact Part.chain_append.mpr ⟨middle, hbranch, hpiece⟩

theorem Chained.repeat {piece : Piece} {before : List Piece} {greed : Greed} {bounds : Bounds}
    (h : level.Chained possessive first last) (hpieces : level.pieces = piece :: before)
    (hgreed : greed = .possessive → possessive = true)
    (hbounds : bounds.most.all (bounds.least ≤ ·) = true) :
    Chained possessive first last { level with
      pieces := .repeated (.loop greed bounds.least bounds.most piece.regex) :: before } := by
  obtain ⟨start, hbranches, hbranch⟩ := chained_iff.mp h
  have hsplit : level.branch = before.reverse.flatMap Piece.parts ++ piece.parts := by
    simp [branch, hpieces]
  rw [hsplit] at hbranch
  obtain ⟨middle, hbefore, hpiece⟩ := Part.chain_append.mp hbranch
  obtain ⟨htame, hnumbered⟩ := Part.termOf_of_chain hpiece
  refine chained_iff.mpr ⟨start, hbranches, ?_⟩
  have hrepeated : Part.Chain possessive middle last
      (Piece.repeated (.loop greed bounds.least bounds.most piece.regex)).parts :=
    Part.chain_singleton.mpr ⟨⟨hgreed, hbounds, htame⟩, hnumbered, fun h => (nomatch h)⟩
  simp only [branch, List.reverse_cons, List.flatMap_append, List.flatMap_singleton]
  exact Part.chain_append.mpr ⟨middle, hbefore, hrepeated⟩

theorem Chained.alternate (h : level.Chained possessive first last) :
    Chained possessive first last
      { level with branches := level.branch :: level.branches, pieces := [] } :=
  chained_iff.mpr ⟨last, h, rfl⟩

theorem Chained.content (h : level.Chained possessive first last) :
    Part.Chain possessive first last level.content :=
  Part.chain_joined _ h

end Level

namespace Draft

variable {d d' : Draft} {left : Nat} {after : Units} {construct : Construct}

theorem take_of_test? {test : CharTest} (h : construct.test? d.level.mode = some test) :
    d.take left after construct = some (d.push (.atom (.one test))) := by
  cases construct with
  | escape meaning =>
    cases meaning with
    | code | item =>
      cases h
      rfl
    | _ => cases h
  | letter | dot | oneOf =>
    cases h
    rfl
  | _ => cases h

theorem repeated?_eq_some {bounds : Bounds} {greed : Greed} (h : d.repeated? bounds greed =
    some d') :
    ∃ piece before, d.level.pieces = piece :: before ∧
      d' = { d with level := { d.level with
        pieces := .repeated (.loop greed bounds.least bounds.most piece.regex) :: before } } := by
  unfold repeated? at h
  split at h
  · cases h
  · cases h
  · cases h
  · next piece before _ _ hpieces =>
    cases h
    exact ⟨piece, before, hpieces, rfl⟩

theorem take_bar (h : d.take left after .bar = some d') :
    d' = { d with level := { d.level with branches := d.level.branch :: d.level.branches, pieces :=
      [] } } := by
  have h := toOption_eq_some.mp h
  unfold alternate at h
  dsimp only at h
  split at h
  · split at h
    · cases h
      rfl
    · cases h
  · cases h
    rfl

/-- A simple parenthesis opens a level for a group, or one that only encloses. -/
theorem openWith_of_isSimple {header : Opening} (hsimple : header.isSimple = true)
    (h : d.openWith left after header = .ok d') :
    d'.level = { opener := if header.captures then .capture d'.groups else .bare false,
                 left, mode := d.level.mode } ∧
      d'.groups = (if header.captures then d.groups + 1 else d.groups) ∧
      d'.outer = d.level :: d.outer ∧ d'.tests = d.tests := by
  cases header with
  | capture =>
    cases h
    exact ⟨rfl, rfl, rfl, rfl⟩
  | named name =>
    unfold openWith at h
    dsimp only at h
    split at h
    · cases h
    · cases h
      exact ⟨rfl, rfl, rfl, rfl⟩
  | «scoped» on off =>
    cases on with
    | cons => cases hsimple
    | nil =>
      cases off with
      | cons => cases hsimple
      | nil =>
        cases h
        exact ⟨rfl, rfl, rfl, rfl⟩
  | _ => cases hsimple

theorem ascend_groups (d : Draft) (around : Level) (outer : List Level) :
    (d.ascend around outer).groups = d.groups := by
  unfold ascend closeMarks
  split <;> rfl

theorem ascend_tests (d : Draft) (around : Level) (outer : List Level) :
    (d.ascend around outer).tests = d.tests := by
  unfold ascend closeMarks
  split <;> rfl

/-- The level that a simple parenthesis opens closes into one piece. -/
theorem closedParts_of_opener {captures : Bool} {number : Nat}
    (h : d.level.opener = if captures then .capture number else .bare false) :
    d.closedParts =
      if captures then [.whole (.group number d.level.term)] else d.level.content := by
  unfold closedParts
  cases captures <;> simp [h]

namespace Runs

variable {units rest : Units} {cs : List Construct} {possessive : Bool} {first : Nat}

theorem mode_of_isSimple (h : Runs d units cs d' rest)
    (hsimple : ∀ c ∈ cs, c.isSimple possessive = true) : d'.level.mode = d.level.mode :=
  h.mode fun _ hmem => nomatch hsimple _ hmem

/-- Over simple constructs the groups of the innermost level stay in order. -/
theorem chained (h : Runs d units cs d' rest) (hsimple : ∀ c ∈ cs, c.isSimple possessive = true)
    (hlevel : d.level.Chained possessive first d.groups) :
    d'.level.Chained possessive first d'.groups := by
  induction h generalizing first with
  | nil => exact hlevel
  | @cons d _ _ construct _ d₁ _ _ _ hopens hclose hread htake _ ih =>
    have hrest := fun c hc => hsimple c (List.mem_cons_of_mem _ hc)
    have hone := hsimple _ List.mem_cons_self
    refine ih hrest ?_
    rcases Construct.cases_of_isSimple hone hopens hclose with htest | ⟨_, _, rfl, hgreed⟩ | rfl
    · obtain ⟨test, htest⟩ := htest d.level.mode
      rw [take_of_test? htest] at htake
      cases htake
      exact hlevel.push (Part.chain_singleton.mpr (Part.Link.of_test test _))
    · obtain ⟨piece, before, hpieces, rfl⟩ := repeated?_eq_some htake
      exact hlevel.repeat hpieces hgreed (Construct.ordered_of_read hread)
    · obtain rfl := take_bar htake
      exact hlevel.alternate
  | @bracket d _ _ header _ d₁ body d₂ _ _ _ _ _ _ hopen hbody _ ihbody ih =>
    have hheader : header.isSimple = true := hsimple _ List.mem_cons_self
    have hinner := fun c hc => hsimple c (List.mem_cons_of_mem _ (List.mem_append_left _ hc))
    have hrest := fun c hc => hsimple c
      (List.mem_cons_of_mem _ (List.mem_append_right _ (List.mem_cons_of_mem _ hc)))
    obtain ⟨hlevel₁, hgroups, -, -⟩ := openWith_of_isSimple hheader hopen
    have hblank : d₁.level.Chained possessive d₁.groups d₁.groups := by
      rw [hlevel₁]
      exact Level.chained_iff.mpr ⟨_, rfl, rfl⟩
    have hcontent := (ihbody hinner hblank).content
    have hopener : d₂.level.opener =
        if header.captures then .capture d₁.groups else .bare false := by
      rw [hbody.opener, hlevel₁]
    refine ih hrest (Level.Chained.push hlevel ?_)
    rw [ascend_groups, Piece.parts, closedParts_of_opener hopener]
    cases hcaptures : header.captures with
    | false =>
      rw [hcaptures, if_neg Bool.false_ne_true] at hgroups
      rw [if_neg Bool.false_ne_true, ← hgroups]
      exact hcontent
    | true =>
      rw [hcaptures, if_pos rfl] at hgroups
      rw [if_pos rfl]
      obtain ⟨htame, hnumbered⟩ := Part.termOf_of_chain hcontent
      refine Part.chain_singleton.mpr ⟨htame, ⟨hgroups, ?_⟩, fun h => (nomatch h)⟩
      rw [← hgroups]
      exact hnumbered

end Runs

end Draft

/-! ## Expressions of simple constructs -/

namespace Expression

variable {text : List Char} {d : Draft} {possessive : Bool}

/-- The parts that simple constructs amount to hold groups numbered in order. -/
theorem chain_of_isSimple (h : draft (Units.ofChars text).1 = .ok d)
    (hsimple : ∀ c ∈ constructs text, c.isSimple possessive = true) :
    Part.Chain possessive 0 d.groups d.level.content ∧ d.level.mode = {} := by
  have hruns := Draft.runs_of_draft h
  have hblank : (Draft.start (Units.ofChars text).1.width).level.Chained possessive 0 0 :=
    Level.chained_iff.mpr ⟨0, rfl, rfl⟩
  exact ⟨(hruns.chained hsimple hblank).content, hruns.mode_of_isSimple hsimple⟩

/-- The search is right for expressions of simple constructs, if possessive repetitions keep single
characters. -/
theorem regular_of_isSimple {e : Expression} (h : read text = .ok e)
    (hsimple : ∀ c ∈ constructs text, c.isSimple possessive = true)
    (hkeeps : e.regex.keepsSingly = true) : e.Regular ∧ e.regex.Tame possessive := by
  obtain ⟨-, d, hdraft, -, rfl⟩ := read_eq_ok_iff.mp h
  obtain ⟨htame, hnumbered⟩ := Part.termOf_of_chain (chain_of_isSimple hdraft hsimple).1
  exact ⟨⟨htame.ordinary hkeeps, hnumbered, d.widthOf, rfl⟩, htame⟩

end Expression

end RequestRouter
