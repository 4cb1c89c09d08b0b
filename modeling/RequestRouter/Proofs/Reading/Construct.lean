import RequestRouter.Proofs.Reading.Classes
import RequestRouter.Proofs.Reading.Openings
import RequestRouter.Regex.Reader

/-!
# Constructs

A step of the reader takes one construct off the text and then finds a place for it in the draft.
`Construct.read` is the first half, which looks at the flags in force and at nothing else of the
draft, and `Draft.take` is the second (`Draft.step_eq_ok_iff`). `Draft.Reads` is a run of such
steps, and `Expression.constructs` lists the constructs of an expression text.
-/

namespace RequestRouter

/-- What one step takes off an expression text. -/
inductive Construct
  /-- A character that stands for itself. -/
  | letter (c : Char)
  | escape (meaning : Escape.Meaning)
  | dot
  /-- A circumflex, or a dollar sign if `last` is set. -/
  | edge (last : Bool)
  | oneOf (test : CharTest)
  | quantifier (bounds : Bounds) (greed : Greed)
  /-- An opening parenthesis with its header. -/
  | opening (header : Opening)
  | close
  | bar
  /-- White space that is skipped. -/
  | layout
  /-- A line that is skipped from a number sign on. -/
  | remark
  deriving DecidableEq, Repr

namespace Construct

/-- A quantifier, or a character that stands for itself. -/
def ofBounds (c : Char) (rest : Units) : Option (Bounds × Units) → Construct × Units
  | some (bounds, after) => (.quantifier bounds (Greed.read after).1, (Greed.read after).2)
  | none => (.letter c, rest)

/-- The construct that begins with a character which neither opens, closes nor separates. -/
def readChar (mode : Mode) (c : Char) (rest : Units) : Reading Construct :=
  match c with
  | '.' => .ok (.dot, rest)
  | '^' => .ok (.edge false, rest)
  | '$' => .ok (.edge true, rest)
  | '[' => (ClassReader.read mode.folding mode.ascii rest).map fun (test, rest) =>
      (.oneOf test, rest)
  | c => (Bounds.read? c rest).map (ofBounds c rest)

/-- The construct that begins with a unit. -/
def read (mode : Mode) (unit : Lexeme) (rest : Units) : Reading Construct :=
  match unit with
  | .pair c => (Escape.readOutside mode.ascii c rest).map fun (meaning, rest) =>
      (.escape meaning, rest)
  | .char '(' => (Opening.read rest).map fun (header, rest) => (.opening header, rest)
  | .char ')' => .ok (.close, rest)
  | .char '|' => .ok (.bar, rest)
  | .char c =>
    if mode.verbose && Draft.isLayout c then .ok (.layout, rest)
    else if mode.verbose && c == '#' then .ok (.remark, Draft.skipLine rest)
    else readChar mode c rest

end Construct

namespace Draft

/-- The last piece repeated, if there is one that can be. -/
def repeated? (d : Draft) (bounds : Bounds) (greed : Greed) : Option Draft :=
  match d.level.pieces with
  | [] | .anchor _ :: _ | .repeated _ :: _ => none
  | piece :: before =>
    let piece := .repeated (.loop greed bounds.least bounds.most piece.regex)
    some { d with level := { d.level with pieces := piece :: before } }

/-- The draft after a construct, if there is a place for it. The construct began `left` characters
before the end of the text, and `after` follows it. -/
def take (d : Draft) (left : Nat) (after : Units) : Construct → Option Draft
  | .letter c => some (d.push (.atom (.one (.literal d.folding false c.toNat))))
  | .escape meaning => (d.pieceOf after meaning).toOption.map d.push
  | .dot => some (d.push (.atom (.one (.any d.level.mode.dotAll))))
  | .edge false =>
    some (d.push (.anchor (if d.level.mode.multiline then .lineStart else .textStart)))
  | .edge true =>
    some (d.push (.anchor (if d.level.mode.multiline then .lineEnd else .lastLineEnd)))
  | .oneOf test => some (d.push (.atom (.one test)))
  | .quantifier bounds greed => d.repeated? bounds greed
  | .opening header => (d.openWith left after header).toOption
  | .close =>
    match d.outer with
    | [] => none
    | around :: outer => some (d.ascend around outer)
  | .bar => (d.alternate after).toOption
  | .layout | .remark => some d

theorem toOption_eq_some {ε α : Type} {x : Except ε α} {a : α} :
    x.toOption = some a ↔ x = .ok a := by
  cases x <;> simp [Except.toOption]

/-- Repeating the last piece, once the sign after the quantifier has been taken. -/
theorem repeatLast_eq_ok_iff {d d' : Draft} {bounds : Bounds} {width : Nat} {rest after : Units} :
    d.repeatLast bounds width rest = .ok (d', after) ↔
      d.repeated? bounds (Greed.read rest).1 = some d' ∧ (Greed.read rest).2 = after := by
  unfold repeatLast repeated?
  cases hpieces : d.level.pieces with
  | nil => exact ⟨fun h => (nomatch h), fun h => (nomatch h.1)⟩
  | cons piece before =>
    cases piece with
    | anchor a => exact ⟨fun h => (nomatch h), fun h => (nomatch h.1)⟩
    | repeated r => exact ⟨fun h => (nomatch h), fun h => (nomatch h.1)⟩
    | atom r => simp
    | group parts => simp

variable {d d' : Draft} {unit : Lexeme} {rest after : Units}

/-- A step is to read a construct that begins with this unit, `reading`, and then to take it. -/
def Takes (d : Draft) (reading : Reading Construct) (rest : Units) (d' : Draft) (after : Units) :
    Prop :=
  ∃ construct, reading = .ok (construct, after) ∧ d.take rest.width after construct = some d'

theorem takes_ok {construct : Construct} {left : Units} :
    d.Takes (.ok (construct, left)) rest d' after ↔
      left = after ∧ d.take rest.width after construct = some d' := by
  constructor
  · rintro ⟨_, ⟨⟩, h⟩
    exact ⟨rfl, h⟩
  · rintro ⟨rfl, h⟩
    exact ⟨_, rfl, h⟩

theorem takes_error {halt : Halt} : ¬ d.Takes (.error halt) rest d' after := by
  rintro ⟨_, ⟨⟩, -⟩

theorem stepChar_eq_ok_iff {c : Char} :
    d.stepChar c rest = .ok (d', after) ↔
      d.Takes (Construct.readChar d.level.mode c rest) rest d' after := by
  unfold stepChar Construct.readChar
  split
  · simp [takes_ok, take, and_comm]
  · simp [takes_ok, take, and_comm]
  · simp [takes_ok, take, and_comm]
  · cases hread : ClassReader.read d.level.mode.folding d.level.mode.ascii rest with
    | error halt => simp [Except.map, takes_error, folding, ascii, hread, bind, Except.bind]
    | ok found =>
      simp [Except.map, takes_ok, take, folding, ascii, hread, bind, Except.bind, pure,
        Except.pure, and_comm]
  · cases hread : Bounds.read? c rest with
    | error halt => simp [Except.map, takes_error, hread, bind, Except.bind]
    | ok found =>
      cases found with
      | none =>
        simp [Except.map, takes_ok, take, hread, bind, Except.bind, pure, Except.pure, and_comm,
          Construct.ofBounds]
      | some found =>
        simp [Except.map, takes_ok, take, hread, bind, Except.bind, repeatLast_eq_ok_iff, and_comm,
          Construct.ofBounds]

/-- A step takes a construct off the text and finds a place for it. -/
theorem step_eq_ok_iff :
    d.step unit rest = .ok (d', after) ↔
      d.Takes (Construct.read d.level.mode unit rest) rest d' after := by
  unfold step Construct.read
  split
  · next c =>
    cases hread : Escape.readOutside d.level.mode.ascii c rest with
    | error halt => simp [Except.map, takes_error, ascii, hread, bind, Except.bind]
    | ok found =>
      obtain ⟨meaning, left⟩ := found
      cases hpiece : d.pieceOf left meaning with
      | error halt =>
        simp only [ascii, hread, bind, Except.bind, hpiece, Except.map, takes_ok, take]
        constructor
        · rintro ⟨⟩
        · rintro ⟨rfl, h⟩
          simp [hpiece, Except.toOption] at h
      | ok piece =>
        simp only [ascii, hread, bind, Except.bind, hpiece, Except.map, takes_ok, take]
        constructor
        · rintro ⟨⟩
          exact ⟨rfl, by simp [hpiece, Except.toOption]⟩
        · rintro ⟨rfl, h⟩
          simp only [hpiece, Except.toOption, Option.map_some, Option.some.injEq] at h
          rw [h]
          rfl
  · cases hread : Opening.read rest with
    | error halt => simp [Except.map, takes_error, bind, Except.bind]
    | ok found =>
      obtain ⟨header, left⟩ := found
      simp only [bind, Except.bind, Except.map, takes_ok, take, toOption_eq_some]
      cases hopen : d.openWith rest.width left header with
      | error halt =>
        constructor
        · rintro ⟨⟩
        · rintro ⟨rfl, h⟩
          rw [hopen] at h
          cases h
      | ok opened =>
        constructor
        · rintro ⟨⟩
          exact ⟨rfl, hopen⟩
        · rintro ⟨rfl, h⟩
          rw [hopen] at h
          cases h
          rfl
  · change _ ↔ d.Takes (.ok (.close, rest)) rest d' after
    rw [takes_ok, take]
    cases houter : d.outer with
    | nil =>
      constructor
      · rintro ⟨⟩
      · rintro ⟨-, ⟨⟩⟩
    | cons around outer => simp [and_comm]
  · simp only [bind, Except.bind, takes_ok, take, toOption_eq_some]
    cases halternate : d.alternate rest with
    | error halt =>
      constructor
      · rintro ⟨⟩
      · rintro ⟨rfl, h⟩
        rw [halternate] at h
        cases h
    | ok next =>
      constructor
      · rintro ⟨⟩
        exact ⟨rfl, halternate⟩
      · rintro ⟨rfl, h⟩
        rw [halternate] at h
        cases h
        rfl
  · next c hopen hclose hbar =>
    by_cases hlayout : (d.level.mode.verbose && isLayout c) = true
    · simp [hlayout, takes_ok, take, and_comm]
    · by_cases hremark : (d.level.mode.verbose && c == '#') = true
      · simp [hlayout, hremark, takes_ok, take, and_comm]
      · simp only [hlayout, hremark, Bool.false_eq_true, if_false]
        exact stepChar_eq_ok_iff

/-! ## Constructs of a longer text -/

theorem skipLine_suffix (rest : Units) : skipLine rest <:+ rest := by
  induction rest with
  | nil => exact List.suffix_rfl
  | cons unit rest ih =>
    unfold skipLine
    split
    · exact List.suffix_cons _ _
    · exact ih.trans (List.suffix_cons _ _)

/-- A line that ends before the seam is skipped up to the same place. -/
theorem skipLine_append (more : Units) (h : skipLine rest ≠ []) :
    skipLine (rest ++ more) = skipLine rest ++ more := by
  induction rest with
  | nil => exact absurd rfl h
  | cons unit rest ih =>
    rw [List.cons_append]
    unfold skipLine at h ⊢
    split at h
    · next hend => rw [if_pos hend, if_pos hend]
    · next hend => rw [if_neg hend, if_neg hend, ih h]

end Draft

namespace Construct

variable {mode : Mode} {unit : Lexeme} {rest more after : Units} {construct : Construct}

theorem readChar_append {c : Char} (hc : c ≠ ')')
    (h : readChar mode c rest = .ok (construct, after))
    (hs : Units.Sealed (.char c :: rest) more) :
    after <:+ rest ∧ readChar mode c (rest ++ more) = .ok (construct, after ++ more) := by
  have hsealed := hs.tail (by rintro ⟨⟩; exact hc rfl)
  unfold readChar at h ⊢
  split at h
  · cases h
    exact ⟨List.suffix_rfl, rfl⟩
  · cases h
    exact ⟨List.suffix_rfl, rfl⟩
  · cases h
    exact ⟨List.suffix_rfl, rfl⟩
  · obtain ⟨⟨test, left⟩, htest, h⟩ := exists_of_map_ok h
    cases h
    obtain ⟨hsuffix, hmore⟩ := ClassReader.read_append htest hsealed
    rw [hmore]
    exact ⟨hsuffix, rfl⟩
  · obtain ⟨found, hfound, h⟩ := exists_of_map_ok h
    obtain ⟨hmore, hbounds⟩ := Bounds.read?_append hfound hc hs
    rw [hmore]
    cases found with
    | none =>
      cases h
      exact ⟨List.suffix_rfl, rfl⟩
    | some found =>
      obtain ⟨bounds, left⟩ := found
      obtain ⟨hpasses, hleft⟩ := hbounds bounds left rfl
      cases h
      refine ⟨(Greed.read_passes left).suffix.trans hpasses.suffix, ?_⟩
      simp only [Except.map, ofBounds, Option.map_some, Greed.read_append hleft]

/-- A construct is read from a longer text as well. A skipped line must end before the seam. -/
theorem read_append (h : read mode unit rest = .ok (construct, after))
    (hs : Units.Sealed (unit :: rest) more) :
    after <:+ rest ∧ ((construct = .remark → after ≠ []) →
      read mode unit (rest ++ more) = .ok (construct, after ++ more)) := by
  unfold read at h ⊢
  split at h
  · obtain ⟨⟨meaning, left⟩, hmeaning, h⟩ := exists_of_map_ok h
    cases h
    obtain ⟨hpasses, hmore⟩ := Escape.readOutside_append hmeaning (hs.tail (by rintro ⟨⟩))
    refine ⟨hpasses.suffix, fun _ => ?_⟩
    simp only [hmore]
    rfl
  · obtain ⟨⟨header, left⟩, hheader, h⟩ := exists_of_map_ok h
    cases h
    obtain ⟨-, hsuffix, hmore⟩ := Opening.read_append hheader (hs.tail (by decide))
    refine ⟨hsuffix, fun _ => ?_⟩
    simp only [hmore]
    rfl
  · cases h
    exact ⟨List.suffix_rfl, fun _ => rfl⟩
  · cases h
    exact ⟨List.suffix_rfl, fun _ => rfl⟩
  · next c hopen hclose hbar =>
    split at h
    · next hlayout =>
      cases h
      rw [if_pos hlayout]
      exact ⟨List.suffix_rfl, fun _ => rfl⟩
    · next hlayout =>
      simp only [hlayout, Bool.false_eq_true, if_false]
      split at h
      · next hremark =>
        cases h
        refine ⟨Draft.skipLine_suffix rest, fun hne => ?_⟩
        simp only [hremark, if_true, Draft.skipLine_append more (hne rfl)]
      · next hremark =>
        simp only [hremark, Bool.false_eq_true, if_false]
        obtain ⟨hsuffix, hmore⟩ := readChar_append (by rintro rfl; exact hclose rfl) h hs
        exact ⟨hsuffix, fun _ => hmore⟩

theorem read_suffix (h : read mode unit rest = .ok (construct, after)) : after <:+ rest :=
  (read_append h (.inl rfl : Units.Sealed (unit :: rest) [.char ')'])).1

/-- Where a construct was read, for those that are asked about below. -/
def Begins (mode : Mode) (unit : Lexeme) (rest after : Units) : Construct → Prop
  | .close => unit = .char ')' ∧ after = rest
  | .quantifier bounds _ => ∃ c left, Bounds.read? c rest = .ok (some (bounds, left))
  | .remark => mode.verbose = true
  | _ => True

theorem begins_of_read (h : read mode unit rest = .ok (construct, after)) :
    construct.Begins mode unit rest after := by
  unfold read at h
  split at h
  · obtain ⟨_, -, h⟩ := exists_of_map_ok h
    cases h
    trivial
  · obtain ⟨_, -, h⟩ := exists_of_map_ok h
    cases h
    trivial
  · cases h
    exact ⟨rfl, rfl⟩
  · cases h
    trivial
  · split at h
    · cases h
      trivial
    · split at h
      · next hremark =>
        cases h
        exact (Bool.and_eq_true_iff.mp hremark).1
      · unfold readChar at h
        split at h
        · cases h
          trivial
        · cases h
          trivial
        · cases h
          trivial
        · obtain ⟨_, -, h⟩ := exists_of_map_ok h
          cases h
          trivial
        · obtain ⟨found, hfound, h⟩ := exists_of_map_ok h
          cases found with
          | none =>
            cases h
            trivial
          | some found =>
            cases h
            exact ⟨_, _, hfound⟩

end Construct

/-! ## Runs -/

namespace Draft

/-- Constructs are taken off a text one after another. -/
inductive Reads : Draft → Units → List Construct → Draft → Units → Prop
  | done {d units} : Reads d units [] d units
  | next {d unit rest construct after d' constructs d'' left}
      (hread : Construct.read d.level.mode unit rest = .ok (construct, after))
      (htake : d.take rest.width after construct = some d')
      (hrest : Reads d' after constructs d'' left) :
      Reads d (unit :: rest) (construct :: constructs) d'' left

theorem Reads.trans {d d' d'' : Draft} {units left left' : Units} {front back : List Construct}
    (h₁ : Reads d units front d' left) (h₂ : Reads d' left back d'' left') :
    Reads d units (front ++ back) d'' left' := by
  induction h₁ with
  | done => exact h₂
  | next hread htake _ ih => exact .next hread htake (ih h₂)

theorem stopsAt_of_step {d d' : Draft} {unit : Lexeme} {rest after : Units}
    (h : d.step unit rest = .ok (d', after)) : d.stopsAt unit rest = none := by
  unfold stopsAt
  split
  · next hstops =>
    simp only [Bool.and_eq_true, beq_iff_eq, List.isEmpty_iff] at hstops
    obtain ⟨⟨⟨rfl, houter⟩, -⟩, -⟩ := hstops
    simp [step, houter, haltAt] at h
  · rfl

theorem run_eq_ok_iff {d e : Draft} {units : Units} {fuel : Nat} (hfuel : units.length ≤ fuel) :
    d.run fuel units = .ok e ↔ ∃ constructs, Reads d units constructs e [] := by
  induction fuel generalizing d units with
  | zero =>
    obtain rfl := List.length_eq_zero_iff.mp (Nat.le_zero.mp hfuel)
    constructor
    · rintro ⟨⟩
      exact ⟨[], .done⟩
    · rintro ⟨_, ⟨⟩⟩
      rfl
  | succ fuel ih =>
    cases units with
    | nil =>
      constructor
      · rintro ⟨⟩
        exact ⟨[], .done⟩
      · rintro ⟨_, ⟨⟩⟩
        rfl
    | cons unit rest =>
      have hlen : ∀ {mode construct after}, Construct.read mode unit rest = .ok (construct, after) →
          after.length ≤ fuel := by
        intro mode construct after hread
        have hle := (Construct.read_suffix hread).length_le
        simp only [List.length_cons] at hfuel
        omega
      unfold run
      constructor
      · intro h
        split at h
        · cases h
        · obtain ⟨⟨d', after⟩, hstep, h⟩ := exists_of_bind_ok h
          obtain ⟨construct, hread, htake⟩ := step_eq_ok_iff.mp hstep
          obtain ⟨constructs, hrest⟩ := (ih (hlen hread)).mp h
          exact ⟨construct :: constructs, .next hread htake hrest⟩
      · rintro ⟨_, hreads⟩
        cases hreads with
        | next hread htake hrest =>
          have hstep := step_eq_ok_iff.mpr ⟨_, hread, htake⟩
          rw [stopsAt_of_step hstep]
          simp only [hstep, bind, Except.bind]
          exact (ih (hlen hread)).mpr ⟨_, hrest⟩

/-- The constructs that are taken off a text, up to the first one that cannot be. -/
def trace : (fuel : Nat) → Draft → Units → List Construct
  | fuel + 1, d, unit :: rest =>
    match Construct.read d.level.mode unit rest with
    | .error _ => []
    | .ok (construct, after) =>
      match d.take (Units.width rest) after construct with
      | none => []
      | some d' => construct :: trace fuel d' after
  | _, _, _ => []

theorem trace_of_reads {d e : Draft} {units : Units} {constructs : List Construct} {fuel : Nat}
    (h : Reads d units constructs e []) (hfuel : units.length ≤ fuel) :
    trace fuel d units = constructs := by
  induction fuel generalizing d units constructs with
  | zero =>
    obtain rfl := List.length_eq_zero_iff.mp (Nat.le_zero.mp hfuel)
    cases h
    rfl
  | succ fuel ih =>
    cases h with
    | done => rfl
    | next hread htake hrest =>
      have hle := (Construct.read_suffix hread).length_le
      simp only [List.length_cons] at hfuel
      simp only [trace, hread, htake, ih hrest (show _ ≤ fuel by omega)]

end Draft

namespace Draft

/-- A draft is finished if no parenthesis is open, the flags are not rivals, and every group that a
choice asks for is there. -/
theorem finish_eq_ok_iff {d e : Draft} :
    d.finish = .ok e ↔ e = d ∧ d.outer = [] ∧ (d.level.mode.ascii && d.level.mode.unicode) = false ∧
      ∀ test ∈ d.tests, test.1 ≤ d.groups := by
  unfold finish
  cases houter : d.outer with
  | cons around outer => simp [haltAt]
  | nil =>
    cases hrivals : d.level.mode.ascii && d.level.mode.unicode with
    | true => simp
    | false =>
      simp only [List.isEmpty_nil, Bool.not_true, Bool.false_eq_true, if_false]
      cases hfind : d.tests.find? fun test => decide (d.groups < test.1) with
      | none =>
        have hnone := List.find?_eq_none.mp hfind
        simp only [decide_eq_true_eq, Nat.not_lt] at hnone
        simp only [Except.ok.injEq, true_and]
        exact ⟨fun h => ⟨h.symm, hnone⟩, fun h => h.1.symm⟩
      | some test =>
        have htest := List.find?_some hfind
        have hmem := List.mem_of_find?_eq_some hfind
        simp only [decide_eq_true_eq] at htest
        simp only [true_and]
        refine ⟨fun h => (nomatch h), fun h => ?_⟩
        have hle := h.2 test hmem
        omega

end Draft

namespace Expression

/-- The constructs of an expression text. -/
def constructs (text : List Char) : List Construct :=
  let units := (Units.ofChars text).1
  Draft.trace units.length (.start units.width) units

theorem draft_eq_ok_iff {units : Units} {d : Draft} :
    draft units = .ok d ↔
      (∃ constructs, Draft.Reads (.start units.width) units constructs d []) ∧
        d.finish = .ok d := by
  unfold draft
  constructor
  · intro h
    obtain ⟨e, hrun, hfinish⟩ := exists_of_bind_ok h
    obtain ⟨rfl, -⟩ := Draft.finish_eq_ok_iff.mp hfinish
    exact ⟨(Draft.run_eq_ok_iff (Nat.le_refl _)).mp hrun, hfinish⟩
  · rintro ⟨hreads, hfinish⟩
    rw [(Draft.run_eq_ok_iff (Nat.le_refl _)).mpr hreads]
    exact hfinish

/-- A text is an expression if it can be read from end to end and nothing is wrong with the term. -/
theorem read_eq_ok_iff {text : List Char} {e : Expression} :
    read text = .ok e ↔
      (Units.ofChars text).2 = false ∧ ∃ d, draft (Units.ofChars text).1 = .ok d ∧
        d.level.term.fault? d.level.mode.template = none ∧
        e = ⟨d.level.term, d.groups, (d.level.term.width d.widthOf).least⟩ := by
  unfold read
  generalize Units.ofChars text = cut
  obtain ⟨units, lone⟩ := cut
  cases hdraft : draft units with
  | error halt => simp [hdraft]
  | ok d =>
    cases lone with
    | true => simp [hdraft]
    | false =>
      cases hfault : d.level.term.fault? d.level.mode.template with
      | some cause => simp [hdraft, hfault]
      | none =>
        simp only [hdraft, hfault, Bool.false_eq_true, if_false, Except.ok.injEq, true_and]
        constructor
        · rintro rfl
          exact ⟨d, rfl, hfault, rfl⟩
        · rintro ⟨_, rfl, -, rfl⟩
          rfl

/-- The constructs of a text that can be read are those taken off it. -/
theorem reads_of_draft {text : List Char} {d : Draft} (h : draft (Units.ofChars text).1 = .ok d) :
    Draft.Reads (.start (Units.ofChars text).1.width) (Units.ofChars text).1 (constructs text) d
      [] := by
  obtain ⟨⟨found, hreads⟩, -⟩ := draft_eq_ok_iff.mp h
  unfold constructs
  rw [Draft.trace_of_reads hreads (Nat.le_refl _)]
  exact hreads

end Expression

end RequestRouter
