import RequestRouter.Proofs.Reading.Balance
import RequestRouter.Proofs.Reading.Ordinary

/-!
# Where reading halts

A step fails on a malformed text only, unless it comes to bounds with a count that does not fit
(`Draft.ordinary_step`), and a run that fails has come to such a step (`Draft.run_eq_error_iff`).
Flags for two alphabets at once can be set only in front of everything else, so where something else
comes first they are never met (`Expression.Led`). Together this says of which texts a fault is
reported that is not the text itself (`Expression.read_eq_error_iff`).
-/

namespace RequestRouter

/-! ## Counts that do not fit -/

/-- How a count does not fit. -/
inductive Overflow
  | tooLarge
  | tooLong (digits : Nat)
  deriving DecidableEq, Repr

/-- Why reading stops at such a count. -/
def Overflow.stop : Overflow → Stop
  | .tooLarge => .countTooLarge
  | .tooLong digits => .countTooLong digits

/-- What is reported. -/
def Overflow.error : Overflow → ReadError
  | .tooLarge => .countTooLarge
  | .tooLong digits => .countTooLong digits

theorem Overflow.isMalformed_stop (overflow : Overflow) (left back : Nat) :
    Halt.isMalformed ⟨overflow.stop, left, back⟩ = false := by
  cases overflow <;> rfl

theorem Overflow.toError_stop (overflow : Overflow) (text : List Char) (total left back : Nat) :
    Halt.toError text total ⟨overflow.stop, left, back⟩ = overflow.error := by
  cases overflow <;> rfl

theorem Overflow.isMalformed_error (overflow : Overflow) : overflow.error.isMalformed = false := by
  cases overflow <;> rfl

theorem Halt.isMalformed_toError (text : List Char) (total : Nat) (halt : Halt) :
    (halt.toError text total).isMalformed = halt.isMalformed := by
  obtain ⟨stop, left, back⟩ := halt
  cases stop <;> rfl

theorem Units.width_eq_zero_iff {units : Units} : units.width = 0 ↔ units = [] := by
  cases units with
  | nil => exact ⟨fun _ => rfl, fun _ => rfl⟩
  | cons unit rest => cases unit <;> simp [width, Lexeme.width]

namespace Bounds

/-- How a count with the given digits does not fit, if it does not. -/
def overflow? (digits : List Char) : Option Overflow :=
  if maxDigits < digits.length then some (.tooLong digits.length)
  else if tooLarge ≤ digits.foldl (fun n c => n * 10 + (c.toNat - 48)) 0 then some .tooLarge
  else none

/-- After an opening brace stand bounds of which one does not fit; the first one that does not is
told. -/
def Overflows (rest : Units) (overflow : Overflow) (after : Units) : Prop :=
  ∃ low high, split rest = some (low, high, after) ∧
    (overflow? low).or (overflow? high) = some overflow

variable {digits : List Char} {rest after : Units} {overflow : Overflow} {halt : Halt}

theorem ofDigits_of_some (h : overflow? digits = some overflow) :
    ofDigits digits rest = .error ⟨overflow.stop, rest.width, 0⟩ := by
  have hne : digits.isEmpty = false := by
    cases digits with
    | nil => cases h
    | cons => rfl
  unfold overflow? at h
  unfold ofDigits
  rw [hne]
  simp only [Bool.false_eq_true, if_false]
  split at h
  · next hlong =>
    cases h
    rw [if_pos hlong]
    rfl
  · next hlong =>
    split at h
    · next hlarge =>
      cases h
      rw [if_neg hlong, if_pos hlarge]
      rfl
    · cases h

theorem ofDigits_of_none (h : overflow? digits = none) (rest : Units) :
    ∃ count, ofDigits digits rest = .ok count := by
  unfold overflow? at h
  unfold ofDigits
  split at h
  · cases h
  · next hlong =>
    split at h
    · cases h
    · next hlarge =>
      split
      · exact ⟨_, rfl⟩
      · dsimp only
        rw [if_neg hlarge]
        exact ⟨_, rfl⟩

theorem not_overflows_of_accept (h : (rest.accept '}').isSome = true) :
    ¬ Overflows rest overflow after := by
  rintro ⟨low, high, hsplit, hoverflow⟩
  obtain ⟨left, hleft⟩ := Option.isSome_iff_exists.mp h
  obtain rfl := Units.accept_eq_some hleft
  obtain ⟨rfl, rfl⟩ : low = [] ∧ high = [] := by
    cases hsplit
    exact ⟨rfl, rfl⟩
  cases hoverflow

theorem readBraced_of_overflows (h : Overflows rest overflow after) :
    readBraced rest = .error ⟨overflow.stop, after.width, 0⟩ := by
  have haccept := mt not_overflows_of_accept (not_not_intro h)
  obtain ⟨low, high, hsplit, hoverflow⟩ := h
  rw [readBraced, if_neg haccept, hsplit]
  simp only
  cases hlow : overflow? low with
  | some first =>
    rw [hlow, Option.some_or] at hoverflow
    cases hoverflow
    rw [ofDigits_of_some hlow]
    rfl
  | none =>
    rw [hlow, Option.none_or] at hoverflow
    obtain ⟨least, hleast⟩ := ofDigits_of_none hlow after
    rw [hleast, ofDigits_of_some hoverflow]
    rfl

theorem ordinary_readBraced (h : ∀ overflow after, ¬ Overflows rest overflow after) :
    Ordinary (readBraced rest) := by
  unfold readBraced
  split
  · exact ordinary_ok _
  · split
    · exact ordinary_ok _
    · next low high left hsplit =>
      have hfits : overflow? low = none ∧ overflow? high = none := by
        rw [← Option.or_eq_none_iff, Option.eq_none_iff_forall_ne_some]
        exact fun overflow hoverflow => h overflow left ⟨low, high, hsplit, hoverflow⟩
      obtain ⟨least, hleast⟩ := ofDigits_of_none hfits.1 left
      obtain ⟨most, hmost⟩ := ofDigits_of_none hfits.2 left
      rw [hleast, hmost]
      show Ordinary (if _ then _ else _)
      split <;> simp

end Bounds

/-! ## Steps and runs -/

namespace Draft

variable {d : Draft} {unit : Lexeme} {rest units after : Units} {halt : Halt}

theorem ordinary_stepChar {c : Char} (h : c = '{' → Ordinary (Bounds.readBraced rest)) :
    Ordinary (d.stepChar c rest) := by
  unfold stepChar
  split
  · exact ordinary_ok _
  · exact ordinary_ok _
  · exact ordinary_ok _
  · exact (ClassReader.ordinary_read _ _).bind fun _ => ordinary_pure _
  · refine Ordinary.bind ?_ fun found => ?_
    · unfold Bounds.read?
      split
      · exact ordinary_ok _
      · exact ordinary_ok _
      · exact ordinary_ok _
      · exact h rfl
      · exact ordinary_ok _
    · cases found with
      | none => exact ordinary_pure _
      | some found => exact ordinary_repeatLast ..

/-- A step fails on a malformed text only, unless it comes to bounds that do not fit. -/
theorem ordinary_step (h : unit = .char '{' → Ordinary (Bounds.readBraced rest)) :
    Ordinary (d.step unit rest) := by
  unfold step
  split
  · refine Escape.ordinary_readOutside.bind fun (meaning, rest) => ?_
    exact (ordinary_pieceOf _).bind fun _ => ordinary_pure _
  · refine (Opening.ordinary_read _).bind fun (opening, after) => ?_
    exact (ordinary_openWith ..).bind fun _ => ordinary_pure _
  · split
    · exact ordinary_haltAt ..
    · exact ordinary_ok _
  · exact ordinary_alternate.bind fun _ => ordinary_pure _
  · split
    · exact ordinary_ok _
    · split
      · exact ordinary_ok _
      · exact ordinary_stepChar fun hc => h (congrArg _ hc)

theorem step_of_overflows {overflow : Overflow} (h : Bounds.Overflows rest overflow after) :
    d.step (.char '{') rest = .error ⟨overflow.stop, after.width, 0⟩ := by
  have hlayout : (d.level.mode.verbose && isLayout '{') = false := Bool.and_false _
  have hremark : (d.level.mode.verbose && '{' == '#') = false := Bool.and_false _
  have hread : Bounds.read? '{' rest = .error ⟨overflow.stop, after.width, 0⟩ :=
    Bounds.readBraced_of_overflows h
  show (if d.level.mode.verbose && isLayout '{' then _
    else if d.level.mode.verbose && '{' == '#' then _ else d.stepChar '{' rest) = _
  rw [hlayout, hremark]
  show (Bounds.read? '{' rest >>= _) = _
  rw [hread]
  rfl

/-- A run that fails has come to a place where it stops or where a step fails. -/
theorem run_eq_error_iff {fuel : Nat} (hfuel : units.length ≤ fuel) :
    run fuel d units = .error halt ↔ ∃ constructs e unit rest,
      Reads d units constructs e (unit :: rest) ∧
        (e.stopsAt unit rest = some halt ∨
          e.stopsAt unit rest = none ∧ e.step unit rest = .error halt) := by
  constructor
  · intro h
    induction fuel generalizing d units with
    | zero =>
      obtain rfl := List.length_eq_zero_iff.mp (Nat.le_zero.mp hfuel)
      cases h
    | succ fuel ih =>
      cases units with
      | nil => cases h
      | cons unit rest =>
        rw [run] at h
        cases hstops : d.stopsAt unit rest with
        | some other =>
          rw [hstops] at h
          cases h
          exact ⟨[], d, unit, rest, .done, .inl hstops⟩
        | none =>
          rw [hstops] at h
          cases hstep : d.step unit rest with
          | error other =>
            rw [hstep] at h
            cases h
            exact ⟨[], d, unit, rest, .done, .inr ⟨hstops, hstep⟩⟩
          | ok found =>
            obtain ⟨next, left⟩ := found
            rw [hstep] at h
            obtain ⟨construct, hread, htake⟩ := step_eq_ok_iff.mp hstep
            have hle := (Construct.read_suffix hread).length_le
            simp only [List.length_cons] at hfuel
            obtain ⟨constructs, e, unit', rest', hreads, hend⟩ := ih (by omega) h
            exact ⟨_, e, unit', rest', .next hread htake hreads, hend⟩
  · rintro ⟨constructs, e, unit, rest, hreads, hend⟩
    generalize hleft : unit :: rest = left at hreads
    induction hreads generalizing fuel with
    | done =>
      subst hleft
      cases fuel with
      | zero => cases hfuel
      | succ fuel =>
        rw [run]
        rcases hend with hstops | ⟨hstops, hstep⟩
        · rw [hstops]
        · rw [hstops, hstep]
          rfl
    | @next d first others construct after d' constructs e left hread htake hrest ih =>
      cases fuel with
      | zero => cases hfuel
      | succ fuel =>
        have hstep : d.step first others = .ok (d', after) :=
          step_eq_ok_iff.mpr ⟨construct, hread, htake⟩
        have hle := (Construct.read_suffix hread).length_le
        simp only [List.length_cons] at hfuel
        rw [run, stopsAt_of_step hstep, hstep]
        exact ih (by omega) hend hleft

/-! ## Flags for two alphabets -/

/-- The level of the expression itself. -/
def outermost (d : Draft) : Level := d.outer.getLast?.getD d.level

variable {d' : Draft} {construct : Construct}

/-- The step: only flags change the mode of the expression itself. -/
theorem mode_outermost_of_take {left : Nat} (h : d.take left after construct = some d')
    (hflags : ∀ on, construct ≠ .opening (.flags on)) :
    d'.outermost.mode = d.outermost.mode := by
  unfold outermost
  by_cases hclose : construct = .close
  · subst hclose
    obtain ⟨around, outer, houter, rfl⟩ := shape_of_take h
    rw [houter, List.getLast?_cons, ascend]
    cases outer.getLast? <;> rfl
  · cases hopens : construct.opens with
    | true =>
      rw [outer_of_take_opens h hopens, List.getLast?_cons]
      rfl
    | false =>
      rw [outer_of_take h hopens hclose]
      cases d.outer.getLast? with
      | none => exact (frame_of_take h hopens hclose).2 hflags
      | some level => rfl

/-- The run, by induction on what is read. -/
theorem mode_outermost_of_reads {constructs : List Construct}
    (h : Reads d units constructs d' after) (hflags : ∀ on, .opening (.flags on) ∉ constructs) :
    d'.outermost.mode = d.outermost.mode := by
  induction h with
  | done => rfl
  | next _ htake _ ih =>
    have hrest := ih fun on hmem => hflags on (List.mem_cons_of_mem _ hmem)
    refine hrest.trans (mode_outermost_of_take htake fun on heq => hflags on ?_)
    exact heq ▸ List.mem_cons_self

/-- Reading stops in front of a parenthesis only because of rival flags. -/
theorem stopsAt_of_not_rivals
    (h : d.outer = [] → (d.level.mode.ascii && d.level.mode.unicode) = false) :
    d.stopsAt unit rest = none := by
  unfold stopsAt
  split
  · next hstops =>
    simp only [Bool.and_eq_true, List.isEmpty_iff] at hstops
    obtain ⟨⟨⟨-, houter⟩, hascii⟩, hunicode⟩ := hstops
    have hrivals := h houter
    rw [hascii, hunicode] at hrivals
    cases hrivals
  · rfl

theorem ordinary_finish
    (h : d.outer = [] → (d.level.mode.ascii && d.level.mode.unicode) = false) :
    Ordinary d.finish := by
  unfold finish
  split
  · exact ordinary_haltAt ..
  · next houter =>
    rw [h (by simpa using houter)]
    simp only [Bool.false_eq_true, if_false]
    split
    · constructor
      rintro _ ⟨⟩
      rfl
    · exact ordinary_ok _

end Draft

namespace Expression

open Draft

/-- The construct begins an expression for which no flags can be set: a circumflex, or a parenthesis
that opens a level. -/
def Leads (construct : Construct) : Prop :=
  construct = .edge false ∨ ∃ header : Opening, header.descends = true ∧ construct = .opening header

/-- Whatever can be read first of some units, no flags can be set after it. -/
def Led (units : Units) : Prop :=
  ∀ unit rest construct after, units = unit :: rest →
    Construct.read {} unit rest = .ok (construct, after) → Leads construct

variable {units left : Units} {constructs : List Construct} {e : Draft}

theorem Leads.begun {construct : Construct} {d d' : Draft} {after : Units} {left : Nat}
    (h : Leads construct) (htake : d.take left after construct = some d') : d'.Begun := by
  have hshape := shape_of_take htake
  rcases h with rfl | ⟨header, hdescends, rfl⟩
  · obtain ⟨-, _, hlevel⟩ := hshape
    exact .inr (.inr (by rw [hlevel]; exact List.cons_ne_nil _ _))
  · refine .inl ?_
    rw [outer_of_take_opens htake hdescends]
    exact List.cons_ne_nil _ _

theorem Led.not_flags (h : Led units)
    (hreads : Reads (.start units.width) units constructs e left) (on : List Flag) :
    .opening (.flags on) ∉ constructs := by
  cases hreads with
  | done => exact List.not_mem_nil
  | @next _ unit rest construct after d' more _ _ hread htake hrest =>
    have hleads : Leads construct := h unit rest construct after rfl hread
    intro hmem
    rcases List.mem_cons.mp hmem with rfl | hmem
    · obtain heq | ⟨header, hdescends, heq⟩ := hleads
      · cases heq
      · cases heq
        cases hdescends
    · exact not_flags_of_begun hrest (hleads.begun htake) on hmem

theorem Led.mode (h : Led units) (hreads : Reads (.start units.width) units constructs e left) :
    e.outermost.mode = {} := mode_outermost_of_reads hreads (h.not_flags hreads)

theorem Led.not_rivals (h : Led units)
    (hreads : Reads (.start units.width) units constructs e left) (houter : e.outer = []) :
    (e.level.mode.ascii && e.level.mode.unicode) = false := by
  have hmode := h.mode hreads
  rw [outermost, houter] at hmode
  have hmode : e.level.mode = {} := hmode
  rw [hmode]
  rfl

/-! ## Expressions -/

/-- Everything in front of some bounds can be read, and the bounds hold a count that does not fit.
If a lone backslash ends the text, something stands between. -/
def Overflows (text : List Char) (overflow : Overflow) : Prop :=
  ∃ constructs e rest after,
    Reads (.start (Units.ofChars text).1.width) (Units.ofChars text).1 constructs e
      (.char '{' :: rest) ∧
    Bounds.Overflows rest overflow after ∧ ((Units.ofChars text).2 = true → after ≠ [])

theorem draft_eq_error_iff (h : Led units) {halt : Halt} (hnot : halt.isMalformed = false) :
    draft units = .error halt ↔ ∃ constructs e rest overflow after,
      Reads (.start units.width) units constructs e (.char '{' :: rest) ∧
        Bounds.Overflows rest overflow after ∧ halt = ⟨overflow.stop, after.width, 0⟩ := by
  have hnever : ∀ {α : Type} {x : Except Halt α}, x = .error halt → ¬ Ordinary x := by
    intro α x hx hordinary
    rw [hordinary.malformed halt hx] at hnot
    cases hnot
  constructor
  · intro hdraft
    unfold draft at hdraft
    cases hrun : Draft.run units.length (.start units.width) units with
    | ok d =>
      rw [hrun] at hdraft
      obtain ⟨constructs, hreads⟩ := (run_eq_ok_iff (Nat.le_refl _)).mp hrun
      exact absurd (ordinary_finish (h.not_rivals hreads)) (hnever hdraft)
    | error other =>
      rw [hrun] at hdraft
      cases hdraft
      obtain ⟨constructs, e, unit, rest, hreads, hend⟩ := (run_eq_error_iff (Nat.le_refl _)).mp hrun
      rcases hend with hstops | ⟨-, hstep⟩
      · rw [stopsAt_of_not_rivals (h.not_rivals hreads)] at hstops
        cases hstops
      · by_cases hcount : unit = .char '{' ∧ ∃ overflow after, Bounds.Overflows rest overflow after
        · obtain ⟨rfl, overflow, after, hoverflows⟩ := hcount
          rw [step_of_overflows hoverflows] at hstep
          cases hstep
          exact ⟨constructs, e, rest, overflow, after, hreads, hoverflows, rfl⟩
        · refine absurd (ordinary_step fun hunit => Bounds.ordinary_readBraced ?_) (hnever hstep)
          exact fun overflow after hoverflows => hcount ⟨hunit, overflow, after, hoverflows⟩
  · rintro ⟨constructs, e, rest, overflow, after, hreads, hoverflows, rfl⟩
    have hstops : e.stopsAt (.char '{') rest = none := rfl
    have hrun := (run_eq_error_iff (Nat.le_refl _)).mpr
      ⟨constructs, e, _, rest, hreads, .inr ⟨hstops, step_of_overflows hoverflows⟩⟩
    unfold draft
    rw [hrun]
    rfl

/-- A text is at fault in itself, unless it comes to a count that does not fit. -/
theorem read_eq_error_iff {text : List Char} (h : Led (Units.ofChars text).1) {error : ReadError}
    (hnot : error.isMalformed = false) : read text = .error error ↔
      ∃ overflow, Overflows text overflow ∧ error = overflow.error := by
  unfold read Overflows
  generalize Units.ofChars text = cut at h
  obtain ⟨units, lone⟩ := cut
  dsimp only at h ⊢
  constructor
  · intro hread
    cases hdraft : draft units with
    | ok d =>
      rw [hdraft] at hread
      dsimp only at hread
      split at hread
      · cases hread
        cases hnot
      · split at hread
        · cases hread
          cases hnot
        · cases hread
    | error halt =>
      rw [hdraft] at hread
      dsimp only at hread
      split at hread
      · cases hread
        cases hnot
      · next hend =>
        cases hread
        rw [Halt.isMalformed_toError] at hnot
        obtain ⟨constructs, e, rest, overflow, after, hreads, hoverflows, rfl⟩ :=
          (draft_eq_error_iff h hnot).mp hdraft
        refine ⟨overflow, ⟨constructs, e, rest, after, hreads, hoverflows, ?_⟩,
          Overflow.toError_stop ..⟩
        rintro rfl rfl
        exact hend rfl
  · rintro ⟨overflow, ⟨constructs, e, rest, after, hreads, hoverflows, hlone⟩, rfl⟩
    rw [(draft_eq_error_iff h (Overflow.isMalformed_stop ..)).mpr
      ⟨constructs, e, rest, overflow, after, hreads, hoverflows, rfl⟩]
    have hgoes : ¬ (lone && after.width == 0) = true := by
      rw [Bool.and_eq_true, beq_iff_eq, Units.width_eq_zero_iff]
      exact fun hend => hlone hend.1 hend.2
    simp only
    rw [if_neg hgoes, Overflow.toError_stop]

end Expression

end RequestRouter
