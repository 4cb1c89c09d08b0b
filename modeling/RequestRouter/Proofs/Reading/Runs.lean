import RequestRouter.Proofs.Reading.Scanner

/-!
# Nested runs

A run over balanced constructs falls into steps on one level and runs between two parentheses
(`Draft.Runs`), so what it does to the innermost level is shown by induction on `Runs`, with one
case for a parenthesis as a whole. `Draft.Goes` says of a place in a text that the text can be read
from there to its end; as each step has one outcome, it can still be read after some of the steps.
-/

namespace RequestRouter

namespace Draft

/-- A run over balanced constructs. A parenthesis stands in it with all that it encloses. -/
inductive Runs : Draft → Units → List Construct → Draft → Units → Prop
  | nil {d units} : Runs d units [] d units
  | cons {d unit rest construct after d₁ more d' left} (hopens : construct.opens = false)
      (hclose : construct ≠ .close)
      (hread : Construct.read d.level.mode unit rest = .ok (construct, after))
      (htake : d.take rest.width after construct = some d₁)
      (hrest : Runs d₁ after more d' left) : Runs d (unit :: rest) (construct :: more) d' left
  | bracket {d unit rest header after d₁ body d₂ inner more d' left}
      (hdescends : header.descends = true)
      (hread : Construct.read d.level.mode unit rest = .ok (.opening header, after))
      (hopen : d.openWith rest.width after header = .ok d₁)
      (hbody : Runs d₁ after body d₂ (.char ')' :: inner))
      (hrest : Runs (d₂.ascend d.level d.outer) inner more d' left) :
      Runs d (unit :: rest) (.opening header :: (body ++ .close :: more)) d' left

variable {d d' : Draft} {units left : Units} {cs : List Construct}

/-- A closing parenthesis is read on a level that stands inside of another. -/
theorem reads_close {surrounding : Level} {others : List Level} (h : d.outer =
    surrounding :: others)
    (rest : Units) :
    Reads d (.char ')' :: rest) [.close] (d.ascend surrounding others) rest := by
  have htake : d.take rest.width rest .close = some (d.ascend surrounding others) := by
    simp only [take, h]
  exact .next rfl htake .done

namespace Runs

theorem outer (h : Runs d units cs d' left) : d'.outer = d.outer := by
  induction h with
  | nil => rfl
  | cons hopens hclose _ htake _ ih => exact ih.trans (outer_of_take htake hopens hclose)
  | bracket _ _ _ _ _ _ ih => exact ih

/-- What opened the innermost level is not changed by what is read on it. -/
theorem opener (h : Runs d units cs d' left) : d'.level.opener = d.level.opener := by
  induction h with
  | nil => rfl
  | cons hopens hclose _ htake _ ih => exact ih.trans (frame_of_take htake hopens hclose).1
  | bracket _ _ _ _ _ _ ih => exact ih

/-- Where no flags are set for the whole expression, the innermost level keeps its mode. -/
theorem mode (h : Runs d units cs d' left) (hflags : ∀ on, .opening (.flags on) ∉ cs) :
    d'.level.mode = d.level.mode := by
  induction h with
  | nil => rfl
  | cons hopens hclose _ htake _ ih =>
    have hrest := ih fun on hmem => hflags on (List.mem_cons_of_mem _ hmem)
    refine hrest.trans ((frame_of_take htake hopens hclose).2 fun on heq => hflags on ?_)
    exact heq ▸ List.mem_cons_self
  | bracket _ _ _ _ _ _ ih =>
    refine ih fun on hmem => hflags on ?_
    exact List.mem_cons_of_mem _ (List.mem_append_right _ (List.mem_cons_of_mem _ hmem))

theorem reads (h : Runs d units cs d' left) : Reads d units cs d' left := by
  induction h with
  | nil => exact .done
  | cons _ _ hread htake _ ih => exact .next hread htake ih
  | @bracket d _ rest header after d₁ _ _ inner _ _ _ hdescends hread hopen hbody _ ihbody ih =>
    have htake : d.take rest.width after (.opening header) = some d₁ := toOption_eq_some.mpr hopen
    have houter := hbody.outer.trans (outer_of_take_opens htake hdescends)
    have hrest := ihbody.trans ((reads_close houter inner).trans ih)
    exact .next hread htake hrest

theorem balanced (h : Runs d units cs d' left) : Construct.Balanced cs := by
  induction h with
  | nil => exact .nil
  | cons hopens hclose _ _ _ ih => exact .cons hopens hclose ih
  | bracket hdescends _ _ _ _ ihbody ih => exact .bracket hdescends ihbody ih

end Runs

/-- A run over a parenthesis opens a level, runs over what is enclosed and closes the level. -/
theorem exists_of_reads_bracket {header : Opening} {body : List Construct}
    (hdescends : header.descends = true)
    (hnested : ∀ {d units d' left}, Reads d units body d' left → Runs d units body d' left)
    (h : Reads d units (.opening header :: (body ++ [.close])) d' left) :
    ∃ (unit : Lexeme) (rest after : Units) (d₁ d₂ : Draft), units = unit :: rest ∧
      Construct.read d.level.mode unit rest = .ok (.opening header, after) ∧
      d.openWith rest.width after header = .ok d₁ ∧ Runs d₁ after body d₂ (.char ')' :: left) ∧
      d' = d₂.ascend d.level d.outer := by
  cases h with
  | @next _ unit rest _ after d₁ _ _ _ hread htake hrest =>
    obtain ⟨d₂, between, hbody, hafter⟩ := reads_append_iff.mp hrest
    have hruns := hnested hbody
    have houter := hruns.outer.trans (outer_of_take_opens htake hdescends)
    cases hafter with
    | next hreadClose htakeClose hmore =>
      cases hmore
      obtain ⟨rfl, rfl⟩ := Construct.begins_of_read hreadClose
      simp only [take, houter, Option.some.injEq] at htakeClose
      exact ⟨unit, rest, after, d₁, d₂, rfl, hread, toOption_eq_some.mp htake, hruns,
        htakeClose.symm⟩

/-- A run over balanced constructs is nested. -/
theorem runs_of_reads (hbalanced : Construct.Balanced cs) (h : Reads d units cs d' left) :
    Runs d units cs d' left := by
  induction hbalanced generalizing d units d' left with
  | nil =>
    cases h
    exact .nil
  | cons hopens hclose _ ih =>
    cases h with
    | next hread htake hrest => exact .cons hopens hclose hread htake (ih hrest)
  | @bracket construct body more hopens _ _ ihbody ih =>
    cases construct with
    | opening header =>
      have hsplit : Construct.opening header :: (body ++ .close :: more) =
          .opening header :: (body ++ [.close]) ++ more := by simp
      rw [hsplit] at h
      obtain ⟨d₃, inner, hbracket, hmore⟩ := reads_append_iff.mp h
      obtain ⟨_, _, _, _, _, rfl, hread, hopen, hbody, rfl⟩ :=
        exists_of_reads_bracket hopens ihbody hbracket
      exact .bracket hopens hread hopen hbody (ih hmore)
    | _ => cases hopens

/-- The constructs of a text that is read from end to end run nested. -/
theorem runs_of_draft {text : List Char} (h : Expression.draft (Units.ofChars text).1 = .ok d) :
    Runs (.start (Units.ofChars text).1.width) (Units.ofChars text).1 (Expression.constructs text) d
      [] := by
  have hreads := Expression.reads_of_draft h
  obtain ⟨-, houter, -⟩ := finish_eq_ok_iff.mp (Expression.draft_eq_ok_iff.mp h).2
  have hnests := nests_of_reads hreads houter
  exact runs_of_reads ((Construct.balanced_of_nests hnests).1 rfl) hreads

theorem Reads.suffix (h : Reads d units cs d' left) : left <:+ units := by
  induction h with
  | done => exact List.suffix_rfl
  | next hread _ _ ih =>
    exact (ih.trans (Construct.read_suffix hread)).trans (List.suffix_cons _ _)

/-! ## Reading to the end -/

/-- The text can be read from here to its end. -/
def Goes (d : Draft) (units : Units) : Prop := ∃ cs e, Reads d units cs e []

theorem Goes.next {unit : Lexeme} {rest further : Units} {construct : Construct}
    (h : d.Goes (unit :: rest))
    (hread : Construct.read d.level.mode unit rest = .ok (construct, further)) :
    ∃ d', d.take rest.width further construct = some d' ∧ d'.Goes further := by
  obtain ⟨_, e, hreads⟩ := h
  cases hreads with
  | next hread' htake hrest =>
    rw [hread] at hread'
    cases hread'
    exact ⟨_, htake, _, e, hrest⟩

theorem Reads.after {e : Draft} {all : List Construct} (h : Reads d units all e [])
    (hreads : Reads d units cs d' left) : ∃ more, Reads d' left more e [] := by
  induction hreads generalizing all with
  | done => exact ⟨all, h⟩
  | next hread htake _ ih =>
    cases h with
    | next hread' htake' hrest =>
      rw [hread] at hread'
      cases hread'
      rw [htake] at htake'
      cases htake'
      exact ih hrest

theorem Goes.after (h : d.Goes units) (hreads : Reads d units cs d' left) : d'.Goes left := by
  obtain ⟨_, e, hall⟩ := h
  obtain ⟨more, hmore⟩ := hall.after hreads
  exact ⟨more, e, hmore⟩

end Draft

end RequestRouter
