import RequestRouter.Proofs.Reading.Simple
import RequestRouter.Regex.Verbatim

/-!
# Literal text is read as it is

Each character of a text that is written as a literal is read as a test for that character
(`Construct.read_verbatim`), so the whole text only adds these tests to the alternative being read
(`Draft.reads_verbatim`). `Draft.Adds` says that of any run which adds pieces to the innermost level
and changes nothing else in it.
-/

namespace RequestRouter

/-! ## Units of joined texts -/

namespace Units

theorem ofChars_cons {c : Char} (hc : c ≠ '\\') (text : List Char) :
    ofChars (c :: text) = (.char c :: (ofChars text).1, (ofChars text).2) := by
  rw [ofChars]
  · rintro rfl
    exact absurd rfl hc
  · rintro d rest rfl
    exact absurd rfl hc

/-- A text without a lone backslash at its end can be cut into units apart from what follows. -/
theorem ofChars_append {a : List Char} (ha : (ofChars a).2 = false) (b : List Char) :
    ofChars (a ++ b) = ((ofChars a).1 ++ (ofChars b).1, (ofChars b).2) := by
  fun_induction ofChars a with
  | case1 => rfl
  | case2 => cases ha
  | case3 c rest units lone cut ih =>
    rw [cut] at ih
    simp only [List.cons_append, ofChars, ih ha]
  | case4 c rest hlone hpair units lone cut ih =>
    rw [cut] at ih
    have hc : c ≠ '\\' := by
      rintro rfl
      cases rest with
      | nil => exact hlone rfl rfl
      | cons d rest => exact hpair d rest rfl rfl
    rw [List.cons_append, ofChars_cons hc, ih ha]
    rfl

end Units

/-- The unit that a character is written as to stand for itself. -/
def Lexeme.verbatim (c : Char) : Lexeme := if isReserved c then .pair c else .char c

/-- The test for one character. -/
def CharTest.letter (c : Char) : CharTest := .literal .exact false c.toNat

theorem Units.ofChars_verbatim (text : List Char) :
    ofChars (verbatim text) = (text.map Lexeme.verbatim, false) := by
  induction text with
  | nil => rfl
  | cons c text ih =>
    have hone : ofChars (verbatimChar c) = ([Lexeme.verbatim c], false) := by
      unfold verbatimChar Lexeme.verbatim
      split
      · rfl
      · next hc =>
        have hne : c ≠ '\\' := by
          rintro rfl
          exact hc (by decide)
        exact ofChars_cons hne []
    have hcons : verbatim (c :: text) = verbatimChar c ++ verbatim text := List.flatMap_cons
    rw [hcons, ofChars_append (by rw [hone]), hone, ih]
    rfl

/-- A character that is written as a literal is read as the test for it. -/
theorem Construct.read_verbatim (c : Char) (rest : Units) :
    ∃ construct, read {} (Lexeme.verbatim c) rest = .ok (construct, rest) ∧
      construct.test? {} = some (.letter c) := by
  unfold Lexeme.verbatim
  split
  · next hc =>
    have hplain : ∀ c ∈ "()[]{}?*+-|^$\\.&~# \t\n\r\x0b\x0c".toList,
        Escape.anchor? false c = none ∧ Escape.class? false c = none ∧
          (Text.controlOf? c = none ∨ Text.controlOf? c = some c.toNat) ∧
          c ∉ ['x', 'u', 'U', 'N', '0'] ∧ c.isDigit = false ∧
          Text.isAsciiLetter c.toNat = false := forall_mem_of_all (by decide)
    obtain ⟨hanchor, hclass, hcontrol, hcode, hdigit, hletter⟩ :=
      hplain c (List.contains_iff_mem.mp hc)
    refine ⟨.escape (.code c.toNat), ?_, rfl⟩
    have hmeaning : Escape.readOutside false c rest = .ok (.code c.toNat, rest) := by
      unfold Escape.readOutside
      rw [hanchor, hclass]
      rcases hcontrol with hcontrol | hcontrol
      · simp only [List.mem_cons, not_or] at hcode
        obtain ⟨hx, hu, hU, hN, hzero, -⟩ := hcode
        have hnone : Escape.readCode? c rest = none := by
          unfold Escape.readCode?
          split <;> simp_all
        rw [hcontrol, hnone]
        simp [hzero, hdigit, Escape.readPlain, hletter, Except.map]
      · rw [hcontrol]
    simp only [read, hmeaning]
    rfl
  · next hc =>
    refine ⟨.letter c, ?_, rfl⟩
    have hother : ∀ d, isReserved d = true → c ≠ d := by
      rintro d hd rfl
      exact hc hd
    have hnone : Bounds.read? c rest = .ok none := by
      unfold Bounds.read?
      split
      · exact absurd rfl (hother '?' (by decide))
      · exact absurd rfl (hother '*' (by decide))
      · exact absurd rfl (hother '+' (by decide))
      · exact absurd rfl (hother '{' (by decide))
      · rfl
    unfold read
    split
    · next heq => cases heq
    · next heq =>
      cases heq
      exact absurd rfl (hother '(' (by decide))
    · next heq =>
      cases heq
      exact absurd rfl (hother ')' (by decide))
    · next heq =>
      cases heq
      exact absurd rfl (hother '|' (by decide))
    · next heq =>
      cases heq
      show readChar {} c rest = _
      unfold readChar
      split
      · exact absurd rfl (hother '.' (by decide))
      · exact absurd rfl (hother '^' (by decide))
      · exact absurd rfl (hother '$' (by decide))
      · exact absurd rfl (hother '[' (by decide))
      · rw [hnone]
        rfl

theorem Construct.read_optional {mode : Mode} {rest : Units} (hmode : mode = {})
    (hgreed : Greed.read rest = (.greedy, rest)) :
    read mode (.char '?') rest = .ok (.quantifier ⟨0, some 1⟩ .greedy, rest) := by
  rw [hmode]
  show Except.ok (Construct.quantifier ⟨0, some 1⟩ (Greed.read rest).1, (Greed.read rest).2) = _
  rw [hgreed]

/-! ## Runs that add pieces -/

/-- A character as a part of an alternative. -/
def Part.letter (c : Char) : Part := .atom (.one (.letter c))

/-- A character as a piece of an alternative. -/
def Piece.letter (c : Char) : Piece := .atom (.one (.letter c))

namespace Draft

/-- The innermost level has more pieces, and there are so many more groups; the choices by groups
and the other levels are as they were. -/
structure Adds (d : Draft) (pieces : List Piece) (count : Nat) (d' : Draft) : Prop where
  level : d'.level = { d.level with pieces := pieces.reverse ++ d.level.pieces }
  outer : d'.outer = d.outer
  groups : d'.groups = d.groups + count
  tests : d'.tests = d.tests

namespace Adds

variable {d d' d'' : Draft} {pieces pieces' : List Piece} {count count' : Nat}

theorem nil (d : Draft) : d.Adds [] 0 d := ⟨rfl, rfl, rfl, rfl⟩

theorem push (d : Draft) (piece : Piece) : d.Adds [piece] 0 (d.push piece) := ⟨rfl, rfl, rfl, rfl⟩

theorem trans (h : d.Adds pieces count d') (h' : d'.Adds pieces' count' d'') :
    d.Adds (pieces ++ pieces') (count + count') d'' where
  level := by rw [h'.level, h.level, List.reverse_append, List.append_assoc]
  outer := h'.outer.trans h.outer
  groups := by rw [h'.groups, h.groups, Nat.add_assoc]
  tests := h'.tests.trans h.tests

theorem mode (h : d.Adds pieces count d') : d'.level.mode = d.level.mode := by rw [h.level]

theorem opener (h : d.Adds pieces count d') : d'.level.opener = d.level.opener := by rw [h.level]

/-- The alternative being read has the parts of these pieces at its end. -/
theorem branch (h : d.Adds pieces count d') :
    d'.level.branch = d.level.branch ++ pieces.flatMap Piece.parts := by
  rw [h.level]
  simp [Level.branch]

end Adds

theorem reads_dollar {d : Draft} (hmode : d.level.mode = {}) :
    Reads d [.char '$'] [.edge true] (d.push (.anchor .lastLineEnd)) [] := by
  have hread : Construct.read d.level.mode (.char '$') [] = .ok (.edge true, []) := by
    rw [hmode]
    rfl
  have htake : d.take (Units.width []) [] (.edge true) = some (d.push (.anchor .lastLineEnd)) := by
    rw [take, hmode]
    rfl
  exact .next hread htake .done

/-- Literal text adds its characters. -/
theorem reads_verbatim {d : Draft} (hmode : d.level.mode = {}) (text : List Char) (more : Units) :
    ∃ cs d', Reads d (text.map Lexeme.verbatim ++ more) cs d' more ∧
      d.Adds (text.map Piece.letter) 0 d' := by
  induction text generalizing d with
  | nil => exact ⟨[], d, .done, Adds.nil d⟩
  | cons c text ih =>
    obtain ⟨construct, hread, htest⟩ := Construct.read_verbatim c (text.map Lexeme.verbatim ++ more)
    rw [← hmode] at hread htest
    have hpush := Adds.push d (Piece.letter c)
    obtain ⟨cs, d', hreads, hadds⟩ := ih (d := d.push (Piece.letter c)) hmode
    exact ⟨_, d', .next hread (take_of_test? htest) hreads, hpush.trans hadds⟩

/-- An optional parenthesis opens a level of its own, and closes it into one piece. -/
theorem reads_optional_parenthesis {e : Draft} {inside more : Units} (hmode : e.level.mode = {})
    (hgreed : Greed.read more = (.greedy, more)) :
    ∃ e₁, Reads e (.char '(' :: .char '?' :: .char ':' :: inside) [.opening (.scoped [] [])] e₁
        inside ∧
      (∃ left, e₁.level = { opener := .bare false, left, mode := {} }) ∧
      e₁.outer = e.level :: e.outer ∧ e₁.groups = e.groups ∧ e₁.tests = e.tests ∧
      ∀ {cs e₂}, Reads e₁ inside cs e₂ (.char ')' :: .char '?' :: more) → e₂.outer = e₁.outer →
        ∃ cs' e', Reads e (.char '(' :: .char '?' :: .char ':' :: inside) cs' e' more ∧
          e'.level = { e.level with
            pieces := .repeated (.loop .greedy 0 (some 1) (Part.termOf e₂.closedParts)) ::
              e.level.pieces } ∧
          e'.outer = e.outer ∧ e'.groups = e₂.groups ∧ e'.tests = e₂.tests := by
  have hread : Construct.read e.level.mode (.char '(') (.char '?' :: .char ':' :: inside) =
      .ok (.opening (.scoped [] []), inside) := rfl
  have hopen : Reads e (.char '(' :: .char '?' :: .char ':' :: inside) [.opening (.scoped [] [])]
      (e.descend (.bare false) e.level.mode (Units.width (.char '?' :: .char ':' :: inside)))
      inside := .next hread rfl .done
  refine ⟨_, hopen, ⟨_, by rw [hmode]; rfl⟩, rfl, rfl, rfl, fun {cs e₂} hreads houter => ?_⟩
  have hclosed := reads_close houter (.char '?' :: more)
  have hread' := Construct.read_optional
    (show (e₂.ascend e.level e.outer).level.mode = {} from hmode) hgreed
  obtain ⟨e', hrepeat, hlevel, houter', hgroups, htests⟩ : ∃ e',
      (e₂.ascend e.level e.outer).take (Units.width more) more (.quantifier ⟨0, some 1⟩ .greedy) =
        some e' ∧
      e'.level = { e.level with
        pieces := .repeated (.loop .greedy 0 (some 1) (Part.termOf e₂.closedParts)) ::
          e.level.pieces } ∧
      e'.outer = e.outer ∧ e'.groups = (e₂.ascend e.level e.outer).groups ∧
      e'.tests = (e₂.ascend e.level e.outer).tests := ⟨_, rfl, rfl, rfl, rfl, rfl⟩
  rw [ascend_groups] at hgroups
  rw [ascend_tests] at htests
  exact ⟨_, e', hopen.trans (hreads.trans (hclosed.trans (.next hread' hrepeat .done))), hlevel,
    houter', hgroups, htests⟩

end Draft

end RequestRouter
