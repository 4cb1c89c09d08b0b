import RequestRouter.Proofs.Pattern.Shape

/-!
# Placeholders by a scan

A scan of a pattern from left to right, without going back. Where an opening brace stands it reads an
optional question mark, all word characters that follow, of which there must be one, and then either
the closing brace, or a colon and a fragment in parentheses that ends at the first parenthesis with a
brace behind it (`Placeholder.read`). It goes on behind the placeholder, or at the next character if
there is none (`Placeholder.scan`). The scan only cuts: its pieces put together are the pattern
(`Placeholder.text_scan`).
-/

namespace RequestRouter.Placeholder

/-- A placeholder as it is written. -/
structure Source where
  optional : Bool
  name : List Char
  fragment : Option (List Char)
  deriving DecidableEq, Repr

namespace Source

/-- The question mark of an optional placeholder. -/
def mark (source : Source) : List Char := if source.optional then ['?'] else []

/-- What stands behind the name, if a fragment is given. -/
def given (source : Source) : List Char :=
  match source.fragment with
  | some fragment => ':' :: fragment
  | none => []

/-- The text of a placeholder. -/
def written (source : Source) : List Char :=
  '{' :: (source.mark ++ (source.name ++ (source.given ++ ['}'])))

/-- The parameter of a placeholder; `fallback` is its fragment if it gives none. -/
def parameter (source : Source) (fallback : List Char) : Parameter where
  name := source.name
  fragment := source.fragment.getD fallback
  optional := source.optional

end Source

/-- The text up to the first closing parenthesis with a brace behind it, and the text behind the
brace. No line may end before that. -/
def untilClose : List Char → Option (List Char × List Char)
  | [] => none
  | c :: rest =>
    if c = ')' ∧ rest.head? = some '}' then some ([')'], rest.tail)
    else if c = '\n' then none
    else (untilClose rest).map fun (front, behind) => (c :: front, behind)

/-- A fragment with the closing brace behind it: a parenthesis, a character, and the text up to the
first place where the fragment can end. -/
def readFragment : List Char → Option (List Char × List Char)
  | '(' :: c :: rest =>
    if c = '\n' then none
    else (untilClose rest).map fun (front, behind) => ('(' :: c :: front, behind)
  | _ => none

/-- The question mark at the beginning of a text, if there is one. -/
def splitMark : List Char → Bool × List Char
  | '?' :: rest => (true, rest)
  | text => (false, text)

/-- A character of a name. -/
def inName (c : Char) : Bool := Text.isWord c.toNat

/-- Reads a placeholder at the beginning of a text, with the text behind it. -/
def read : List Char → Option (Source × List Char)
  | '{' :: text =>
    let (optional, text) := splitMark text
    let name := text.takeWhile inName
    if name = [] then none
    else match text.dropWhile inName with
      | '}' :: behind => some (⟨optional, name, none⟩, behind)
      | ':' :: rest => (readFragment rest).map fun (fragment, behind) =>
          (⟨optional, name, some fragment⟩, behind)
      | _ => none
  | _ => none

/-! ## What is read -/

theorem untilClose_cons {c : Char} {rest : List Char} (hclose : ¬ (c = ')' ∧ rest.head? = some '}'))
    (hline : c ≠ '\n') : untilClose (c :: rest) =
      (untilClose rest).map fun (front, behind) => (c :: front, behind) := by
  rw [untilClose, if_neg hclose, if_neg hline]

/-- What was read ends in the parenthesis, and the brace stands behind it. -/
theorem eq_of_untilClose {text front behind : List Char}
    (h : untilClose text = some (front, behind)) :
    ∃ inner, front = inner ++ [')'] ∧ '\n' ∉ inner ∧ text = front ++ '}' :: behind := by
  induction text generalizing front with
  | nil => cases h
  | cons c rest ih =>
    by_cases hclose : c = ')' ∧ rest.head? = some '}'
    · rw [untilClose, if_pos hclose] at h
      cases h
      obtain ⟨rfl, hbrace⟩ := hclose
      obtain ⟨behind, rfl⟩ := List.head?_eq_some_iff.mp hbrace
      exact ⟨[], rfl, List.not_mem_nil, rfl⟩
    · by_cases hline : c = '\n'
      · rw [untilClose, if_neg hclose, if_pos hline] at h
        cases h
      · rw [untilClose_cons hclose hline, Option.map_eq_some_iff] at h
        obtain ⟨⟨others, last⟩, hrest, heq⟩ := h
        cases heq
        obtain ⟨inner, rfl, hinner, rfl⟩ := ih hrest
        refine ⟨c :: inner, rfl, ?_, rfl⟩
        exact List.not_mem_cons_of_ne_of_not_mem (Ne.symm hline) hinner

/-- A fragment is in parentheses, with something between them and no end of a line. -/
theorem eq_of_readFragment {text fragment behind : List Char}
    (h : readFragment text = some (fragment, behind)) :
    ∃ inner, inner ≠ [] ∧ '\n' ∉ inner ∧ fragment = '(' :: (inner ++ [')']) ∧
      text = fragment ++ '}' :: behind := by
  unfold readFragment at h
  split at h
  · next c rest =>
    split at h
    · cases h
    · next hline =>
      obtain ⟨⟨front, last⟩, hrest, heq⟩ := Option.map_eq_some_iff.mp h
      cases heq
      obtain ⟨inner, rfl, hinner, rfl⟩ := eq_of_untilClose hrest
      refine ⟨c :: inner, List.cons_ne_nil _ _, ?_, rfl, rfl⟩
      exact List.not_mem_cons_of_ne_of_not_mem (Ne.symm hline) hinner
  · cases h

theorem eq_of_splitMark {text rest : List Char} {optional : Bool}
    (h : splitMark text = (optional, rest)) : text = (if optional then ['?'] else []) ++ rest := by
  unfold splitMark at h
  split at h <;> cases h <;> rfl

theorem isName_takeWhile {text : List Char} (h : text.takeWhile inName ≠ []) :
    IsName (text.takeWhile inName) where
  nonempty := h
  word := List.all_eq_true.mp List.all_takeWhile

/-- What was read is written there. -/
theorem written_of_read {text behind : List Char} {source : Source}
    (h : read text = some (source, behind)) :
    IsName source.name ∧ text = source.written ++ behind ∧
      ∀ fragment ∈ source.fragment, ∃ inner, inner ≠ [] ∧ '\n' ∉ inner ∧
        fragment = '(' :: (inner ++ [')']) := by
  unfold read at h
  split at h
  · next inside =>
    generalize hmark : splitMark inside = split at h
    obtain ⟨optional, rest⟩ := split
    obtain rfl := eq_of_splitMark hmark
    have hname := @isName_takeWhile rest
    have hwhole : rest.takeWhile inName ++ rest.dropWhile inName = rest :=
      List.takeWhile_append_dropWhile
    dsimp only at h
    generalize rest.takeWhile inName = name at h hname hwhole
    split at h
    · cases h
    · next hne =>
      split at h
      · next hbrace =>
        cases h
        refine ⟨hname hne, ?_, fun _ hnone => nomatch hnone⟩
        rw [← hwhole, hbrace]
        simp [Source.written, Source.mark, Source.given]
      · next hcolon =>
        obtain ⟨⟨fragment, last⟩, hfragment, heq⟩ := Option.map_eq_some_iff.mp h
        cases heq
        obtain ⟨inner, hinner, hline, rfl, hrest⟩ := eq_of_readFragment hfragment
        refine ⟨hname hne, ?_, ?_⟩
        · rw [← hwhole, hcolon, hrest]
          simp [Source.written, Source.mark, Source.given]
        · rintro _ ⟨⟩
          exact ⟨inner, hinner, hline, rfl⟩
      · cases h
  · cases h

theorem read_of_ne {c : Char} (h : c ≠ '{') (rest : List Char) : read (c :: rest) = none := by
  unfold read
  split
  · next heq =>
    cases heq
    exact absurd rfl h
  · rfl

/-! ## Reading what is written -/

/-- A text without the end of a fragment in it is read up to the parenthesis behind it. -/
theorem untilClose_append {inner : List Char} (hline : '\n' ∉ inner)
    (hclose : ¬ [')', '}'] <:+: inner) (behind : List Char) :
    untilClose (inner ++ ')' :: '}' :: behind) = some (inner ++ [')'], behind) := by
  induction inner with
  | nil => rfl
  | cons c inner ih =>
    have hrest : ¬ [')', '}'] <:+: inner := fun hmem => hclose (List.infix_cons hmem)
    -- a parenthesis at the end of `inner` has the other parenthesis behind it, and no brace
    have hhere : ¬ (c = ')' ∧ (inner ++ ')' :: '}' :: behind).head? = some '}') := by
      rintro ⟨rfl, hbrace⟩
      cases inner with
      | nil => cases hbrace
      | cons d inner =>
        obtain rfl := Option.some.inj hbrace
        exact hclose ⟨[], inner, rfl⟩
    rw [List.mem_cons, not_or] at hline
    rw [List.cons_append, untilClose_cons hhere (Ne.symm hline.1), ih hline.2 hrest]
    rfl

theorem readFragment_append {c : Char} {inner : List Char} (hline : '\n' ∉ c :: inner)
    (hclose : ¬ [')', '}'] <:+: inner) (behind : List Char) :
    readFragment (('(' :: c :: (inner ++ [')'])) ++ '}' :: behind) =
      some ('(' :: c :: (inner ++ [')']), behind) := by
  rw [List.mem_cons, not_or] at hline
  simp only [readFragment, List.cons_append, List.append_assoc, List.nil_append,
    if_neg (Ne.symm hline.1), untilClose_append hline.2 hclose]
  rfl

theorem splitMark_of_ne {rest : List Char} (h : rest.head? ≠ some '?') :
    splitMark rest = (false, rest) := by
  unfold splitMark
  split
  · exact absurd rfl h
  · rfl

theorem splitMark_append {optional : Bool} {rest : List Char} (h : rest.head? ≠ some '?') :
    splitMark ((if optional then ['?'] else []) ++ rest) = (optional, rest) := by
  cases optional with
  | true => rfl
  | false => exact splitMark_of_ne h

/-- A name is all the word characters in front of something else. -/
theorem takeWhile_name {name rest : List Char} (hname : IsName name)
    (hrest : ∀ c ∈ rest.head?, inName c = false) :
    (name ++ rest).takeWhile inName = name ∧ (name ++ rest).dropWhile inName = rest := by
  have hnone : rest.takeWhile inName = [] ∧ rest.dropWhile inName = rest := by
    cases rest with
    | nil => exact ⟨rfl, rfl⟩
    | cons c rest => simp [hrest c rfl]
  have hword : ∀ c ∈ name, inName c = true := hname.word
  rw [List.takeWhile_append_of_pos hword, List.dropWhile_append_of_pos hword, hnone.1, hnone.2]
  exact ⟨List.append_nil _, rfl⟩

theorem head?_ne_question {name rest : List Char} (hname : IsName name) :
    (name ++ rest).head? ≠ some '?' := by
  cases name with
  | nil => exact absurd rfl hname.nonempty
  | cons c name =>
    rintro ⟨⟩
    exact absurd (hname.word '?' List.mem_cons_self) (by decide)

/-- A placeholder is read where it is written, if the fragment that it gives is. -/
theorem read_written {source : Source} {behind : List Char} (hname : IsName source.name)
    (hgiven : ∀ fragment ∈ source.fragment,
      readFragment (fragment ++ '}' :: behind) = some (fragment, behind)) :
    read (source.written ++ behind) = some (source, behind) := by
  have hwritten : source.written ++ behind = '{' :: ((if source.optional then ['?'] else []) ++
      (source.name ++ (source.given ++ '}' :: behind))) := by
    simp [Source.written, Source.mark]
  have hrest : ∀ c ∈ (source.given ++ '}' :: behind).head?, inName c = false := by
    intro c hc
    unfold Source.given at hc
    split at hc <;> cases hc <;> decide
  obtain ⟨htake, hdrop⟩ := takeWhile_name hname hrest
  rw [hwritten]
  simp only [read, splitMark_append (head?_ne_question hname), htake, hdrop,
    if_neg hname.nonempty]
  obtain ⟨optional, name, fragment⟩ := source
  cases fragment with
  | none => rfl
  | some fragment =>
    simp only [Source.given, List.cons_append, hgiven fragment rfl]
    rfl

/-- Behind a name and a colon a fragment is read. -/
theorem read_given {name : List Char} (hname : IsName name) (rest : List Char) :
    read ('{' :: (name ++ ':' :: rest)) = (readFragment rest).map fun (fragment, behind) =>
      (⟨false, name, some fragment⟩, behind) := by
  have hends : ∀ c ∈ (':' :: rest).head?, inName c = false := by
    rintro _ ⟨⟩
    decide
  obtain ⟨htake, hdrop⟩ := takeWhile_name hname hends
  simp only [read, splitMark_of_ne (head?_ne_question hname), htake, hdrop, if_neg hname.nonempty]

/-! ## The scan -/

theorem length_lt_of_read {text behind : List Char} {source : Source}
    (h : read text = some (source, behind)) : behind.length < text.length := by
  obtain ⟨-, rfl, -⟩ := written_of_read h
  rw [Source.written, List.cons_append, List.length_cons, List.length_append]
  omega

/-- A text cut by a scan: literal text with a placeholder after it, any number of times, and the
literal text at the end. -/
structure Pieces where
  placeholders : List (List Char × Source)
  tail : List Char
  deriving DecidableEq, Repr

namespace Pieces

/-- The placeholders, without the literal text. -/
def sources (pieces : Pieces) : List Source := pieces.placeholders.map Prod.snd

/-- The pieces put together. -/
def text (pieces : Pieces) : List Char :=
  (pieces.placeholders.flatMap fun (literal, source) => literal ++ source.written) ++ pieces.tail

/-- The literal text, without the placeholders. -/
def literals (pieces : Pieces) : List Char := pieces.placeholders.flatMap Prod.fst ++ pieces.tail

/-- The cut of a pattern with these pieces. -/
def cut (pieces : Pieces) (fallback : List Char) : Cut where
  segments := pieces.placeholders.map fun (literal, source) => ⟨literal, source.parameter fallback⟩
  tail := pieces.tail

theorem text_cons (literal : List Char) (source : Source) (rest : List (List Char × Source))
    (tail : List Char) : text ⟨(literal, source) :: rest, tail⟩ =
      literal ++ (source.written ++ text ⟨rest, tail⟩) := by
  simp [text]

theorem literals_cut (pieces : Pieces) (fallback : List Char) :
    (pieces.cut fallback).literals = pieces.literals := by
  simp [Cut.literals, Pieces.cut, literals, List.flatMap_map]

theorem parameters_cut (pieces : Pieces) (fallback : List Char) :
    (pieces.cut fallback).parameters =
      pieces.sources.map fun source => source.parameter fallback := by
  simp [Cut.parameters, Pieces.cut, sources, Function.comp_def]

end Pieces

/-- Scans a text, with literal text before it. -/
def scanFrom (literal : List Char) : List Char → Pieces
  | [] => ⟨[], literal⟩
  | c :: rest =>
    match _hread : read (c :: rest) with
    | some (source, behind) =>
      let pieces := scanFrom [] behind
      { pieces with placeholders := (literal, source) :: pieces.placeholders }
    | none => scanFrom (literal ++ [c]) rest
termination_by text => text.length
decreasing_by
  · exact length_lt_of_read _hread
  · exact Nat.lt_succ_self _

/-- Scans a pattern. -/
def scan (pattern : List Char) : Pieces := scanFrom [] pattern

variable {literal text behind rest : List Char} {source : Source} {c : Char}

theorem scanFrom_nil (literal : List Char) : scanFrom literal [] = ⟨[], literal⟩ := by
  rw [scanFrom]

theorem scanFrom_of_read (h : read text = some (source, behind)) : scanFrom literal text =
    ⟨(literal, source) :: (scanFrom [] behind).placeholders, (scanFrom [] behind).tail⟩ := by
  cases text with
  | nil => cases h
  | cons c rest =>
    rw [scanFrom]
    split
    · next heq =>
      rw [h] at heq
      cases heq
      rfl
    · next heq =>
      rw [h] at heq
      cases heq

theorem scanFrom_cons (h : read (c :: rest) = none) :
    scanFrom literal (c :: rest) = scanFrom (literal ++ [c]) rest := by
  rw [scanFrom]
  split
  · next heq =>
    rw [h] at heq
    cases heq
  · rfl

/-- Text without an opening brace is literal text. -/
theorem scanFrom_append {front : List Char} (h : '{' ∉ front) (literal rest : List Char) :
    scanFrom literal (front ++ rest) = scanFrom (literal ++ front) rest := by
  induction front generalizing literal with
  | nil => rw [List.nil_append, List.append_nil]
  | cons c front ih =>
    rw [List.mem_cons, not_or] at h
    rw [List.cons_append, scanFrom_cons (read_of_ne (Ne.symm h.1) _), ih h.2, List.append_assoc]
    rfl

theorem scan_of_not_mem (h : '{' ∉ text) : scan text = ⟨[], text⟩ := by
  have hscan := scanFrom_append h [] []
  rw [List.append_nil, scanFrom_nil] at hscan
  exact hscan

/-- Literal text and a placeholder that is read where it is written are the first pieces. -/
theorem scan_append (h : '{' ∉ literal)
    (hread : read (source.written ++ rest) = some (source, rest)) :
    scan (literal ++ (source.written ++ rest)) =
      ⟨(literal, source) :: (scan rest).placeholders, (scan rest).tail⟩ := by
  rw [scan, scanFrom_append h, scanFrom_of_read hread]
  rfl

/-- No character is lost by a scan, and none is found twice. -/
theorem text_scanFrom (literal text : List Char) :
    (scanFrom literal text).text = literal ++ text := by
  induction literal, text using scanFrom.induct with
  | case1 literal =>
    rw [scanFrom_nil, List.append_nil]
    rfl
  | case2 literal c rest source behind hread ih =>
    obtain ⟨-, hwritten, -⟩ := written_of_read hread
    rw [scanFrom_of_read hread, hwritten]
    simp only [Pieces.text, List.flatMap_cons, List.append_assoc, List.nil_append] at ih ⊢
    rw [ih]
  | case3 literal c rest hread ih =>
    rw [scanFrom_cons hread, ih]
    exact List.append_cons literal c rest |>.symm

end RequestRouter.Placeholder
