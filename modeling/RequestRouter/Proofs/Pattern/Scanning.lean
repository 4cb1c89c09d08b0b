import Mathlib.Data.List.Forall2
import RequestRouter.Proofs.Pattern.Scan

/-!
# The scan finds what the shape finds

At each place of a pattern the shape of a placeholder is found just where the scan reads one, with
the same text and with its parts in the groups (`Placeholder.read_of_matchAt`,
`Placeholder.exists_matchAt_of_read`). So all pieces that are found from left to right are those of
the scan, and patterns are cut where the scan cuts them (`Placeholder.findAll_scan`).
-/

namespace RequestRouter

namespace Placeholder

variable {text : Array Char}

/-! ## What is found is read -/

namespace ClosesFirst

variable {opening close : Nat} (h : ClosesFirst text opening close)

include h

theorem not_infix : ¬ [')', '}'] <:+: slice text (opening + 2) close := by
  rintro ⟨front, behind, heq⟩
  have hget : ∀ j, (slice text (opening + 2) close)[front.length + j]? =
      ([')', '}'] ++ behind)[j]? := by
    intro j
    rw [← heq, List.append_assoc, List.getElem?_append_right (Nat.le_add_right _ _),
      Nat.add_sub_cancel_left]
  have hlength : (slice text (opening + 2) close).length = close - (opening + 2) := by
    apply length_slice
    exact Nat.le_of_lt (Array.getElem?_eq_some_iff.mp h.closes.1).1
  have hlength' : front.length + 2 ≤ (slice text (opening + 2) close).length := by
    rw [← heq, List.length_append, List.length_append]
    exact Nat.le_add_right _ _
  refine h.first (opening + 2 + front.length) (by omega) (by omega) ⟨?_, ?_⟩
  · rw [← getElem?_slice (q := close) (by omega)]
    exact hget 0
  · rw [Nat.add_assoc, ← getElem?_slice (q := close) (by omega)]
    exact hget 1

/-- The fragment is read up to where it ends. -/
theorem readFragment (behind : List Char) :
    Placeholder.readFragment (slice text opening (close + 1) ++ '}' :: behind) =
      some (slice text opening (close + 1), behind) := by
  have hlt := h.lt
  have hsize := (Array.getElem?_eq_some_iff.mp h.closes.1).1
  obtain ⟨c, hc⟩ : ∃ c, text[opening + 1]? = some c := ⟨_, Array.getElem?_eq_getElem (by omega)⟩
  have hinner : c :: slice text (opening + 2) close = slice text (opening + 1) close :=
    (slice_cons hc (by omega)).symm
  have hslice : slice text opening (close + 1) =
      '(' :: c :: (slice text (opening + 2) close ++ [')']) := by
    rw [slice_cons h.opens (by omega), slice_cons hc (by omega),
      slice_concat h.closes.1 (by omega)]
  rw [hslice]
  refine readFragment_append ?_ h.not_infix behind
  rw [hinner]
  intro hline
  obtain ⟨place, hlow, hhigh, hplace⟩ := getElem?_of_mem_slice hline
  exact h.sameLine place hlow hhigh hplace

end ClosesFirst

/-- A piece is what a placeholder is written as, and its groups have the parts of it. -/
structure Holds (text : Array Char) (found : Found) (source : Source) : Prop where
  mark : found.group text 1 = some source.mark
  name : found.group text 2 = some source.name
  fragment : found.group text 3 = source.fragment
  written : slice text found.first found.last = source.written
  lt : found.first < found.last
  le_size : found.last ≤ text.size

/-- What was found is read there, with the same text behind it. -/
theorem Shows.exists_read {found : Found} {start last : Nat} (h : Shows text found start last) :
    ∃ source, Holds text found source ∧ read (slice text found.first text.size) =
      some (source, slice text found.last text.size) := by
  obtain ⟨optional, hmark⟩ := slice_of_markTerm_takes h.mark
  have hstart := h.mark.le
  have hlast := h.name.le
  have hsize := h.name.lt_size
  have hgroup : found.group text 1 = some (if optional then ['?'] else []) := by
    rw [Found.group, h.marked, ← hmark]
    rfl
  have hgroup' : found.group text 2 = some (slice text start last) := by
    rw [Found.group, h.named]
    rfl
  -- up to the end of the name
  have hfront : slice text found.first last =
      '{' :: ((if optional then ['?'] else []) ++ slice text start last) := by
    rw [slice_cons h.brace (by omega), ← hmark, slice_append hstart hlast]
  have hread : ∀ source : Source, Holds text found source → IsName source.name →
      (∀ fragment ∈ source.fragment, ∀ behind,
        readFragment (fragment ++ '}' :: behind) = some (fragment, behind)) →
      read (slice text found.first text.size) =
        some (source, slice text found.last text.size) := by
    intro source hholds hname hgiven
    rw [← slice_append (Nat.le_of_lt hholds.lt) hholds.le_size, hholds.written]
    exact read_written hname fun fragment hfragment => hgiven fragment hfragment _
  rcases h.ending with ⟨hbrace, hend, hnone⟩ | ⟨hcolon, close, hfirst, hend, hgiven⟩
  · have hholds : Holds text found ⟨optional, slice text start last, none⟩ :=
      { mark := hgroup
        name := hgroup'
        fragment := by
          rw [Found.group, hnone]
          rfl
        written := by
          rw [hend, slice_concat hbrace (by omega), hfront]
          simp [Source.written, Source.mark, Source.given]
        lt := by omega
        le_size := by omega }
    refine ⟨_, hholds, hread _ hholds h.name.isName ?_⟩
    rintro _ ⟨⟩
  · have hlt := hfirst.lt
    have hbrace := hfirst.closes.2
    have hclose := (Array.getElem?_eq_some_iff.mp hbrace).1
    have hholds : Holds text found
        ⟨optional, slice text start last, some (slice text (last + 1) (close + 1))⟩ :=
      { mark := hgroup
        name := hgroup'
        fragment := by
          rw [Found.group, hgiven]
          rfl
        written := by
          rw [hend, slice_concat hbrace (by omega),
            ← slice_append (m := last) (by omega) (by omega), hfront,
            slice_cons hcolon (by omega)]
          simp [Source.written, Source.mark, Source.given]
        lt := by omega
        le_size := by omega }
    refine ⟨_, hholds, hread _ hholds h.name.isName ?_⟩
    rintro _ ⟨⟩ behind
    exact hfirst.readFragment behind

/-! ## What is read is found -/

/-- Text without the end of a line in it is taken by the middle part of a fragment. -/
theorem takes_inner {inner : List Char} {p q : Nat} (hle : p ≤ q) (hq : q ≤ text.size)
    (h : slice text p q = inner) (hne : inner ≠ []) (hline : '\n' ∉ inner) :
    (Regex.loop .lazy 1 none (.one givenTest)).Takes text p q := by
  have hlength := length_slice (p := p) hq
  rw [h] at hlength
  have hpos := List.length_pos_iff.mpr hne
  refine ⟨inner.length, hpos, rfl, Regex.steps_one_iff.mpr ⟨by omega, fun j hj => ?_⟩,
    fun hgreed => nomatch hgreed⟩
  refine givenTest_passesAt.mpr ⟨by omega, fun hplace => hline ?_⟩
  rw [← h]
  apply List.mem_of_getElem? (i := j)
  rw [getElem?_slice (by omega), hplace]

theorem takes_given {inner : List Char} {p q : Nat} (hle : p ≤ q) (hq : q ≤ text.size)
    (h : slice text p q = '(' :: (inner ++ [')'])) (hne : inner ≠ []) (hline : '\n' ∉ inner) :
    givenTerm.Takes text p q := by
  obtain ⟨a, hpa, haq, hopen, h⟩ := slice_eq_append (a := ['(']) hle hq h
  obtain ⟨b, hab, hbq, hinner, hclose⟩ := slice_eq_append haq hq h
  obtain ⟨rfl, hopens⟩ := eq_succ_of_slice hpa (Nat.le_trans haq hq) hopen
  obtain ⟨rfl, hcloses⟩ := eq_succ_of_slice hbq hq hclose
  exact ⟨p + 1, literal_takes.mpr ⟨hopens, rfl⟩, b,
    takes_inner hab (Nat.le_trans hbq hq) hinner hne hline, literal_takes.mpr ⟨hcloses, rfl⟩⟩

/-- The fragment, if one is given, is taken with the colon in front of it, and either the colon or
the closing brace ends the name. -/
theorem takes_behind_name {source : Source} {p q : Nat} (hle : p ≤ q) (hq : q ≤ text.size)
    (h : slice text p q = source.given) (hbrace : text[q]? = some '}')
    (hgiven : ∀ fragment ∈ source.fragment, ∃ inner, inner ≠ [] ∧ '\n' ∉ inner ∧
      fragment = '(' :: (inner ++ [')'])) :
    (∃ c, text[p]? = some c ∧ Text.isWord c.toNat = false) ∧
      (p = q ∨ (Regex.seq (literal ':') (.group 3 givenTerm)).Takes text p q) := by
  unfold Source.given at h
  split at h
  · next fragment hfragment =>
    obtain ⟨inner, hne, hline, rfl⟩ := hgiven fragment hfragment
    obtain ⟨a, hpa, haq, hcolon, h⟩ := slice_eq_append (a := [':']) hle hq h
    obtain ⟨rfl, hcolons⟩ := eq_succ_of_slice hpa (Nat.le_trans haq hq) hcolon
    exact ⟨⟨':', hcolons, by decide⟩,
      .inr ⟨p + 1, literal_takes.mpr ⟨hcolons, rfl⟩, takes_given haq hq h hne hline⟩⟩
  · have hlength := length_slice (p := p) hq
    rw [h, List.length_nil] at hlength
    obtain rfl : p = q := by omega
    exact ⟨⟨'}', hbrace, by decide⟩, .inl rfl⟩

/-- The shape takes what is written as a placeholder. -/
theorem takes_written {source : Source} {p q : Nat} (hle : p ≤ q) (hq : q ≤ text.size)
    (h : slice text p q = source.written) (hname : IsName source.name)
    (hgiven : ∀ fragment ∈ source.fragment, ∃ inner, inner ≠ [] ∧ '\n' ∉ inner ∧
      fragment = '(' :: (inner ++ [')'])) : shape.Takes text p q := by
  obtain ⟨a, hpa, haq, hopen, h⟩ := slice_eq_append (a := ['{']) hle hq h
  obtain ⟨start, has, hsq, hmark, h⟩ := slice_eq_append haq hq h
  obtain ⟨last, hsl, hlq, hspelled, h⟩ := slice_eq_append hsq hq h
  obtain ⟨stop, hls, hstop, hbehind, hclose⟩ := slice_eq_append hlq hq h
  obtain ⟨rfl, hopens⟩ := eq_succ_of_slice hpa (Nat.le_trans haq hq) hopen
  obtain ⟨rfl, hcloses⟩ := eq_succ_of_slice hstop hq hclose
  obtain ⟨hends, hend⟩ :=
    takes_behind_name hls (Nat.le_trans hstop hq) hbehind hcloses hgiven
  have hstands : NameStands text source.name start last := ⟨hname, hsl, hspelled, hends⟩
  rw [shape_eq, Part.takes_termOf]
  exact ⟨p + 1, literal_takes.mpr ⟨hopens, rfl⟩, start,
    markTerm_takes_of_slice has (Nat.le_trans hsq hq) hmark, last, hstands.takes, stop,
    Part.takes_optional.mpr hend, stop + 1, literal_takes.mpr ⟨hcloses, rfl⟩, rfl⟩

/-- What is read at a place is found there. -/
theorem exists_matchAt_of_read {p : Nat} {source : Source} {behind : List Char}
    (hp : p ≤ text.size) (h : read (slice text p text.size) = some (source, behind)) :
    ∃ found, shape.matchAt text p = some found := by
  obtain ⟨hname, hwritten, hgiven⟩ := written_of_read h
  obtain ⟨q, hpq, hq, hslice, -⟩ := slice_eq_append hp (Nat.le_refl _) hwritten
  exact (Regex.exists_matchAt_iff ordinary_shape numbered_shape hp).mpr
    ⟨q, takes_written hpq hq hslice hname hgiven⟩

/-! ## All pieces -/

theorem Holds.parameterOf {found : Found} {source : Source} (h : Holds text found source)
    (fallback : List Char) : Cut.parameterOf text fallback found = source.parameter fallback := by
  rw [Cut.parameterOf, h.mark, h.name, h.fragment]
  obtain ⟨optional, name, fragment⟩ := source
  cases optional <;> rfl

/-- From each place on the shape finds what the scan does. The literal text before the next
placeholder begins at `p`, and the scan has come as far as `q`. -/
theorem scanFrom_findFrom {fuel p q : Nat} (hpq : p ≤ q) (hq : q ≤ text.size)
    (hfuel : text.size < q + fuel) :
    let founds := shape.findFrom text fuel q
    let pieces := scanFrom (slice text p q) (slice text q text.size)
    List.Forall₂ (Holds text) founds pieces.sources ∧
      ∀ fallback, Cut.segmentsFrom text fallback p founds = pieces.cut fallback := by
  induction fuel generalizing p q with
  | zero => omega
  | succ fuel ih =>
    cases hmatch : shape.matchAt text q with
    | none =>
      -- nothing begins here, so both go on at the next character, if there is one
      have hread : read (slice text q text.size) = none := by
        cases hread : read (slice text q text.size) with
        | none => rfl
        | some entry =>
          obtain ⟨found, hfound⟩ := exists_matchAt_of_read hq hread
          rw [hmatch] at hfound
          cases hfound
      rw [Regex.findFrom, if_neg (Nat.not_lt.mpr hq), hmatch]
      rcases Nat.lt_or_eq_of_le hq with hlt | rfl
      · have hplace : text[q]? = some text[q] := Array.getElem?_eq_getElem hlt
        rw [slice_cons hplace hlt] at hread ⊢
        rw [scanFrom_cons hread, ← slice_concat hplace hpq]
        exact ih (Nat.le_succ_of_le hpq) hlt (by omega)
      · simp only [Regex.findFrom_of_lt (Nat.lt_succ_self _), slice_self, scanFrom_nil]
        exact ⟨.nil, fun fallback => rfl⟩
    | some found =>
      -- both go on behind the placeholder, with no literal text yet
      obtain ⟨rfl, start, last, hshows⟩ := exists_shows hmatch
      obtain ⟨source, hholds, hread⟩ := hshows.exists_read
      have hlt := hholds.lt
      obtain ⟨hsources, hcut⟩ := ih (Nat.le_refl found.last) hholds.le_size (by omega)
      rw [slice_self] at hsources hcut
      rw [Regex.findFrom_eq_cons hmatch hlt hq, scanFrom_of_read hread]
      refine ⟨.cons hholds hsources, fun fallback => ?_⟩
      rw [Cut.segmentsFrom, hcut fallback, hholds.parameterOf fallback]
      rfl

theorem findAll_eq (pattern : List Char) :
    List.Forall₂ (Holds pattern.toArray) (shape.findAll pattern.toArray) (scan pattern).sources ∧
      ∀ fallback, Cut.ofPattern pattern fallback = (scan pattern).cut fallback := by
  have hwhole : slice pattern.toArray 0 pattern.toArray.size = pattern := by simp [slice]
  have hfuel : pattern.toArray.size < 0 + (pattern.toArray.size + 1) := by omega
  have hall := scanFrom_findFrom (Nat.le_refl 0) (Nat.zero_le _) hfuel
  rw [slice_self, hwhole] at hall
  exact hall

/-- A pattern is cut where the scan cuts it. -/
theorem ofPattern_eq (pattern fallback : List Char) :
    Cut.ofPattern pattern fallback = (scan pattern).cut fallback := (findAll_eq pattern).2 fallback

/-- Literal text and a placeholder that is read where it is written are cut off a pattern. -/
theorem ofPattern_append {literal rest : List Char} {source : Source} (h : '{' ∉ literal)
    (hread : read (source.written ++ rest) = some (source, rest)) (fallback : List Char) :
    Cut.ofPattern (literal ++ (source.written ++ rest)) fallback =
      ⟨⟨literal, source.parameter fallback⟩ :: (Cut.ofPattern rest fallback).segments,
        (Cut.ofPattern rest fallback).tail⟩ := by
  rw [ofPattern_eq, scan_append h hread, ofPattern_eq]
  rfl

/-- The shape of a placeholder finds just the placeholders of the scan, from left to right. So the
parameters of a pattern are theirs, the pattern is cut where the scan cuts it, with the same literal
text between them, and put together again the pieces are the pattern. -/
theorem findAll_scan (pattern : List Char) :
    List.Forall₂ (Holds pattern.toArray) (shape.findAll pattern.toArray) (scan pattern).sources ∧
    (∀ fallback, parseParameters pattern fallback =
      (scan pattern).sources.map fun source => source.parameter fallback) ∧
    (∀ fallback, Cut.ofPattern pattern fallback = (scan pattern).cut fallback ∧
      (Cut.ofPattern pattern fallback).literals = (scan pattern).literals) ∧
    (scan pattern).text = pattern := by
  refine ⟨(findAll_eq pattern).1, fun fallback => ?_,
    fun fallback => ⟨ofPattern_eq pattern fallback, ?_⟩, text_scanFrom [] pattern⟩
  · rw [parseParameters, ofPattern_eq, Pieces.parameters_cut]
  · rw [ofPattern_eq, Pieces.literals_cut]

end Placeholder

end RequestRouter
