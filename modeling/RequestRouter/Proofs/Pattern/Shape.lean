import RequestRouter.Pattern.Placeholder
import RequestRouter.Proofs.Matching.Course

/-!
# What the shape of a placeholder finds

Where the shape of a placeholder is found in a text, its name ends at the first character that is no
word character, and a fragment at the first parenthesis with a brace behind it
(`Placeholder.exists_shows`): the name can neither stop short nor go further, since a colon or a
brace must follow it, and a fragment grows by one character at a time until the brace follows. All
this rests on braces, colons and question marks not being word characters.
-/

namespace RequestRouter

/-- A name that a placeholder can have. -/
structure IsName (name : List Char) : Prop where
  nonempty : name ≠ []
  word : ∀ c ∈ name, Text.isWord c.toNat = true

instance (name : List Char) : Decidable (IsName name) :=
  decidable_of_iff (name ≠ [] ∧ name.all (fun c => Text.isWord c.toNat) = true)
    ⟨fun ⟨hne, hword⟩ => ⟨hne, List.all_eq_true.mp hword⟩,
      fun ⟨hne, hword⟩ => ⟨hne, List.all_eq_true.mpr hword⟩⟩

section Slices

variable {text : Array Char} {p q : Nat} {c : Char}

theorem getElem?_slice {j : Nat} (hj : p + j < q) : (slice text p q)[j]? = text[p + j]? := by
  rw [slice, Array.getElem?_toList, Array.getElem?_extract]
  split
  · rfl
  · rw [Array.getElem?_eq_none (by omega)]

theorem mem_slice {place : Nat} (hp : p ≤ place) (hq : place < q) (h : text[place]? = some c) :
    c ∈ slice text p q := by
  apply List.mem_of_getElem? (i := place - p)
  rw [getElem?_slice (by omega), Nat.add_sub_cancel' hp, h]

theorem slice_cons (h : text[p]? = some c) (hq : p < q) :
    slice text p q = c :: slice text (p + 1) q := by
  rw [← slice_append (Nat.le_succ p) hq, slice_succ.mpr h]
  rfl

theorem slice_concat (h : text[q]? = some c) (hp : p ≤ q) :
    slice text p (q + 1) = slice text p q ++ [c] := by
  rw [← slice_append hp (Nat.le_succ q), slice_succ.mpr h]

theorem getElem?_of_mem_slice (h : c ∈ slice text p q) :
    ∃ place, p ≤ place ∧ place < q ∧ text[place]? = some c := by
  obtain ⟨j, hj⟩ := List.getElem?_of_mem h
  have hlt : p + j < q := by
    have hlength := (List.getElem?_eq_some_iff.mp hj).1
    simp only [slice, Array.length_toList, Array.size_extract] at hlength
    omega
  rw [getElem?_slice hlt] at hj
  exact ⟨p + j, by omega, hlt, hj⟩

theorem eq_succ_of_slice (hle : p ≤ q) (hq : q ≤ text.size)
    (h : slice text p q = [c]) : q = p + 1 ∧ text[p]? = some c := by
  have hlength := length_slice (p := p) hq
  rw [h, List.length_singleton] at hlength
  obtain rfl : q = p + 1 := by omega
  exact ⟨rfl, slice_succ.mp h⟩

end Slices

namespace Placeholder

/-- The test on a character of a name. -/
def nameTest : CharTest := .oneOf .exact false [.named .word false false]

/-- The term for the question mark of an optional placeholder. -/
def markTerm : Regex := .loop .greedy 0 (some 1) (literal '?')

/-- The term for the name of a placeholder. -/
def nameTerm : Regex := .loop .lazy 1 none (.one nameTest)

/-- The test on a character of a fragment. -/
def givenTest : CharTest := .any false

/-- The term for the fragment of a placeholder. -/
def givenTerm : Regex :=
  .seqAll [literal '(', .loop .lazy 1 none (.one givenTest), literal ')']

/-- The parts of the shape of a placeholder from the end of the name on. -/
def endParts : List Part :=
  [.whole (.loop .greedy 0 (some 1) (.seq (literal ':') (.group 3 givenTerm))), .letter '}']

/-- The parts of the shape of a placeholder. -/
def shapeParts : List Part :=
  .letter '{' :: .whole (.group 1 markTerm) :: .whole (.group 2 nameTerm) :: endParts

theorem shape_eq : shape = Part.termOf shapeParts := rfl

theorem ordinary_markTerm : markTerm.Ordinary := by
  simp [markTerm, Regex.Ordinary, literal]

theorem ordinary_nameTerm : nameTerm.Ordinary := by
  simp [nameTerm, Regex.Ordinary]

theorem ordinary_givenTerm : givenTerm.Ordinary := by
  simp [givenTerm, givenTest, Regex.seqAll, Regex.Ordinary, literal]

theorem numbered_markTerm : (Regex.group 1 markTerm).Numbered 0 1 := ⟨rfl, rfl⟩

theorem numbered_nameTerm : (Regex.group 2 nameTerm).Numbered 1 2 := ⟨rfl, rfl⟩

theorem numbered_givenTerm : (Regex.group 3 givenTerm).Numbered 2 3 := by
  simp [givenTerm, Regex.seqAll, Regex.Numbered, literal]

theorem ordinary_shape : shape.Ordinary := by
  simp [shape, Regex.seqAll, Regex.Ordinary, literal]

theorem numbered_shape : shape.Numbered 0 3 := by
  simp [shape, Regex.seqAll, Regex.Numbered, literal]

section Places

variable {text : Array Char} {p q : Nat} {c : Char}

theorem literal_takes : (literal c).Takes text p q ↔ text[p]? = some c ∧ p + 1 = q :=
  and_congr_left' Part.letter_passesAt

theorem markTerm_takes : markTerm.Takes text p q ↔ p = q ∨ text[p]? = some '?' ∧ p + 1 = q := by
  rw [markTerm, Part.takes_optional, literal_takes]

theorem slice_of_markTerm_takes (h : markTerm.Takes text p q) :
    ∃ optional : Bool, slice text p q = if optional then ['?'] else [] := by
  rcases markTerm_takes.mp h with rfl | ⟨hquestion, rfl⟩
  · exact ⟨false, slice_self text p⟩
  · exact ⟨true, slice_succ.mpr hquestion⟩

theorem markTerm_takes_of_slice {optional : Bool} (hle : p ≤ q) (hq : q ≤ text.size)
    (h : slice text p q = if optional then ['?'] else []) : markTerm.Takes text p q := by
  apply markTerm_takes.mpr
  cases optional with
  | true =>
    obtain ⟨rfl, hquestion⟩ := eq_succ_of_slice hle hq h
    exact .inr ⟨hquestion, rfl⟩
  | false =>
    have hlength := length_slice (p := p) hq
    rw [h] at hlength
    simp only [Bool.false_eq_true, if_false, List.length_nil] at hlength
    exact .inl (by omega)

theorem nameTest_passesAt : nameTest.passesAt text p = true ↔
    ∃ c, text[p]? = some c ∧ Text.isWord c.toNat = true := by
  unfold CharTest.passesAt
  cases text[p]? with
  | none => simp
  | some c => simp [nameTest, CharTest.holds, ClassItem.has, Category.has]

end Places

/-! ## Where a name stands -/

/-- A name stands in a text, and behind it no word character. -/
structure NameStands (text : Array Char) (name : List Char) (start last : Nat) : Prop where
  isName : IsName name
  le : start ≤ last
  spelled : slice text start last = name
  ends : ∃ c, text[last]? = some c ∧ Text.isWord c.toNat = false

namespace NameStands

variable {text : Array Char} {name : List Char} {start last : Nat}
  (h : NameStands text name start last)

include h

theorem lt_size : last < text.size := by
  obtain ⟨c, hc, -⟩ := h.ends
  exact (Array.getElem?_eq_some_iff.mp hc).1

theorem last_eq : last = start + name.length := by
  have hlength : (slice text start last).length = last - start :=
    length_slice (Nat.le_of_lt h.lt_size)
  rw [h.spelled] at hlength
  have hle := h.le
  omega

theorem lt : start < last := by
  have hne : name.length ≠ 0 := fun hnil => h.isName.nonempty (List.eq_nil_of_length_eq_zero hnil)
  have hlast := h.last_eq
  omega

/-- The characters of the name are word characters. -/
theorem word {place : Nat} (hstart : start ≤ place) (hlast : place < last) :
    ∃ c, text[place]? = some c ∧ Text.isWord c.toNat = true := by
  have hget : name[place - start]? = text[place]? := by
    rw [← h.spelled, getElem?_slice (by omega), Nat.add_sub_cancel' hstart]
  have hlt : place - start < name.length := by
    have hlength := h.last_eq
    omega
  rw [List.getElem?_eq_getElem hlt] at hget
  exact ⟨_, hget.symm, h.isName.word _ (List.getElem_mem hlt)⟩

theorem takes : nameTerm.Takes text start last := by
  have hlast := h.last_eq
  have hlt := h.lt
  refine ⟨name.length, by omega, rfl, ?_, fun hgreed => nomatch hgreed⟩
  apply Regex.steps_one_iff.mpr
  refine ⟨hlast, fun j hj => ?_⟩
  exact nameTest_passesAt.mpr (h.word (by omega) (by omega))

end NameStands

/-! ## Where a fragment ends -/

/-- A parenthesis with a brace behind stands at a place. -/
def ClosesAt (text : Array Char) (place : Nat) : Prop :=
  text[place]? = some ')' ∧ text[place + 1]? = some '}'

instance (text : Array Char) (place : Nat) : Decidable (ClosesAt text place) :=
  inferInstanceAs (Decidable (_ ∧ _))

/-- The first closing parenthesis with a brace behind it, for an opening one: there is something
between the two, and no line ends there. -/
structure ClosesFirst (text : Array Char) (opening close : Nat) : Prop where
  opens : text[opening]? = some '('
  lt : opening + 2 ≤ close
  closes : ClosesAt text close
  sameLine : ∀ place, opening < place → place < close → text[place]? ≠ some '\n'
  first : ∀ place, opening + 2 ≤ place → place < close → ¬ ClosesAt text place

variable {text : Array Char}

theorem givenTest_passesAt {place : Nat} : givenTest.passesAt text place = true ↔
    place < text.size ∧ text[place]? ≠ some '\n' := by
  unfold CharTest.passesAt givenTest
  cases hplace : text[place]? with
  | none =>
    have hsize := Array.getElem?_eq_none_iff.mp hplace
    simp [hsize]
  | some c =>
    have hsize := (Array.getElem?_eq_some_iff.mp hplace).1
    have hline : c.toNat = 10 ↔ c = '\n' := Char.toNat_inj (d := '\n')
    simp [hsize, CharTest.holds, hline]

/-- The trail behind a fragment. -/
def behindGiven (u : Trail) (close : Nat) : Trail :=
  ((u.mark (Marks.openPlace 3) u.head).move (close + 1)).mark (Marks.closePlace 3) (close + 1)

theorem ways_given {u : Trail} : (Regex.group 3 givenTerm).ways text u =
    if text[u.head]? = some '(' then
      (Stretch.ends text givenTest .lazy 1 none (u.head + 1)).flatMap fun close =>
        if text[close]? = some ')' then [behindGiven u close] else []
    else [] := by
  have hways : (Regex.group 3 givenTerm).ways text u =
      (((Part.letter '(').regex.ways text (u.mark (Marks.openPlace 3) u.head)).flatMap fun x =>
        ((Stretch.ends text givenTest .lazy 1 none x.head).map x.move).flatMap
          ((Part.letter ')').regex.ways text)).map
        fun v => v.mark (Marks.closePlace 3) v.head := rfl
  rw [hways, Part.ways_letter]
  have hhead : (u.mark (Marks.openPlace 3) u.head).head = u.head := rfl
  rw [hhead]
  split
  · rw [List.flatMap_singleton, List.flatMap_map, List.map_flatMap]
    congr 1
    funext close
    rw [Part.ways_letter, Trail.head_move]
    split <;> rfl
  · rfl

theorem mem_ends_given {opening place : Nat} (h : opening + 1 ≤ text.size) :
    place ∈ Stretch.ends text givenTest .lazy 1 none (opening + 1) ↔ opening + 2 ≤ place ∧
      ∀ between, opening < between → between < place →
        givenTest.passesAt text between = true := by
  rw [Stretch.mem_ends rfl h]
  constructor
  · rintro ⟨n, rfl, hn, -, hpasses, -⟩
    refine ⟨by omega, fun between hlow hhigh => ?_⟩
    have hpass := hpasses (between - (opening + 1)) (by omega)
    rwa [Nat.add_sub_cancel' hlow] at hpass
  · rintro ⟨hle, hpasses⟩
    refine ⟨place - (opening + 1), by omega, by omega, rfl, fun j hj => ?_, fun h => nomatch h⟩
    exact hpasses _ (by omega) (by omega)

/-- The first way through a fragment with a brace behind it leads to the first place where the
fragment can end. -/
theorem head_ways_given {u v : Trail} (h : (((Regex.group 3 givenTerm).ways text u).flatMap
    ((Part.letter '}').regex.ways text)).head? = some v) :
    ∃ close, ClosesFirst text u.head close ∧
      behindGiven u close ∈ (Regex.group 3 givenTerm).ways text u ∧
      v = (behindGiven u close).move (close + 2) := by
  have hbehind : ∀ close, (if text[close]? = some ')' then [behindGiven u close] else []).flatMap
      ((Part.letter '}').regex.ways text) =
      if ClosesAt text close then [(behindGiven u close).move (close + 2)] else [] := by
    intro close
    by_cases hclose : text[close]? = some ')'
    · have hhead : (behindGiven u close).head = close + 1 := rfl
      rw [if_pos hclose, List.flatMap_singleton, Part.ways_letter, hhead]
      simp only [ClosesAt, hclose, true_and]
    · rw [if_neg hclose, if_neg fun h => hclose h.1]
      rfl
  rw [ways_given] at h ⊢
  split at h
  · next hopens =>
    have hsize : u.head + 1 ≤ text.size := (Array.getElem?_eq_some_iff.mp hopens).1
    rw [if_pos hopens]
    simp only [List.flatMap_assoc, hbehind] at h
    obtain ⟨close, hends, hclose, hfirst⟩ := Stretch.exists_of_head_lazy h
    split at hclose
    · next hcloses =>
      obtain ⟨hlt, hpasses⟩ := (mem_ends_given hsize).mp hends
      refine ⟨close,
        { opens := hopens
          lt := hlt
          closes := hcloses
          sameLine := fun place hlow hhigh =>
            (givenTest_passesAt.mp (hpasses place hlow hhigh)).2
          first := ?_ }, ?_, ?_⟩
      · -- a place before it where the fragment can end would be an earlier way
        intro place hlow hhigh hplace
        have hmem := (mem_ends_given hsize).mpr ⟨hlow, fun between hopen hbetween =>
          hpasses between hopen (Nat.lt_trans hbetween hhigh)⟩
        have hnone := hfirst place hmem hhigh
        rw [if_pos hplace] at hnone
        cases hnone
      · refine List.mem_flatMap.mpr ⟨close, hends, ?_⟩
        rw [if_pos hcloses.1]
        exact List.mem_singleton_self _
      · exact (Option.some.inj hclose).symm
    · cases hclose
  · cases h

/-- The first way on from the end of the name leads to the closing brace, or through the fragment to
the first place where it can end. -/
theorem head_ways_behind_name {w v : Trail}
    (h : ((Part.termOf endParts).ways text w).head? = some v) :
    text[w.head]? = some '}' ∧ v = w.move (w.head + 1) ∨
    text[w.head]? = some ':' ∧ ∃ close, ClosesFirst text (w.head + 1) close ∧
      behindGiven (w.move (w.head + 1)) close ∈
        (Regex.group 3 givenTerm).ways text (w.move (w.head + 1)) ∧
      v = (behindGiven (w.move (w.head + 1)) close).move (close + 2) := by
  have hways : (Part.termOf endParts).ways text w =
      ((Regex.loop .greedy 0 (some 1) (.seq (literal ':') (.group 3 givenTerm))).ways text w).flatMap
        ((Part.letter '}').regex.ways text) := rfl
  rw [hways, Regex.ways_optional rfl, List.flatMap_append, List.head?_append, Option.or_eq_some_iff]
    at h
  rcases h with h | ⟨-, h⟩
  · have hways : (Regex.seq (literal ':') (.group 3 givenTerm)).ways text w =
        ((Part.letter ':').regex.ways text w).flatMap ((Regex.group 3 givenTerm).ways text) := rfl
    rw [hways, Part.ways_letter] at h
    split at h
    · next hcolon =>
      rw [List.flatMap_singleton] at h
      exact .inr ⟨hcolon, head_ways_given h⟩
    · cases h
  · rw [List.flatMap_singleton, Part.ways_letter] at h
    split at h
    · next hbrace =>
      cases h
      exact .inl ⟨hbrace, rfl⟩
    · cases h

/-! ## What is found -/

/-- The shape has found a placeholder: the places where its name begins and ends, and what stands
behind the name. -/
structure Shows (text : Array Char) (found : Found) (start last : Nat) : Prop where
  brace : text[found.first]? = some '{'
  mark : markTerm.Takes text (found.first + 1) start
  name : NameStands text (slice text start last) start last
  marked : found.marks.span 1 = some (found.first + 1, start)
  named : found.marks.span 2 = some (start, last)
  ending : text[last]? = some '}' ∧ found.last = last + 1 ∧ found.marks.span 3 = none ∨
    text[last]? = some ':' ∧ ∃ close, ClosesFirst text (last + 1) close ∧
      found.last = close + 2 ∧ found.marks.span 3 = some (last + 1, close + 1)

theorem isName_slice {start last : Nat} (h : nameTerm.Takes text start last)
    (hlast : last ≤ text.size) : IsName (slice text start last) := by
  obtain ⟨n, hn, -, hsteps, -⟩ := h
  obtain ⟨rfl, hpasses⟩ := Regex.steps_one_iff.mp hsteps
  constructor
  · intro hnil
    have hlength := length_slice (p := start) hlast
    rw [hnil, List.length_nil] at hlength
    omega
  · intro c hc
    obtain ⟨place, hlow, hhigh, hplace⟩ := getElem?_of_mem_slice hc
    obtain ⟨d, hd, hword⟩ := nameTest_passesAt.mp (hpasses (place - start) (by omega))
    rw [Nat.add_sub_cancel' hlow, hplace] at hd
    obtain rfl := Option.some.inj hd
    exact hword

/-- What the shape finds at a place is read off the first way through it. -/
theorem exists_shows {pos : Nat} {found : Found} (h : shape.matchAt text pos = some found) :
    found.first = pos ∧ ∃ start last, Shows text found start last := by
  rcases Regex.matchAt_cases ordinary_shape numbered_shape text pos with
    ⟨-, hnone⟩ | ⟨v, hv, marks, hmatch, hsame⟩
  · rw [hnone] at h
    cases h
  · rw [hmatch] at h
    cases h
    refine ⟨rfl, ?_⟩
    rw [shape_eq] at hv
    obtain ⟨a, hbrace, hinside⟩ := Part.exists_of_head_ways_cons hv
    obtain ⟨b, hmark, hbehind⟩ := Part.exists_of_head_ways_cons hinside
    obtain ⟨c, hname, hend⟩ := Part.exists_of_head_ways_cons hbehind
    obtain ⟨hopen, rfl⟩ := Part.mem_ways_letter.mp hbrace
    have htakes : markTerm.Takes text (pos + 1) b.head :=
      Regex.takes_of_mem_ways (r := .group 1 markTerm) ordinary_markTerm hmark
    have htakes' : nameTerm.Takes text b.head c.head :=
      Regex.takes_of_mem_ways (r := .group 2 nameTerm) ordinary_nameTerm hname
    have hspan := Regex.span_of_mem_ways_group ordinary_markTerm numbered_markTerm hmark
    have hspan' := Regex.span_of_mem_ways_group ordinary_nameTerm numbered_nameTerm hname
    -- the name leaves the marks of the other groups alone
    have hkept : ∀ place, place < 2 * 1 ∨ 2 * 2 ≤ place → c.marks.at? place = b.marks.at? place :=
      fun place hplace => Regex.at?_of_mem_ways numbered_nameTerm hname hplace
    have hspans : (∀ place, place < 2 * 2 → marks.at? place = c.marks.at? place) →
        marks.span 1 = some (pos + 1, b.head) ∧ marks.span 2 = some (b.head, c.head) := by
      intro hbefore
      have hfirst : ∀ place, place < 2 * 1 → marks.at? place = b.marks.at? place :=
        fun place hplace => (hbefore place (by omega)).trans (hkept place (.inl hplace))
      exact ⟨(Marks.span_congr (hfirst _ (by decide)) (hfirst _ (by decide))).trans hspan,
        (Marks.span_congr (hbefore _ (by decide)) (hbefore _ (by decide))).trans hspan'⟩
    have hstands : ∀ e, text[c.head]? = some e → Text.isWord e.toNat = false →
        NameStands text (slice text b.head c.head) b.head c.head := by
      intro e he hends
      have hlast := Nat.le_of_lt (Array.getElem?_eq_some_iff.mp he).1
      exact ⟨isName_slice htakes' hlast, htakes'.le, rfl, e, he, hends⟩
    rcases head_ways_behind_name hend with
      ⟨hclose, rfl⟩ | ⟨hcolon, close, hfirst, hgiven, rfl⟩
    · -- no fragment is given, and its group has no marks
      obtain ⟨hmarked, hnamed⟩ := hspans fun place _ => hsame place
      refine ⟨b.head, c.head, hopen, htakes, hstands _ hclose (by decide), hmarked, hnamed,
        .inl ⟨hclose, rfl, ?_⟩⟩
      apply Marks.span_eq_none
      have hkept' : ∀ place, place < 2 * 0 ∨ 2 * 1 ≤ place →
          b.marks.at? place = Marks.at? [] place :=
        fun place hplace => Regex.at?_of_mem_ways numbered_markTerm hmark hplace
      rw [hsame, Trail.move, hkept _ (.inr (by decide)), hkept' _ (.inr (by decide))]
      exact Marks.at?_nil _
    · have hkept' : ∀ place, place < 2 * 2 ∨ 2 * 3 ≤ place →
          (behindGiven (c.move (c.head + 1)) close).marks.at? place = c.marks.at? place :=
        fun place hplace => Regex.at?_of_mem_ways numbered_givenTerm hgiven hplace
      obtain ⟨hmarked, hnamed⟩ := hspans fun place hplace =>
        (hsame place).trans (hkept' place (.inl hplace))
      refine ⟨b.head, c.head, hopen, htakes, hstands _ hcolon (by decide), hmarked, hnamed,
        .inr ⟨hcolon, close, hfirst, rfl, ?_⟩⟩
      exact (Marks.span_congr (hsame _) (hsame _)).trans
        (Regex.span_of_mem_ways_group ordinary_givenTerm numbered_givenTerm hgiven)

end Placeholder

end RequestRouter
