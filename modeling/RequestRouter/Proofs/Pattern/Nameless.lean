import RequestRouter.Proofs.Pattern.Scan

/-!
# Placeholders without a name

The shape of a placeholder without a name is found in a text where a brace stands, perhaps a question
mark, and then a closing brace, or a colon with a closing brace somewhere behind it
(`Placeholder.occursIn_nameless`). It looks at all of the text, also inside of other placeholders.
-/

namespace RequestRouter

namespace Placeholder

/-- A placeholder without a name begins here, up to the colon or the closing brace. -/
def opensNameless : List Char → Bool
  | '{' :: text => (splitMark text).2.head?.any fun c => c == ':' || c == '}'
  | _ => false

/-- A placeholder without a name begins somewhere. -/
def hidesNameless : List Char → Bool
  | [] => false
  | c :: rest => opensNameless (c :: rest) || hidesNameless rest

/-- A placeholder without a name begins somewhere and ends behind that. -/
def hasNameless : List Char → Bool
  | [] => false
  | c :: rest => opensNameless (c :: rest) && rest.contains '}' || hasNameless rest

/-! ## At one place -/

/-- The parts of the shape of a placeholder without a name. -/
def namelessParts : List Part :=
  [.letter '{', .whole markTerm,
    .whole (.loop .greedy 0 (some 1)
      (.seq (literal ':') (.loop .greedy 0 none (.one (.literal .exact true '}'.toNat))))),
    .letter '}']

theorem nameless_eq : nameless = Part.termOf namelessParts := rfl

theorem ordinary_nameless : nameless.Ordinary := by
  simp [nameless, Regex.seqAll, Regex.Ordinary, literal]

theorem numbered_nameless : nameless.Numbered 0 0 := by
  simp [nameless, Regex.seqAll, Regex.Numbered, literal]

theorem exists_of_opensNameless {text : List Char} (h : opensNameless text = true) :
    ∃ (optional : Bool) (c : Char) (rest : List Char), (c = ':' ∨ c = '}') ∧
      text = '{' :: ((if optional then ['?'] else []) ++ c :: rest) := by
  unfold opensNameless at h
  split at h
  · next inside =>
    generalize hmark : splitMark inside = split at h
    obtain ⟨optional, rest⟩ := split
    obtain rfl := eq_of_splitMark hmark
    cases rest with
    | nil => cases h
    | cons c rest => exact ⟨optional, c, rest, by simpa using h, rfl⟩
  · cases h

theorem opensNameless_append (optional : Bool) {c : Char} (hc : c = ':' ∨ c = '}')
    (rest : List Char) :
    opensNameless ('{' :: ((if optional then ['?'] else []) ++ c :: rest)) = true := by
  have hquestion : (c :: rest).head? ≠ some '?' := by
    rcases hc with rfl | rfl <;> simp
  rw [opensNameless, splitMark_append hquestion]
  rcases hc with rfl | rfl <;> rfl

variable {text : Array Char} {p q : Nat}

/-- Where the shape takes something, a placeholder without a name begins and ends. -/
theorem of_nameless_takes (h : nameless.Takes text p q) :
    opensNameless (slice text p text.size) = true ∧ '}' ∈ slice text (p + 1) text.size := by
  rw [nameless_eq, Part.takes_termOf] at h
  obtain ⟨_, ⟨hopen, rfl⟩, m, hmark, n, hrest, _, ⟨hclose, -⟩, -⟩ := h
  have hopen := Part.letter_passesAt.mp hopen
  have hclose := Part.letter_passesAt.mp hclose
  have hle : p + 1 ≤ m := hmark.le
  have hle' : m ≤ n := hrest.le
  have hsize := (Array.getElem?_eq_some_iff.mp hclose).1
  obtain ⟨c, hc, hnext⟩ : ∃ c, (c = ':' ∨ c = '}') ∧ text[m]? = some c := by
    rcases Part.takes_optional.mp hrest with rfl | ⟨_, ⟨hcolon, -⟩, -⟩
    · exact ⟨'}', .inr rfl, hclose⟩
    · exact ⟨':', .inl rfl, Part.letter_passesAt.mp hcolon⟩
  obtain ⟨optional, hmark⟩ := slice_of_markTerm_takes hmark
  have hslice : slice text p text.size =
      '{' :: ((if optional then ['?'] else []) ++ c :: slice text (m + 1) text.size) := by
    have hm := (Array.getElem?_eq_some_iff.mp hnext).1
    rw [slice_cons hopen (by omega), ← slice_append hle (Nat.le_of_lt hm), hmark,
      slice_cons hnext hm]
  rw [hslice]
  exact ⟨opensNameless_append optional hc _, mem_slice (by omega) hsize hclose⟩

/-- Characters other than the closing brace are taken by the middle part of a placeholder without a
name. -/
theorem takes_others {others : List Char} (hle : p ≤ q) (hq : q ≤ text.size)
    (h : slice text p q = others) (hbrace : '}' ∉ others) :
    (Regex.loop .greedy 0 none (.one (.literal .exact true '}'.toNat))).Takes text p q := by
  have hlength := length_slice (p := p) hq
  refine ⟨q - p, Nat.zero_le _, rfl, Regex.steps_one_iff.mpr ⟨by omega, fun j hj => ?_⟩,
    fun hgreed => nomatch hgreed⟩
  have hplace := Array.getElem?_eq_getElem (show p + j < text.size by omega)
  have hne : text[p + j] ≠ '}' := by
    intro heq
    apply hbrace
    rw [← h, ← heq]
    exact mem_slice (by omega) (by omega) hplace
  have hcode : text[p + j].toNat ≠ '}'.toNat := fun heq => hne (Char.toNat_inj.mp heq)
  rw [CharTest.passesAt, hplace]
  simpa [CharTest.holds, Folding.same, Folding.cased] using hcode

/-- Where a placeholder without a name begins and ends, the shape takes something. -/
theorem exists_nameless_takes (hp : p ≤ text.size)
    (h : opensNameless (slice text p text.size) = true)
    (hbrace : '}' ∈ slice text (p + 1) text.size) : ∃ q, nameless.Takes text p q := by
  have hend := Nat.le_refl text.size
  obtain ⟨optional, c, rest, hc, hslice⟩ := exists_of_opensNameless h
  obtain ⟨a, hpa, ha, hopen, hslice⟩ := slice_eq_append (a := ['{']) hp hend hslice
  obtain ⟨rfl, hopens⟩ := eq_succ_of_slice hpa ha hopen
  have hinside := hslice
  obtain ⟨m, ham, hm, hmark, hslice⟩ := slice_eq_append ha hend hslice
  obtain ⟨b, hmb, hb, hnext, hrest⟩ := slice_eq_append (a := [c]) hm hend hslice
  obtain ⟨rfl, hnexts⟩ := eq_succ_of_slice hmb hb hnext
  have hmarks := markTerm_takes_of_slice ham hm hmark
  simp only [nameless_eq, Part.takes_termOf]
  rcases hc with rfl | rfl
  · -- behind a colon all is taken up to the next closing brace
    have hmem : '}' ∈ rest := by
      rw [hinside] at hbrace
      cases optional <;> simpa using hbrace
    obtain ⟨others, behind, rfl, hothers⟩ := List.eq_append_cons_of_mem hmem
    obtain ⟨n, hbn, hn, hsame, hslice⟩ := slice_eq_append hb hend hrest
    obtain ⟨stop, hns, hs, hclose, -⟩ := slice_eq_append (a := ['}']) hn hend hslice
    obtain ⟨rfl, hcloses⟩ := eq_succ_of_slice hns hs hclose
    have hgiven : (Regex.seq (literal ':')
        (.loop .greedy 0 none (.one (.literal .exact true '}'.toNat)))).Takes text m n :=
      ⟨m + 1, literal_takes.mpr ⟨hnexts, rfl⟩, takes_others hbn hn hsame hothers⟩
    exact ⟨n + 1, p + 1, literal_takes.mpr ⟨hopens, rfl⟩, m, hmarks, n,
      Part.takes_optional.mpr (.inr hgiven), n + 1, literal_takes.mpr ⟨hcloses, rfl⟩, rfl⟩
  · exact ⟨m + 1, p + 1, literal_takes.mpr ⟨hopens, rfl⟩, m, hmarks, m,
      Part.takes_optional.mpr (.inl rfl), m + 1, literal_takes.mpr ⟨hnexts, rfl⟩, rfl⟩

/-! ## In a text -/

theorem isSome_matchAt_nameless (hp : p ≤ text.size) : (nameless.matchAt text p).isSome =
    (opensNameless (slice text p text.size) && (slice text (p + 1) text.size).contains '}') := by
  rw [Bool.eq_iff_iff, Option.isSome_iff_exists,
    Regex.exists_matchAt_iff ordinary_nameless numbered_nameless hp, Bool.and_eq_true_iff,
    List.contains_iff_mem]
  constructor
  · rintro ⟨q, htakes⟩
    exact of_nameless_takes htakes
  · rintro ⟨hopens, hbrace⟩
    exact exists_nameless_takes hp hopens hbrace

theorem isEmpty_findFrom_nameless {fuel : Nat} (hp : p ≤ text.size) (hfuel : text.size < p + fuel) :
    (nameless.findFrom text fuel p).isEmpty = !hasNameless (slice text p text.size) := by
  induction fuel generalizing p with
  | zero => omega
  | succ fuel ih =>
    have hfound := isSome_matchAt_nameless hp
    rw [Regex.findFrom, if_neg (Nat.not_lt.mpr hp)]
    rcases Nat.lt_or_eq_of_le hp with hlt | rfl
    · have hcons := slice_cons (Array.getElem?_eq_getElem hlt) hlt
      rw [hcons, hasNameless, ← hcons, ← hfound]
      cases nameless.matchAt text p with
      | none => exact ih hlt (by omega)
      | some found => rfl
    · rw [slice_self] at hfound ⊢
      have hnone : nameless.matchAt text text.size = none :=
        Option.not_isSome_iff_eq_none.mp (Bool.eq_false_iff.mp hfound)
      rw [hnone, Regex.findFrom_of_lt (Nat.lt_succ_self _)]
      rfl

/-- The shape of a placeholder without a name is found in a text if one is in it. -/
theorem occursIn_nameless (pattern : List Char) :
    nameless.occursIn pattern.toArray = hasNameless pattern := by
  have hwhole : slice pattern.toArray 0 pattern.toArray.size = pattern := by simp [slice]
  rw [Regex.occursIn, Regex.findAll, isEmpty_findFrom_nameless (Nat.zero_le _) (by omega), hwhole,
    Bool.not_not]

/-! ## In written text -/

theorem opensNameless_of_ne {c : Char} (h : c ≠ '{') (rest : List Char) :
    opensNameless (c :: rest) = false := by
  unfold opensNameless
  split
  · next heq =>
    cases heq
    exact absurd rfl h
  · rfl

theorem hasNameless_of_ne {c : Char} (h : c ≠ '{') (rest : List Char) :
    hasNameless (c :: rest) = hasNameless rest := by
  rw [hasNameless, opensNameless_of_ne h, Bool.false_and, Bool.false_or]

/-- Text without an opening brace does not matter. -/
theorem hasNameless_append {front : List Char} (h : '{' ∉ front) (rest : List Char) :
    hasNameless (front ++ rest) = hasNameless rest := by
  induction front with
  | nil => rfl
  | cons c front ih =>
    rw [List.mem_cons, not_or] at h
    rw [List.cons_append, hasNameless_of_ne (Ne.symm h.1), ih h.2]

/-- Where a placeholder has a name, none begins without a name. -/
theorem opensNameless_name {name : List Char} (hname : IsName name) (optional : Bool)
    (rest : List Char) :
    opensNameless ('{' :: ((if optional then ['?'] else []) ++ (name ++ rest))) = false := by
  rw [opensNameless, splitMark_append (head?_ne_question hname)]
  obtain ⟨c, name, rfl⟩ := List.exists_cons_of_ne_nil hname.nonempty
  have hword : Text.isWord c.toNat = true := hname.word c List.mem_cons_self
  have hcolon : c ≠ ':' := by
    rintro rfl
    exact absurd hword (by decide)
  have hbrace : c ≠ '}' := by
    rintro rfl
    exact absurd hword (by decide)
  simp [hcolon, hbrace]

theorem hasNameless_of_not_mem {text : List Char} (h : '{' ∉ text) : hasNameless text = false := by
  have htext := hasNameless_append h []
  rw [List.append_nil] at htext
  exact htext

theorem not_mem_name {name : List Char} (hname : IsName name) : '{' ∉ name := fun hmem =>
  absurd (hname.word _ hmem) (by decide)

/-- Whether a placeholder without a name begins in a fragment is seen inside of the fragment, since
its last character is a parenthesis. -/
theorem opensNameless_fragment {fragment : List Char} (h : fragment.getLast? = some ')')
    (behind : List Char) : opensNameless (fragment ++ behind) = opensNameless fragment := by
  cases fragment with
  | nil => cases h
  | cons c rest =>
    by_cases hopen : c = '{'
    · subst hopen
      cases rest with
      | nil => cases h
      | cons d more =>
        by_cases hquestion : d = '?'
        · subst hquestion
          cases more with
          | nil => cases h
          | cons e others => rfl
        · have hmark : ∀ others, splitMark (d :: others) = (false, d :: others) := fun others =>
            splitMark_of_ne (by simpa using hquestion)
          simp only [opensNameless, List.cons_append, hmark, List.head?_cons]
    · rw [List.cons_append, opensNameless_of_ne hopen, opensNameless_of_ne hopen]

/-- A placeholder without a name that begins in a fragment ends at the latest behind it. -/
theorem hasNameless_fragment {fragment : List Char} (h : fragment.getLast? = some ')')
    (behind : List Char) : hasNameless (fragment ++ '}' :: behind) =
      (hidesNameless fragment || hasNameless behind) := by
  induction fragment with
  | nil => cases h
  | cons c rest ih =>
    have hopens : opensNameless (c :: (rest ++ '}' :: behind)) = opensNameless (c :: rest) :=
      opensNameless_fragment h ('}' :: behind)
    have hbrace : (rest ++ '}' :: behind).contains '}' = true := by simp
    rw [List.cons_append, hasNameless, hidesNameless, hopens, hbrace, Bool.and_true]
    cases rest with
    | nil =>
      obtain rfl := Option.some.inj h
      rfl
    | cons d rest =>
      rw [List.getLast?_cons_cons] at h
      rw [ih h, Bool.or_assoc]

/-- In a placeholder with a name, one without a name can only begin inside of the fragment. -/
theorem hasNameless_written {source : Source} (hname : IsName source.name)
    (hlast : ∀ fragment ∈ source.fragment, fragment.getLast? = some ')') (behind : List Char) :
    hasNameless (source.written ++ behind) =
      (source.fragment.any hidesNameless || hasNameless behind) := by
  have hopens := opensNameless_name hname source.optional (source.given ++ '}' :: behind)
  have hfront : '{' ∉ source.mark ++ source.name := by
    intro hmem
    rcases List.mem_append.mp hmem with hmem | hmem
    · unfold Source.mark at hmem
      split at hmem <;> simp at hmem
    · exact not_mem_name hname hmem
  have hwritten : source.written ++ behind =
      '{' :: ((source.mark ++ source.name) ++ (source.given ++ '}' :: behind)) := by
    simp [Source.written]
  rw [← List.append_assoc] at hopens
  rw [hwritten, hasNameless, Source.mark, hopens, Bool.false_and, Bool.false_or, ← Source.mark,
    hasNameless_append hfront]
  have hbrace : hasNameless ('}' :: behind) = hasNameless behind :=
    hasNameless_of_ne (by decide) behind
  unfold Source.given
  cases hfragment : source.fragment with
  | none => exact hbrace
  | some fragment =>
    have hcolon : hasNameless ((':' :: fragment) ++ '}' :: behind) =
        hasNameless (fragment ++ '}' :: behind) :=
      hasNameless_of_ne (by decide) _
    exact hcolon.trans (hasNameless_fragment (hlast fragment hfragment) behind)

end Placeholder

end RequestRouter
