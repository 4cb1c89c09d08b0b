import Mathlib.Data.List.Induction
import Mathlib.Data.List.Nodup
import RequestRouter.Proofs.Pattern.Faults

/-!
# The hand-out is fair

Equal texts of different groups are different things to hand out, so the loop over the parameters is
followed on captures, which have the numbers of their groups. What it keeps true is said in terms of
the claims made so far: the pool is the captures that none of them took, in the order of their
numbers (`Claim.left`), the entries are those of the claims (`Claim.entries`), and each claim was
fair when it was made (`Claim.Fair`).
-/

namespace RequestRouter

/-- A group that took part in a match: its number and the text that it took. -/
structure Capture where
  number : Nat
  text : List Char
  deriving DecidableEq, Repr

namespace Capture

/-- The groups that took part, in the order of their numbers. -/
def participating (groups : List (Option (List Char))) : List Capture :=
  (groups.zipIdx 1).filterMap fun (text, number) => text.map (Capture.mk number)

variable {groups : List (Option (List Char))}

theorem map_text_participating (groups : List (Option (List Char))) :
    (participating groups).map text = groups.filterMap id := by
  have hfrom : ∀ first, ((groups.zipIdx first).filterMap fun (text, number) =>
      text.map (Capture.mk number)).map text = groups.filterMap id := by
    induction groups with
    | nil => intro first; rfl
    | cons group rest ih =>
      intro first
      rw [List.zipIdx_cons, List.filterMap_cons, List.filterMap_cons]
      cases group with
      | none => exact ih (first + 1)
      | some text => exact congrArg (text :: ·) (ih (first + 1))
  exact hfrom 1

theorem participating_pairwise (groups : List (Option (List Char))) :
    (participating groups).Pairwise fun c d => c.number < d.number := by
  have hpositions : (groups.zipIdx 1).Pairwise fun p q => p.2 < q.2 := by
    rw [← List.pairwise_map (f := Prod.snd), List.zipIdx_map_snd]
    exact List.pairwise_lt_range'
  refine hpositions.filterMap _ ?_
  rintro p q hlt c hc d hd
  obtain ⟨text, -, rfl⟩ := Option.map_eq_some_iff.mp hc
  obtain ⟨other, -, rfl⟩ := Option.map_eq_some_iff.mp hd
  exact hlt

end Capture

/-- A parameter with the capture that it took, if any. -/
structure Claim where
  parameter : Parameter
  capture : Option Capture

namespace Claim

/-- The captures that were taken. -/
def taken (claims : List Claim) : List Capture := claims.filterMap capture

/-- The captures that were not taken. -/
def left (captures : List Capture) (claims : List Claim) : List Capture :=
  captures.filter (· ∉ taken claims)

/-- The capture that was taken last under a name. -/
def latest (claims : List Claim) (name : List Char) : Option Capture :=
  (taken (claims.filter (·.parameter.name == name))).getLast?

/-- What the claims write, in their order. -/
def entries (claims : List Claim) : Entries (List Char) (List Char) :=
  Entries.ofPairs (claims.filterMap fun claim =>
    claim.capture.map fun c => (claim.parameter.name, c.text))

/-- The parameter rejects what has lower numbers in the pool. -/
def Rejects (pool : List Capture) (p : Parameter) (number : Nat) : Prop :=
  ∀ c ∈ pool, c.number < number → p.accepts c.text = .ok false

/-- The parameter takes the capture with the least number among those in the pool that it accepts,
and none only if it rejects them all. -/
def Fair (pool : List Capture) (claim : Claim) : Prop :=
  match claim.capture with
  | some c => c ∈ pool ∧ claim.parameter.accepts c.text = .ok true ∧
      Rejects pool claim.parameter c.number
  | none => ∀ c ∈ pool, claim.parameter.accepts c.text = .ok false

/-- The parameter has no answer for a capture, having rejected those with lower numbers. -/
def Breaks (pool : List Capture) (p : Parameter) (fault : MatchFault) : Prop :=
  ∃ c ∈ pool, p.accepts c.text = .error fault ∧ Rejects pool p c.number

/-- Each claim is fair among the captures that those before it have left. -/
def Fairly (captures : List Capture) (claims : List Claim) : Prop :=
  ∀ before claim after, claims = before ++ claim :: after → claim.Fair (left captures before)

/-- Captures are handed out one by one: each to one parameter at most, to each parameter fairly
among those that are left at its turn, and none is lost. -/
structure HandOut (captures : List Capture) (claims : List Claim) : Prop where
  once : (taken claims).Nodup
  fair : Fairly captures claims
  conserved : (taken claims ++ left captures claims).Perm captures

variable {captures : List Capture} {claims : List Claim}

theorem taken_concat (claims : List Claim) (claim : Claim) :
    taken (claims ++ [claim]) = taken claims ++ claim.capture.toList := by
  rw [taken, List.filterMap_append]
  cases h : claim.capture <;> simp [taken, h]

theorem mem_left {c : Capture} : c ∈ left captures claims ↔ c ∈ captures ∧ c ∉ taken claims := by
  simp [left]

/-! ## Fair claims -/

/-- One more fair claim. -/
theorem Fairly.concat (hfair : Fairly captures claims) {claim : Claim}
    (hclaim : claim.Fair (left captures claims)) : Fairly captures (claims ++ [claim]) := by
  intro before other after hsplit
  rcases List.eq_nil_or_concat after with rfl | ⟨after, last, rfl⟩
  · obtain ⟨rfl, hlast⟩ := List.append_inj' hsplit rfl
    obtain rfl : claim = other := List.head_eq_of_cons_eq hlast
    exact hclaim
  · rw [List.concat_eq_append, ← List.cons_append, ← List.append_assoc] at hsplit
    exact hfair before other after (List.append_inj' hsplit rfl).1

/-- Fair claims take what is there, and nothing twice. -/
theorem Fairly.takes (hfair : Fairly captures claims) :
    (taken claims).Nodup ∧ ∀ c ∈ taken claims, c ∈ captures := by
  induction claims using List.reverseRecOn with
  | nil => exact ⟨List.nodup_nil, fun _ h => absurd h List.not_mem_nil⟩
  | append_singleton claims claim ih =>
    obtain ⟨hnodup, hsub⟩ := ih fun before other after hsplit =>
      hfair before other (after ++ [claim]) (by rw [hsplit, List.append_assoc]; rfl)
    have hlast := hfair claims claim [] rfl
    rw [taken_concat]
    cases hcapture : claim.capture with
    | none =>
      rw [Option.toList_none, List.append_nil]
      exact ⟨hnodup, hsub⟩
    | some c =>
      rw [Fair, hcapture] at hlast
      obtain ⟨hthere, hfree⟩ := mem_left.mp hlast.1
      constructor
      · exact List.concat_eq_append ▸ hnodup.concat hfree
      · intro other hother
        rcases List.mem_append.mp hother with hother | hother
        · exact hsub other hother
        · exact List.mem_singleton.mp hother ▸ hthere

/-! ## The entries -/

theorem entries_concat (claims : List Claim) (claim : Claim) :
    entries (claims ++ [claim]) = match claim.capture with
      | some c => (entries claims).put claim.parameter.name c.text
      | none => entries claims := by
  rw [entries, List.filterMap_append]
  cases h : claim.capture with
  | none => simp [entries, h]
  | some c => simp [entries, Entries.ofPairs, h]

theorem latest_concat (claims : List Claim) (claim : Claim) (name : List Char) :
    latest (claims ++ [claim]) name =
      if claim.parameter.name = name then claim.capture.or (latest claims name)
      else latest claims name := by
  rw [latest, List.filter_append]
  by_cases hname : claim.parameter.name = name
  · rw [List.filter_singleton, beq_iff_eq.mpr hname, if_pos hname]
    simp only [cond_true, taken_concat]
    cases claim.capture with
    | none => simp [latest]
    | some c => simp
  · rw [List.filter_singleton, beq_eq_false_iff_ne.mpr hname, if_neg hname]
    simp [latest]

/-- A name has the text that was claimed last under it. -/
theorem get?_entries (claims : List Claim) (name : List Char) :
    (entries claims).get? name = (latest claims name).map Capture.text := by
  induction claims using List.reverseRecOn with
  | nil => rfl
  | append_singleton claims claim ih =>
    rw [entries_concat, latest_concat]
    cases hcapture : claim.capture with
    | none => simp [ih]
    | some c =>
      by_cases hname : claim.parameter.name = name
      · rw [if_pos hname, hname]
        exact Entries.get?_put_self ..
      · rw [if_neg hname, ← ih]
        exact Entries.get?_put_of_ne _ _ hname

theorem nodup_keys_entries (claims : List Claim) : (entries claims).keys.Nodup := by
  induction claims using List.reverseRecOn with
  | nil => exact List.nodup_nil
  | append_singleton claims claim ih =>
    rw [entries_concat]
    cases claim.capture with
    | none => exact ih
    | some c => exact Entries.nodup_keys_put ih _ _

/-- An entry is what some parameter has taken. -/
theorem exists_of_mem_entries {entry : List Char × List Char} (h : entry ∈ entries claims) :
    ∃ claim ∈ claims, claim.parameter.name = entry.1 ∧
      ∃ c ∈ taken claims, c.text = entry.2 := by
  have hget := Entries.get?_of_mem (nodup_keys_entries claims) h
  rw [get?_entries] at hget
  obtain ⟨c, hlatest, htext⟩ := Option.map_eq_some_iff.mp hget
  obtain ⟨claim, hclaim, hcapture⟩ := List.mem_filterMap.mp (List.mem_of_getLast? hlatest)
  obtain ⟨hmem, hname⟩ := List.mem_filter.mp hclaim
  exact ⟨claim, hmem, eq_of_beq hname, c, List.mem_filterMap.mpr ⟨claim, hmem, hcapture⟩, htext⟩

/-! ## One claim -/

section Turns

variable (hnumbers : captures.Pairwise fun c d => c.number < d.number)

include hnumbers

theorem nodup_of_numbers : captures.Nodup :=
  hnumbers.imp (S := (· ≠ ·)) fun hlt heq => Nat.lt_irrefl _ (heq ▸ hlt)

/-- What stands before a capture is what has lower numbers. -/
theorem rejects_of_before {p : Parameter} {before after : List Capture} {c : Capture}
    (hpool : left captures claims = before ++ c :: after)
    (hrejected : ∀ other ∈ before, p.accepts other.text = .ok false) :
    Rejects (left captures claims) p c.number := by
  have hsorted : (left captures claims).Pairwise fun c d => c.number < d.number :=
    hnumbers.filter _
  rw [hpool, List.pairwise_append, List.pairwise_cons] at hsorted
  intro other hother hlt
  rw [hpool, List.mem_append, List.mem_cons] at hother
  rcases hother with hbefore | rfl | hafter
  · exact hrejected other hbefore
  · exact absurd hlt (Nat.lt_irrefl _)
  · exact absurd (hsorted.2.1.1 other hafter) (Nat.lt_asymm hlt)

theorem left_concat_some {p : Parameter} {before after : List Capture} {c : Capture}
    (hpool : left captures claims = before ++ c :: after) :
    left captures (claims ++ [⟨p, some c⟩]) = before ++ after := by
  have hnodup : (left captures claims).Nodup := (nodup_of_numbers hnumbers).filter _
  have hfilter : left captures (claims ++ [⟨p, some c⟩]) =
      (left captures claims).filter (· ≠ c) := by
    rw [left, left, List.filter_filter, taken_concat]
    refine List.filter_congr fun other _ => ?_
    simp [not_or, and_comm]
  rw [hpool, List.nodup_append, List.nodup_cons] at hnodup
  obtain ⟨-, ⟨hafter, -⟩, hbefore⟩ := hnodup
  rw [hfilter, hpool, List.filter_append, List.filter_cons_of_neg (by simp)]
  congr 1
  · exact List.filter_eq_self.mpr fun other hother =>
      decide_eq_true (hbefore other hother c List.mem_cons_self)
  · exact List.filter_eq_self.mpr fun other hother =>
      decide_eq_true fun heq => hafter (heq ▸ hother)

/-- The turn of one parameter, after any claims: it makes a fair one, or it breaks. -/
theorem handOut_step (claims : List Claim) (p : Parameter) :
    (∃ claim : Claim, claim.parameter = p ∧ claim.Fair (left captures claims) ∧
      ∀ rest, handOut (p :: rest) ((left captures claims).map Capture.text) (entries claims) =
        handOut rest ((left captures (claims ++ [claim])).map Capture.text)
          (entries (claims ++ [claim]))) ∨
    ∃ fault, Breaks (left captures claims) p fault ∧
      ∀ rest, handOut (p :: rest) ((left captures claims).map Capture.text) (entries claims) =
        .error fault := by
  rcases claim_cases p.accepts ((left captures claims).map Capture.text) with
    ⟨hrejected, hclaim⟩ | ⟨front, text, back, hpool, hrejected, hclaim⟩
  · rw [List.forall_mem_map] at hrejected
    refine .inl ⟨⟨p, none⟩, rfl, hrejected, fun rest => ?_⟩
    have hleft : left captures (claims ++ [⟨p, none⟩]) = left captures claims := by
      simp [left, taken_concat]
    rw [handOut, hclaim, hleft, entries_concat]
    rfl
  · obtain ⟨before, others, hsplit, rfl, hback⟩ := List.map_eq_append_iff.mp hpool
    obtain ⟨c, after, rfl, rfl, rfl⟩ := List.map_eq_cons_iff.mp hback
    have hmem : c ∈ left captures claims := by simp [hsplit]
    have hbefore := rejects_of_before hnumbers hsplit (List.forall_mem_map.mp hrejected)
    rcases hclaim with ⟨haccepted, hclaim⟩ | ⟨fault, hfault, hclaim⟩
    · refine .inl ⟨⟨p, some c⟩, rfl, ⟨hmem, haccepted, hbefore⟩, fun rest => ?_⟩
      rw [handOut, hclaim, left_concat_some hnumbers hsplit, entries_concat, List.map_append]
      rfl
    · refine .inr ⟨fault, ⟨c, hmem, hfault, hbefore⟩, fun rest => ?_⟩
      rw [handOut, hclaim]
      rfl

/-! ## All claims -/

theorem Fairly.handOut (hfair : Fairly captures claims) : HandOut captures claims := by
  have hcaptures := nodup_of_numbers hnumbers
  obtain ⟨hnodup, hsub⟩ := hfair.takes
  refine ⟨hnodup, hfair, (List.perm_ext_iff_of_nodup ?_ hcaptures).mpr fun c => ?_⟩
  · refine List.nodup_append.mpr ⟨hnodup, hcaptures.filter _, ?_⟩
    rintro c hc other hother rfl
    exact (mem_left.mp hother).2 hc
  · rw [List.mem_append, mem_left]
    by_cases hc : c ∈ taken claims
    · simp [hc, hsub c hc]
    · simp [hc]

/-- The turns of all parameters, after fair claims: they make fair ones up to the end, or up to one
that breaks. -/
theorem handOut_run (rest : List Parameter) (hfair : Fairly captures claims) :
    ∃ later, HandOut captures (claims ++ later) ∧
      (later.map parameter = rest ∧
        handOut rest ((left captures claims).map Capture.text) (entries claims) =
          .ok (entries (claims ++ later)) ∨
      ∃ p after fault, later.map parameter ++ p :: after = rest ∧
        Breaks (left captures (claims ++ later)) p fault ∧
        handOut rest ((left captures claims).map Capture.text) (entries claims) =
          .error fault) := by
  induction rest generalizing claims with
  | nil =>
    refine ⟨[], ?_, .inl ⟨rfl, ?_⟩⟩ <;> rw [List.append_nil]
    · exact hfair.handOut hnumbers
    · rfl
  | cons p rest ih =>
    rcases handOut_step hnumbers claims p with ⟨claim, rfl, hclaim, hstep⟩ | ⟨fault, hbreaks, hstep⟩
    · obtain ⟨later, hout, hend⟩ := ih (hfair.concat hclaim)
      rw [List.append_assoc, List.singleton_append] at hout hend
      refine ⟨claim :: later, hout, ?_⟩
      rw [hstep]
      rcases hend with ⟨rfl, hresult⟩ | ⟨q, after, fault, rfl, hbreaks, hresult⟩
      · exact .inl ⟨rfl, hresult⟩
      · exact .inr ⟨q, after, fault, rfl, hbreaks, hresult⟩
    · refine ⟨[], ?_, .inr ⟨p, rest, fault, rfl, ?_, hstep rest⟩⟩ <;> rw [List.append_nil]
      · exact hfair.handOut hnumbers
      · exact hbreaks

end Turns

end Claim

namespace CompiledPattern

variable {pattern fallback : List Char} {strict : Bool} {compiled : CompiledPattern}
  {path : List Char}

/-- What a group took is a piece of the path. -/
theorem isInfix_of_groups {groups : List (Option (List Char))}
    (h : compiled.groups path = .ok (some groups)) {text : List Char} (htext : some text ∈ groups) :
    text <:+: path := by
  obtain ⟨found, -, hfound⟩ := exists_of_map_ok h
  obtain ⟨marks, -, rfl⟩ := Option.map_eq_some_iff.mp hfound
  obtain ⟨number, -, hcapture⟩ := List.mem_map.mp htext
  obtain ⟨⟨first, last⟩, -, rfl⟩ := Option.map_eq_some_iff.mp hcapture
  simp only [slice, Array.toList_extract]
  exact (List.take_prefix ..).isInfix.trans (List.drop_suffix ..).isInfix

/-- Two parameters of one name, the first one a range with groups of its own. -/
def rangePattern : List Char := "/\x7ba:((\\d+)-(\\d+))\x7d/\x7ba:(\\d+)\x7d".toList

theorem exists_compile_range : ∃ compiled,
    compile rangePattern defaultFragment false = .ok compiled ∧
      (∀ p ∈ compiled.parameters, Readable p.fragment) ∧
      compiled.groups "/3-9/5".toList =
        .ok (some [some "3-9".toList, some "3".toList, some "9".toList, some "5".toList]) ∧
      compiled.extract "/3-9/5".toList = .ok [("a".toList, "3".toList)] := by
  refine ⟨_, rfl, ?_, Draft.toOption_eq_some.mp (by decide +kernel),
    Draft.toOption_eq_some.mp (by decide +kernel)⟩
  exact List.forall_mem_cons.mpr ⟨⟨_, rfl⟩, List.forall_mem_singleton.mpr ⟨_, rfl⟩⟩

/-- A path that does not match has no values. The captures of a path that matches are handed out to
the parameters in order of declaration, and the values are those of this hand-out: each is a piece
of the path under a name that is declared, and of several parameters of one name the last one that
claimed something counts. The only fault is that of crossed marks, in the match of the path or where
a parameter, after a fair hand-out to those before it, tries what is left; with orderly fragments
there is none. -/
theorem extract_fair (h : compile pattern fallback strict = .ok compiled)
    (hread : ∀ p ∈ compiled.parameters, Readable p.fragment) (path : List Char) :
    (∀ fault, compiled.groups path = .error fault →
      fault = .crossedMarks ∧ compiled.extract path = .error .crossedMarks) ∧
    (compiled.groups path = .ok none → compiled.extract path = .ok []) ∧
    (∀ groups, compiled.groups path = .ok (some groups) →
      ∃ claims, Claim.HandOut (Capture.participating groups) claims ∧
        ((claims.map Claim.parameter = compiled.parameters ∧
          ∃ values, compiled.extract path = .ok values ∧ values.keys.Nodup ∧
            (∀ name, values.get? name = (Claim.latest claims name).map Capture.text) ∧
            ∀ name value, (name, value) ∈ values →
              name ∈ compiled.parameters.map Parameter.name ∧ value <:+: path) ∨
        ∃ p after, claims.map Claim.parameter ++ p :: after = compiled.parameters ∧
          Claim.Breaks (Claim.left (Capture.participating groups) claims) p .crossedMarks ∧
          compiled.extract path = .error .crossedMarks)) ∧
    ((∀ p ∈ compiled.parameters, Orderly p.fragment) →
      ∃ values, compiled.extract path = .ok values) := by
  refine ⟨fun fault hgroups => ?_, fun hgroups => ?_, fun groups hgroups => ?_,
    fun horderly => exists_extract_of_orderly h hread horderly path⟩
  · have hextract : compiled.extract path = .error fault := by rw [extract, hgroups]; rfl
    obtain rfl := eq_crossedMarks_of_extract hread hextract
    exact ⟨rfl, hextract⟩
  · rw [extract, hgroups]
    rfl
  · have hextract : compiled.extract path =
        handOut compiled.parameters ((Capture.participating groups).map Capture.text) [] := by
      rw [extract, hgroups, Capture.map_text_participating]
      rfl
    have hnothing : Claim.Fairly (Capture.participating groups) [] :=
      fun before claim after hsplit => by simp at hsplit
    obtain ⟨claims, hout, hend⟩ := Claim.handOut_run (Capture.participating_pairwise groups)
      compiled.parameters hnothing
    have hleft : Claim.left (Capture.participating groups) [] = Capture.participating groups := by
      simp [Claim.left, Claim.taken]
    rw [hleft, List.nil_append] at hend
    refine ⟨claims, hout, ?_⟩
    rcases hend with ⟨hall, hresult⟩ | ⟨p, after, fault, hsplit, hbreaks, hresult⟩
    · refine .inl ⟨hall, Claim.entries claims, hextract.trans hresult,
        Claim.nodup_keys_entries claims, Claim.get?_entries claims, ?_⟩
      intro name value hentry
      obtain ⟨claim, hclaim, rfl, c, hc, rfl⟩ := Claim.exists_of_mem_entries hentry
      refine ⟨hall ▸ List.mem_map_of_mem (List.mem_map_of_mem hclaim), ?_⟩
      have hthere := hout.conserved.mem_iff.mp (List.mem_append_left _ hc)
      have htext := List.mem_map_of_mem (f := Capture.text) hthere
      rw [Capture.map_text_participating] at htext
      obtain ⟨_, hgroup, rfl⟩ := List.mem_filterMap.mp htext
      exact isInfix_of_groups hgroups hgroup
    · obtain rfl := eq_crossedMarks_of_extract hread (hextract.trans hresult)
      exact .inr ⟨p, after, hsplit, hbreaks, hextract.trans hresult⟩

/-- The parameter behind the range takes the first number of the range, and its claim is the one
that counts under the name that both have. -/
theorem extract_fair_range : ∃ compiled claims,
    compile rangePattern defaultFragment false = .ok compiled ∧
      (∀ p ∈ compiled.parameters, Readable p.fragment) ∧
      compiled.extract "/3-9/5".toList = .ok [("a".toList, "3".toList)] ∧
      claims.map Claim.parameter = compiled.parameters ∧
      Claim.HandOut
        [⟨1, "3-9".toList⟩, ⟨2, "3".toList⟩, ⟨3, "9".toList⟩, ⟨4, "5".toList⟩] claims ∧
      (Claim.latest claims "a".toList).map Capture.text = some "3".toList := by
  obtain ⟨compiled, hcompile, hread, hgroups, hextract⟩ := exists_compile_range
  obtain ⟨-, -, hmatch, -⟩ := extract_fair hcompile hread "/3-9/5".toList
  obtain ⟨claims, hout, ⟨hall, values, hvalues, -, hget, -⟩ | ⟨-, -, -, -, herror⟩⟩ :=
    hmatch _ hgroups
  · obtain rfl := Except.ok.inj (hextract.symm.trans hvalues)
    exact ⟨compiled, claims, hcompile, hread, hextract, hall, hout, (hget _).symm⟩
  · rw [hextract] at herror
    cases herror

/-- A path that the expression would match and that has no values, the marks being crossed. -/
theorem not_extract_fair : ∃ compiled,
    compile "/{x:((?:(a)|b)*+)}".toList defaultFragment true = .ok compiled ∧
      (∀ p ∈ compiled.parameters, Readable p.fragment) ∧
      ∀ values, compiled.extract "/abb".toList ≠ .ok values := by
  obtain ⟨compiled, hcompile, hmatch⟩ := exists_compile_crossed
  refine ⟨compiled, hcompile, readable_of_compile hcompile rfl, fun values hvalues => ?_⟩
  rw [extract, groups, hmatch] at hvalues
  cases hvalues

end CompiledPattern

end RequestRouter
