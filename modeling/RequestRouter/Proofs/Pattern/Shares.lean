import RequestRouter.Pattern.Extract

/-!
# Handing out values by content

The pool of values is made of the shares of the parameters: what the own group of each one took, and
what the groups inside of it took. As long as no parameter without a text of its own claims
anything, the shares of the parameters still to come stand untouched at the end of the pool, so each
parameter whose own group took part finds something that it accepts (`Share.handOut_serves`). Where
the values are those of the first parameters, in order, each gets its own (`handOut_zip`).
-/

namespace RequestRouter

/-! ## Claims -/

/-- A claim passes the values that are rejected and ends at the first one that is not. -/
theorem claim_cases (accepts : List Char → Except MatchFault Bool) (pool : List (List Char)) :
    ((∀ value ∈ pool, accepts value = .ok false) ∧ claim accepts pool = .ok none) ∨
    ∃ before value after, pool = before ++ value :: after ∧
      (∀ other ∈ before, accepts other = .ok false) ∧
      ((accepts value = .ok true ∧ claim accepts pool = .ok (some (value, before ++ after))) ∨
        ∃ fault, accepts value = .error fault ∧ claim accepts pool = .error fault) := by
  induction pool with
  | nil => exact .inl ⟨by simp, rfl⟩
  | cons value rest ih =>
    rw [claim]
    cases hanswer : accepts value with
    | error fault => exact .inr ⟨[], value, rest, rfl, by simp, .inr ⟨fault, hanswer, rfl⟩⟩
    | ok answer =>
      cases answer with
      | true => exact .inr ⟨[], value, rest, rfl, by simp, .inl ⟨hanswer, rfl⟩⟩
      | false =>
        rcases ih with ⟨hrejected, hclaim⟩ | ⟨before, other, after, rfl, hrejected, hclaim⟩
        · exact .inl ⟨List.forall_mem_cons.mpr ⟨hanswer, hrejected⟩, by rw [hclaim]; rfl⟩
        · refine .inr ⟨value :: before, other, after, rfl,
            List.forall_mem_cons.mpr ⟨hanswer, hrejected⟩, ?_⟩
          rcases hclaim with ⟨haccepted, hclaim⟩ | ⟨fault, hfault, hclaim⟩
          · exact .inl ⟨haccepted, by rw [hclaim]; rfl⟩
          · exact .inr ⟨fault, hfault, by rw [hclaim]; rfl⟩

section Claims

variable {accepts : List Char → Except MatchFault Bool}
  (htotal : ∀ value, ∃ answer, accepts value = .ok answer)

include htotal

theorem exists_claim (pool : List (List Char)) : ∃ found, claim accepts pool = .ok found := by
  rcases claim_cases accepts pool with
    ⟨-, hclaim⟩ | ⟨_, value, _, -, -, ⟨-, hclaim⟩ | ⟨fault, hfault, -⟩⟩
  · exact ⟨_, hclaim⟩
  · exact ⟨_, hclaim⟩
  · obtain ⟨answer, hanswer⟩ := htotal value
    rw [hfault] at hanswer
    cases hanswer

/-- If a value is accepted something is claimed, and the values behind it are left as they are. -/
theorem claim_of_accepted {own : List Char} (hown : accepts own = .ok true)
    (leftovers later : List (List Char)) :
    ∃ claimed others, claim accepts (leftovers ++ own :: later) =
      .ok (some (claimed, others ++ later)) := by
  induction leftovers with
  | nil =>
    refine ⟨own, [], ?_⟩
    rw [List.nil_append, claim, hown]
    rfl
  | cons value rest ih =>
    obtain ⟨answer, hanswer⟩ := htotal value
    rw [List.cons_append, claim, hanswer]
    cases answer with
    | true => exact ⟨value, rest ++ [own], by simp [bind, Except.bind, pure, Except.pure]⟩
    | false =>
      obtain ⟨claimed, others, hclaim⟩ := ih
      refine ⟨claimed, value :: others, ?_⟩
      rw [hclaim]
      rfl

end Claims

theorem claim_head {accepts : List Char → Except MatchFault Bool} {value : List Char}
    (h : accepts value = .ok true) (rest : List (List Char)) :
    claim accepts (value :: rest) = .ok (some (value, rest)) := by
  rw [claim, h]
  rfl

/-! ## Shares -/

namespace Entries

variable {κ α : Type} [BEq κ] [LawfulBEq κ]

theorem isSome_get?_put {entries : Entries κ α} {key : κ} (other : κ) (value : α)
    (h : (entries.get? key).isSome = true) :
    ((entries.put other value).get? key).isSome = true := by
  by_cases heq : other = key
  · rw [heq, get?_put_self]
    rfl
  · rw [get?_put_of_ne entries value heq]
    exact h

end Entries

/-- A parameter with the text that its own group took, if it took part, and the texts that the
groups inside of it took. -/
structure Share where
  parameter : Parameter
  own : Option (List Char)
  nested : List (List Char)

namespace Share

/-- What a share brings into the pool. -/
def values (s : Share) : List (List Char) := s.own.toList ++ s.nested

/-- The parameter accepts what its own group took, and it has an answer for every value. -/
structure Fits (s : Share) : Prop where
  answers : ∀ value, ∃ answer, s.parameter.accepts value = .ok answer
  own : ∀ value, s.own = some value → s.parameter.accepts value = .ok true

theorem exists_handOut {shares : List Share} (h : ∀ s ∈ shares, s.Fits) (pool : List (List Char))
    (entries : Entries (List Char) (List Char)) :
    ∃ result, handOut (shares.map parameter) pool entries = .ok result ∧
      ∀ key, (entries.get? key).isSome = true → (result.get? key).isSome = true := by
  induction shares generalizing pool entries with
  | nil => exact ⟨entries, rfl, fun _ h => h⟩
  | cons s rest ih =>
    have hrest := fun s hs => h s (List.mem_cons_of_mem _ hs)
    obtain ⟨found, hfound⟩ := exists_claim (h s List.mem_cons_self).answers pool
    simp only [List.map_cons, handOut, hfound]
    cases found with
    | none => exact ih hrest pool entries
    | some found =>
      obtain ⟨result, hresult, hkept⟩ := ih hrest found.2 (entries.put s.parameter.name found.1)
      exact ⟨result, hresult, fun key hkey => hkept key (Entries.isSome_get?_put _ _ hkey)⟩

/-- The parameter of a share has a value. -/
def Bound (result : Entries (List Char) (List Char)) (s : Share) : Prop :=
  (result.get? s.parameter.name).isSome = true

/-- Up to the first parameter that has a value without a text of its own, each one whose own group
took part has a value. -/
def Served (result : Entries (List Char) (List Char)) : List Share → Prop
  | [] => True
  | s :: rest => s.own = none ∧ s.Bound result ∨ (s.own.isSome = true → s.Bound result) ∧
      Served result rest

/-- A parameter whose own group took part has a value, unless one before it has one without a text
of its own. -/
theorem Served.bound {result : Entries (List Char) (List Char)} {before after : List Share}
    {s : Share} (h : Served result (before ++ s :: after)) (hown : s.own.isSome = true) :
    s.Bound result ∨ ∃ t ∈ before, t.own = none ∧ t.Bound result := by
  induction before with
  | nil =>
    rcases h with ⟨hnone, -⟩ | ⟨hbound, -⟩
    · rw [hnone] at hown
      cases hown
    · exact .inl (hbound hown)
  | cons t before ih =>
    rcases h with ht | ⟨-, hrest⟩
    · exact .inr ⟨t, List.mem_cons_self, ht⟩
    · exact (ih hrest).imp_right fun ⟨u, hu, hbound⟩ => ⟨u, List.mem_cons_of_mem _ hu, hbound⟩

/-- Handing out the shares, with anything in front of them in the pool, serves them. -/
theorem handOut_serves {shares : List Share} (h : ∀ s ∈ shares, s.Fits)
    (leftovers : List (List Char)) (entries : Entries (List Char) (List Char)) :
    ∃ result, handOut (shares.map parameter) (leftovers ++ shares.flatMap values) entries =
      .ok result ∧
      (∀ key, (entries.get? key).isSome = true → (result.get? key).isSome = true) ∧
      Served result shares := by
  induction shares generalizing leftovers entries with
  | nil => exact ⟨entries, rfl, fun _ h => h, trivial⟩
  | cons s rest ih =>
    have hrest := fun s hs => h s (List.mem_cons_of_mem _ hs)
    have hfits := h s List.mem_cons_self
    have hput : ∀ {result : Entries (List Char) (List Char)} (value : List Char),
        (∀ key, ((entries.put s.parameter.name value).get? key).isSome = true →
          (result.get? key).isSome = true) →
        (∀ key, (entries.get? key).isSome = true → (result.get? key).isSome = true) ∧
          s.Bound result := by
      intro result value hkept
      refine ⟨fun key hkey => hkept key (Entries.isSome_get?_put _ _ hkey), hkept _ ?_⟩
      rw [Entries.get?_put_self]
      rfl
    cases hown : s.own with
    | some own =>
      -- something is claimed, and what later parameters need is still there
      have hpool : leftovers ++ (s :: rest).flatMap values =
          leftovers ++ own :: (s.nested ++ rest.flatMap values) := by
        simp [values, hown]
      obtain ⟨claimed, others, hclaim⟩ := claim_of_accepted hfits.answers (hfits.own own hown)
        leftovers (s.nested ++ rest.flatMap values)
      obtain ⟨result, hresult, hkept, hserved⟩ := ih hrest (others ++ s.nested)
        (entries.put s.parameter.name claimed)
      obtain ⟨hkept, hbound⟩ := hput claimed hkept
      rw [List.append_assoc] at hresult
      refine ⟨result, ?_, hkept, .inr ⟨fun _ => hbound, hserved⟩⟩
      rw [hpool, List.map_cons, handOut, hclaim]
      exact hresult
    | none =>
      obtain ⟨found, hfound⟩ := exists_claim hfits.answers (leftovers ++ (s :: rest).flatMap values)
      rw [List.map_cons, handOut, hfound]
      cases found with
      | none =>
        have hpool : leftovers ++ (s :: rest).flatMap values =
            leftovers ++ s.nested ++ rest.flatMap values := by
          simp [values, hown]
        obtain ⟨result, hresult, hkept, hserved⟩ := ih hrest (leftovers ++ s.nested) entries
        rw [← hpool] at hresult
        refine ⟨result, hresult, hkept, .inr ⟨fun h => ?_, hserved⟩⟩
        rw [hown] at h
        cases h
      | some found =>
        obtain ⟨result, hresult, hkept⟩ := exists_handOut hrest found.2
          (entries.put s.parameter.name found.1)
        obtain ⟨hkept, hbound⟩ := hput found.1 hkept
        exact ⟨result, hresult, hkept, .inl ⟨hown, hbound⟩⟩

end Share

/-- Values of the first parameters in order are handed out to just these. -/
theorem handOut_zip {parameters : List Parameter} {values : List (List Char)}
    {entries : Entries (List Char) (List Char)}
    (haccepts : ∀ pair ∈ parameters.zip values, pair.1.accepts pair.2 = .ok true)
    (hlength : values.length ≤ parameters.length) (hnames : (parameters.map Parameter.name).Nodup)
    (hfresh : ∀ p ∈ parameters, p.name ∉ entries.keys) :
    handOut parameters values entries =
      .ok (entries ++ (parameters.map Parameter.name).zip values) := by
  induction parameters generalizing values entries with
  | nil =>
    rw [handOut, List.map_nil, List.zip_nil_left, List.append_nil]
  | cons p rest ih =>
    rw [List.map_cons, List.nodup_cons] at hnames
    have hfresh' := fun q hq => hfresh q (List.mem_cons_of_mem _ hq)
    cases values with
    | nil =>
      have hnone : ∀ pair ∈ rest.zip ([] : List (List Char)),
          pair.1.accepts pair.2 = .ok true := by
        simp
      have hrest := ih hnone (Nat.zero_le _) hnames.2 hfresh'
      simp only [List.zip_nil_right] at hrest ⊢
      exact hrest
    | cons value values =>
      have hput := Entries.put_of_not_mem (hfresh p List.mem_cons_self) value
      have hfresh'' : ∀ q ∈ rest, q.name ∉ (entries.put p.name value).keys := by
        intro q hq
        rw [hput, Entries.keys, List.map_append, List.mem_append, not_or]
        refine ⟨hfresh' q hq, fun hmem => hnames.1 ?_⟩
        have hname : q.name = p.name := List.mem_singleton.mp hmem
        exact List.mem_map.mpr ⟨q, hq, hname⟩
      have hrest := ih (fun pair hpair => haccepts pair (List.mem_cons_of_mem _ hpair))
        (Nat.le_of_succ_le_succ hlength) hnames.2 hfresh''
      rw [handOut, claim_head (haccepts (p, value) List.mem_cons_self)]
      refine hrest.trans ?_
      rw [hput, List.append_assoc]
      rfl

end RequestRouter
