import Mathlib.Data.List.Nodup
import RequestRouter.Hint.Formed
import RequestRouter.Proofs.Reading.Seam
import RequestRouter.Sample.Catalogue

/-!
# What unions choose from

A union is known by what it leaves to choose from (`TypeHint.Choice`): its members, once all unions
inside of it are dissolved, other than nothing. The kind of any type hint is the kind of its only
choice, if it has just one, which must then be a class (`classify_eq_named_iff`). So the spelling of
a union, the order and the grouping of its members, repetitions and members that stand for nothing
do not matter, whatever equality the members other than classes are told apart by
(`classify_choices`).
-/

namespace RequestRouter

namespace TypeHint

/-! ## Equal type hints -/

section Same

variable {κ : Type}

mutual

/-- Type hints that are written alike are equal. -/
theorem same_iff [BEq κ] [LawfulBEq κ] : (a b : TypeHint κ) → (same a b = true ↔ a = b)
  | .type c, b => by cases b <;> simp [same]
  | .none, b => by cases b <;> simp [same]
  | .union as, b => by cases b <;> simp [same, sameAll_iff as]
  | .bars as, b => by cases b <;> simp [same, sameAll_iff as]
  | .generic f as, b => by cases b <;> simp [same, sameAll_iff as]
  | .annotated a, b => by cases b <;> simp [same, same_iff a]
  | .text s, b => by cases b <;> simp [same]
  | .special f, b => by cases b <;> simp [same]

theorem sameAll_iff [BEq κ] [LawfulBEq κ] :
    (as bs : List (TypeHint κ)) → (sameAll as bs = true ↔ as = bs)
  | [], bs => by cases bs <;> simp [sameAll]
  | a :: as, bs => by cases bs <;> simp [sameAll, same_iff a, sameAll_iff as]

end

variable [BEq κ] [LawfulBEq κ]

theorem mem_distinct {as : List (TypeHint κ)} {m : TypeHint κ} : m ∈ distinct as ↔ m ∈ as := by
  induction as with
  | nil => exact Iff.rfl
  | cons a rest ih =>
    rw [distinct, List.mem_cons, List.mem_filter, ih, List.mem_cons, Bool.not_eq_true',
      ← Bool.not_eq_true, same_iff]
    constructor
    · rintro (rfl | ⟨hmem, -⟩)
      · exact .inl rfl
      · exact .inr hmem
    · intro h
      by_cases heq : a = m
      · exact .inl heq.symm
      · exact .inr ⟨h.resolve_left (Ne.symm heq), heq⟩

theorem nodup_distinct (as : List (TypeHint κ)) : (distinct as).Nodup := by
  induction as with
  | nil => exact List.nodup_nil
  | cons a rest ih =>
    rw [distinct, List.nodup_cons]
    refine ⟨fun hmem => ?_, ih.filter _⟩
    have hsame := (List.mem_filter.mp hmem).2
    rw [(same_iff a a).mpr rfl] at hsame
    cases hsame

end Same

/-! ## Members -/

section Members

variable {κ : Type}

/-- The type hint is a union, in one of the two spellings. -/
def isUnion : TypeHint κ → Bool
  | .union _ | .bars _ => true
  | _ => false

/-- The members of a type hint: of a union, those of all that it joins; of another type hint,
itself. -/
inductive Member : TypeHint κ → TypeHint κ → Prop
  | self {a} : a.isUnion = false → Member a a
  | union {as a m} : a ∈ as → Member a m → Member (.union as) m
  | bars {as a m} : a ∈ as → Member a m → Member (.bars as) m

/-- What a type hint leaves to choose from: its members other than nothing. -/
def Choice (a m : TypeHint κ) : Prop := a.Member m ∧ m ≠ .none

variable {a m : TypeHint κ} {as : List (TypeHint κ)}

theorem member_union : (TypeHint.union as).Member m ↔ ∃ a ∈ as, a.Member m := by
  constructor
  · rintro (h | ⟨ha, hm⟩)
    · cases h
    · exact ⟨_, ha, hm⟩
  · rintro ⟨a, ha, hm⟩
    exact .union ha hm

theorem member_bars : (TypeHint.bars as).Member m ↔ ∃ a ∈ as, a.Member m := by
  constructor
  · rintro (h | _ | ⟨ha, hm⟩)
    · cases h
    · exact ⟨_, ha, hm⟩
  · rintro ⟨a, ha, hm⟩
    exact .bars ha hm

theorem member_self (h : a.isUnion = false) : a.Member m ↔ m = a := by
  constructor
  · intro hm
    cases hm with
    | self => rfl
    | union | bars => cases h
  · rintro rfl
    exact .self h

/-- No union is left among the members. -/
theorem Member.isUnion_eq (h : a.Member m) : m.isUnion = false := by
  induction h with
  | self h => exact h
  | union _ _ ih | bars _ _ ih => exact ih

mutual

/-- The members are those that are found by dissolving unions. -/
theorem mem_members : (a : TypeHint κ) → (m ∈ members a ↔ a.Member m)
  | .union as => by rw [members, member_union, mem_membersAll as]
  | .bars as => by rw [members, member_bars, mem_membersAll as]
  | .type _ | .none | .generic .. | .annotated _ | .text _ | .special _ => by
    rw [member_self rfl]
    exact List.mem_singleton

theorem mem_membersAll : (as : List (TypeHint κ)) → (m ∈ membersAll as ↔ ∃ a ∈ as, a.Member m)
  | [] => by simp [membersAll]
  | a :: as => by simp [membersAll, mem_members a, mem_membersAll as]

end

end Members

/-! ## Kinds -/

section Choices

variable {a : TypeHint Class} {as : List (TypeHint Class)} {c : Class}

theorem isNone_iff : a.isNone = true ↔ a = .none := by
  cases a <;> simp [isNone]

/-- The members that the kind of a union is told by, each of them once. -/
theorem mem_choices {m : TypeHint Class} :
    m ∈ (distinct a.members).filter (!·.isNone) ↔ a.Choice m := by
  rw [List.mem_filter, mem_distinct, mem_members, Choice, Bool.not_eq_true', ← Bool.not_eq_true,
    isNone_iff]

theorem choice_self (h : a.isUnion = false) {m : TypeHint Class} :
    a.Choice m ↔ m = a ∧ m ≠ .none := by
  rw [Choice, member_self h]

/-- Nothing is no choice. -/
theorem not_choice_none {m : TypeHint Class} : ¬ TypeHint.none.Choice m := by
  rw [choice_self rfl]
  exact fun h => h.2 h.1

theorem choice_union {m : TypeHint Class} :
    (TypeHint.union as).Choice m ↔ ∃ a ∈ as, a.Choice m := by
  simp only [Choice, member_union]
  tauto

theorem choice_bars {m : TypeHint Class} :
    (TypeHint.bars as).Choice m ↔ ∃ a ∈ as, a.Choice m := by
  simp only [Choice, member_bars]
  tauto

theorem choice_optional {m : TypeHint Class} : a.optional.Choice m ↔ a.Choice m := by
  simp [TypeHint.optional, choice_union, not_choice_none]

/-- A type hint other than nothing that is no union leaves itself. -/
theorem choice_eq {m : TypeHint Class} (h : a.isUnion = false) (hne : a ≠ .none) :
    a.Choice m ↔ m = a := by
  rw [choice_self h]
  exact ⟨fun hm => hm.1, fun heq => ⟨heq, heq ▸ hne⟩⟩

end Choices

end TypeHint

open TypeHint

theorem Kind.ofMember_eq_named_iff {a : TypeHint Class} {c : Class} :
    Kind.ofMember a = .named c ↔ a = .type c ∧ c.home ≠ "builtins" := by
  cases a with
  | type d =>
    rw [Kind.ofMember]
    by_cases hhome : d.home = "builtins"
    · simp only [hhome, beq_self_eq_true, if_true, TypeHint.type.injEq, reduceCtorEq, false_iff]
      rintro ⟨rfl, hc⟩
      exact hc hhome
    · simp only [beq_iff_eq, hhome, if_false, Kind.named.injEq, TypeHint.type.injEq]
      exact ⟨fun h => ⟨h, h ▸ hhome⟩, fun h => h.1⟩
  | _ => simp [Kind.ofMember]

/-- Two kinds are equal if they are of the same classes. -/
theorem Kind.eq_of_named_iff {k l : Kind} (h : ∀ c, k = .named c ↔ l = .named c) : k = l := by
  cases k with
  | named c => exact ((h c).mp rfl).symm
  | builtin =>
    cases l with
    | builtin => rfl
    | named c => exact (h c).mpr rfl

theorem classify_of_not_isUnion {a : TypeHint Class} (h : a.isUnion = false) :
    classify a = Kind.ofMember a := by
  cases a with
  | union | bars => cases h
  | _ => rfl

theorem classify_of_isUnion {a : TypeHint Class} (h : a.isUnion = true) :
    classify a = match (distinct a.members).filter (!·.isNone) with
      | [m] => Kind.ofMember m
      | _ => .builtin := by
  cases a with
  | union | bars => rfl
  | _ => cases h

/-- A type hint is of the kind of a class if that class, which is none of those that are always
there, is the only choice that it leaves. -/
theorem classify_eq_named_iff {a : TypeHint Class} {c : Class} :
    classify a = .named c ↔ c.home ≠ "builtins" ∧ ∀ m, a.Choice m ↔ m = .type c := by
  cases hunion : a.isUnion with
  | false =>
    rw [classify_of_not_isUnion hunion, Kind.ofMember_eq_named_iff, and_comm]
    refine and_congr_right fun _ => ⟨?_, fun h => ?_⟩
    · rintro rfl m
      exact choice_eq rfl nofun
    · exact ((choice_self hunion).mp ((h _).mpr rfl)).1.symm
  | true =>
    have hnodup : ((distinct a.members).filter (!·.isNone)).Nodup := (nodup_distinct _).filter _
    have hmem : ∀ m, m ∈ (distinct a.members).filter (!·.isNone) ↔ a.Choice m :=
      fun _ => mem_choices
    rw [classify_of_isUnion hunion]
    generalize (distinct a.members).filter (!·.isNone) = choices at hnodup hmem
    simp only [← hmem]
    constructor
    · intro h
      split at h
      · next m =>
        obtain ⟨rfl, hhome⟩ := Kind.ofMember_eq_named_iff.mp h
        exact ⟨hhome, fun _ => List.mem_singleton⟩
      · cases h
    · rintro ⟨hhome, h⟩
      have hperm : choices.Perm [.type c] :=
        (List.perm_ext_iff_of_nodup hnodup (List.nodup_singleton _)).mpr fun m => by
          rw [h, List.mem_singleton]
      rw [List.perm_singleton.mp hperm]
      exact Kind.ofMember_eq_named_iff.mpr ⟨rfl, hhome⟩

/-! ## Unions as they are built -/

namespace TypeHint

section Formed

variable {a b m : TypeHint Class}

/-- A bar joins the members on its two sides. -/
theorem member_join {joined : TypeHint Class} (h : join a b = .ok joined) :
    joined.Member m ↔ a.Member m ∨ b.Member m := by
  have hunion : (TypeHint.union [a, b]).Member m ↔ a.Member m ∨ b.Member m := by
    simp [member_union]
  have hbars : (TypeHint.bars [a, b]).Member m ↔ a.Member m ∨ b.Member m := by
    simp [member_bars]
  unfold join at h
  split at h
  · obtain ⟨_, -, h⟩ := exists_of_bind_ok h
    obtain ⟨_, -, h⟩ := exists_of_bind_ok h
    cases h
    exact hunion
  · obtain ⟨_, -, h⟩ := exists_of_bind_ok h
    obtain ⟨_, -, h⟩ := exists_of_bind_ok h
    cases h
    exact hunion
  · cases h
    exact hbars
  · cases h
    exact hbars
  · cases h
    exact hbars
  · cases h

theorem member_foldlM_join {rest : List (TypeHint Class)} {joined : TypeHint Class}
    (h : rest.foldlM join a = .ok joined) : joined.Member m ↔ ∃ b ∈ a :: rest, b.Member m := by
  induction rest generalizing a with
  | nil =>
    cases h
    simp
  | cons b rest ih =>
    rw [List.foldlM_cons] at h
    obtain ⟨between, hjoin, h⟩ := exists_of_bind_ok h
    rw [ih h]
    simp [member_join hjoin, or_assoc]

/-- What is no union stays of its form, and only what it has been built from is built. -/
theorem formed_cases (hunion : a.isUnion = false) (h : a.formed = .ok b) :
    b = a ∨ (∃ origin as bs, a = .generic origin as ∧ b = .generic origin bs) ∨
      ∃ c d, a = .annotated c ∧ b = .annotated d := by
  cases a with
  | union | bars => cases hunion
  | type | none | text | special =>
    cases h
    exact .inl rfl
  | generic origin as =>
    obtain ⟨bs, -, h⟩ := exists_of_bind_ok h
    split at h
    · split at h
      · cases h
        exact .inr (.inl ⟨_, _, _, rfl, rfl⟩)
      · cases h
    · cases h
      exact .inr (.inl ⟨_, _, _, rfl, rfl⟩)
  | annotated a =>
    obtain ⟨of, -, h⟩ := exists_of_bind_ok h
    split at h
    · obtain ⟨_, -, h⟩ := exists_of_bind_ok h
      cases h
      exact .inr (.inr ⟨_, _, rfl, rfl⟩)
    · cases h
      exact .inr (.inr ⟨_, _, rfl, rfl⟩)

theorem isUnion_of_formed (hunion : a.isUnion = false) (h : a.formed = .ok b) :
    b.isUnion = false := by
  obtain rfl | ⟨_, _, _, rfl, rfl⟩ | ⟨_, _, rfl, rfl⟩ := formed_cases hunion h
  · exact hunion
  · rfl
  · rfl

theorem member_formed_self (hunion : a.isUnion = false) (h : a.formed = .ok b) :
    b.Member m ↔ ∃ n, a.Member n ∧ n.formed = .ok m := by
  simp only [member_self hunion, member_self (isUnion_of_formed hunion h), exists_eq_left, h,
    Except.ok.injEq]
  exact eq_comm

mutual

/-- Building a type hint builds each of its members by itself. -/
theorem member_formed : (a : TypeHint Class) → {b : TypeHint Class} → a.formed = .ok b →
    {m : TypeHint Class} → (b.Member m ↔ ∃ n, a.Member n ∧ n.formed = .ok m)
  | .union as, b, h, m => by
    obtain ⟨bs, hbs, h⟩ := exists_of_bind_ok h
    split at h
    · cases h
    · obtain ⟨_, -, h⟩ := exists_of_bind_ok h
      cases h
      rw [member_union, member_formedAll as hbs]
      simp only [member_union]
  | .bars as, b, h, m => by
    obtain ⟨bs, hbs, h⟩ := exists_of_bind_ok h
    split at h
    · cases h
    · rw [member_foldlM_join h, member_formedAll as hbs]
      simp only [member_bars]
  | .type _, _, h, _ | .none, _, h, _ | .generic .., _, h, _ | .annotated _, _, h, _
  | .text _, _, h, _ | .special _, _, h, _ => member_formed_self rfl h

theorem member_formedAll : (as : List (TypeHint Class)) → {bs : List (TypeHint Class)} →
    formedAll as = .ok bs → {m : TypeHint Class} →
      ((∃ b ∈ bs, b.Member m) ↔ ∃ n, (∃ a ∈ as, a.Member n) ∧ n.formed = .ok m)
  | [], bs, h, m => by
    cases h
    simp
  | a :: as, bs, h, m => by
    obtain ⟨b, hb, h⟩ := exists_of_bind_ok h
    obtain ⟨bs', hbs, h⟩ := exists_of_bind_ok h
    cases h
    simp only [List.exists_mem_cons_iff, member_formed a hb, member_formedAll as hbs,
      or_and_right, exists_or]

end

theorem exists_formed_of_mem {as bs : List (TypeHint Class)} (h : formedAll as = .ok bs)
    (ha : a ∈ as) : ∃ b, a.formed = .ok b := by
  induction as generalizing bs with
  | nil => cases ha
  | cons first rest ih =>
    obtain ⟨b, hb, h⟩ := exists_of_bind_ok h
    obtain ⟨bs', hbs, -⟩ := exists_of_bind_ok h
    rcases List.mem_cons.mp ha with rfl | ha
    · exact ⟨b, hb⟩
    · exact ih hbs ha

theorem exists_formed_of_member (hm : a.Member m) (h : a.formed = .ok b) :
    ∃ n, m.formed = .ok n := by
  induction hm generalizing b with
  | self => exact ⟨b, h⟩
  | union ha _ ih | bars ha _ ih =>
    obtain ⟨bs, hbs, -⟩ := exists_of_bind_ok h
    obtain ⟨b', hb'⟩ := exists_formed_of_mem hbs ha
    exact ih hb'

/-- What a type hint leaves to choose from is built by building each choice. -/
theorem choice_formed (h : a.formed = .ok b) :
    b.Choice m ↔ ∃ n, a.Choice n ∧ n.formed = .ok m := by
  have hnone : ∀ n, a.Member n → n.formed = .ok m → (m = .none ↔ n = .none) := by
    intro n hn hformed
    obtain rfl | ⟨_, _, _, rfl, rfl⟩ | ⟨_, _, rfl, rfl⟩ := formed_cases hn.isUnion_eq hformed
    · exact Iff.rfl
    · simp
    · simp
  rw [Choice, member_formed a h]
  constructor
  · rintro ⟨⟨n, hn, hformed⟩, hm⟩
    exact ⟨n, ⟨hn, mt (hnone n hn hformed).mpr hm⟩, hformed⟩
  · rintro ⟨n, ⟨hn, hne⟩, hformed⟩
    exact ⟨⟨n, hn, hformed⟩, mt (hnone n hn hformed).mp hne⟩

end Formed

end TypeHint

/-! ## What kinds depend on -/

section Classification

variable {u v : TypeHint Class}

/-- Two type hints are of one kind if each choice of one has a counterpart in the other, which is a
class only if it is the same class. -/
theorem classify_eq_of_choices {R : TypeHint Class → TypeHint Class → Prop}
    (hclass : ∀ {a b c}, R a b → (a = .type c ↔ b = .type c))
    (hforth : ∀ a, u.Choice a → ∃ b, v.Choice b ∧ R a b)
    (hback : ∀ b, v.Choice b → ∃ a, u.Choice a ∧ R a b) : classify u = classify v := by
  refine Kind.eq_of_named_iff fun c => ?_
  rw [classify_eq_named_iff, classify_eq_named_iff]
  refine and_congr_right fun _ => ⟨fun h m => ⟨fun hm => ?_, ?_⟩, fun h m => ⟨fun hm => ?_, ?_⟩⟩
  · obtain ⟨a, ha, hR⟩ := hback m hm
    exact (hclass hR).mp ((h a).mp ha)
  · rintro rfl
    obtain ⟨b, hb, hR⟩ := hforth _ ((h _).mpr rfl)
    rwa [← (hclass hR).mp rfl]
  · obtain ⟨b, hb, hR⟩ := hforth m hm
    exact (hclass hR).mpr ((h b).mp hb)
  · rintro rfl
    obtain ⟨a, ha, hR⟩ := hback _ ((h _).mpr rfl)
    rwa [← (hclass hR).mpr rfl]

theorem classify_eq_of_choice_iff (h : ∀ m, u.Choice m ↔ v.Choice m) : classify u = classify v :=
  classify_eq_of_choices (R := Eq) (fun heq => heq ▸ Iff.rfl)
    (fun a ha => ⟨a, (h a).mp ha, rfl⟩) fun b hb => ⟨b, (h b).mpr hb, rfl⟩

/-- Building a type hint does not change its kind. -/
theorem classify_formed (h : u.formed = .ok v) : classify v = classify u := by
  refine (classify_eq_of_choices (R := fun a b => a.isUnion = false ∧ a.formed = .ok b)
    ?_ ?_ ?_).symm
  · rintro a b c ⟨hunion, hformed⟩
    obtain rfl | ⟨_, _, _, rfl, rfl⟩ | ⟨_, _, rfl, rfl⟩ := formed_cases hunion hformed
    · exact Iff.rfl
    · simp
    · simp
  · intro a ha
    obtain ⟨b, hb⟩ := exists_formed_of_member ha.1 h
    exact ⟨b, (choice_formed h).mpr ⟨a, ha, hb⟩, ha.1.isUnion_eq, hb⟩
  · intro b hb
    obtain ⟨a, ha, hformed⟩ := (choice_formed h).mp hb
    exact ⟨a, ha, ha.1.isUnion_eq, hformed⟩

end Classification

/-- An equality that members of unions are told apart by. What it makes of other members is left
open, but a class is equal to itself only. -/
structure TypeHint.Equality (alike : TypeHint Class → TypeHint Class → Prop) : Prop where
  refl : ∀ a, alike a a
  symm : ∀ {a b}, alike a b → alike b a
  eq_type : ∀ {a c}, alike a (.type c) → a = .type c

/-- A type hint that is made optional keeps its kind. The kind of a nest of unions depends on
nothing but the set of choices that it leaves: on no order, repetition, grouping or spelling of its
members, and on no member that stands for nothing. It is the kind of the only choice where there is
just one. The same holds of the union that is built from what is written. -/
theorem classify_choices {alike : TypeHint Class → TypeHint Class → Prop}
    (h : TypeHint.Equality alike) :
    (∀ a, classify (.optional a) = classify a ∧ classify (.bars [a, .none]) = classify a) ∧
    (∀ u v, (∀ a, u.Choice a → ∃ b, v.Choice b ∧ alike a b) →
      (∀ b, v.Choice b → ∃ a, u.Choice a ∧ alike b a) → classify u = classify v) ∧
    (∀ u m, u.Choice m → (∀ a, u.Choice a → alike a m) → classify u = classify m) ∧
    (∀ u, (¬ ∃ m, u.Choice m ∧ ∀ a, u.Choice a → alike a m) → classify u = .builtin) ∧
    (∀ as bs, (∀ m, m ≠ .none → (m ∈ as ↔ m ∈ bs)) →
      classify (.union as) = classify (.union bs)) ∧
    (∀ front as back,
      classify (.union (front ++ .union as :: back)) = classify (.union (front ++ as ++ back)) ∧
      classify (.union (front ++ .bars as :: back)) = classify (.union (front ++ as ++ back))) ∧
    (∀ as, classify (.bars as) = classify (.union as)) ∧
    ∀ u v, u.formed = .ok v → classify v = classify u := by
  have hclass : ∀ {a b c}, alike a b → (a = .type c ↔ b = .type c) := by
    intro a b c hab
    constructor
    · rintro rfl
      exact h.eq_type (h.symm hab)
    · rintro rfl
      exact h.eq_type hab
  refine ⟨fun a => ⟨classify_eq_of_choice_iff fun m => ?_, classify_eq_of_choice_iff fun m => ?_⟩,
    fun u v hforth hback => ?_, fun u m hm hall => ?_, fun u hmany => ?_, fun as bs hmem => ?_,
    fun front as back => ⟨classify_eq_of_choice_iff fun m => ?_,
      classify_eq_of_choice_iff fun m => ?_⟩,
    fun as => classify_eq_of_choice_iff fun m => ?_, fun u v => classify_formed⟩
  · exact choice_optional
  · simp [choice_bars, not_choice_none]
  · refine classify_eq_of_choices hclass hforth fun b hb => ?_
    obtain ⟨a, ha, hba⟩ := hback b hb
    exact ⟨a, ha, h.symm hba⟩
  · have hself : ∀ b, m.Choice b ↔ b = m := fun b => choice_eq hm.1.isUnion_eq hm.2
    refine classify_eq_of_choices hclass (fun a ha => ⟨m, (hself m).mpr rfl, hall a ha⟩)
      fun b hb => ?_
    obtain rfl := (hself b).mp hb
    exact ⟨_, hm, h.refl _⟩
  · cases hkind : classify u with
    | builtin => rfl
    | named c =>
      obtain ⟨-, honly⟩ := classify_eq_named_iff.mp hkind
      refine absurd ⟨.type c, (honly _).mpr rfl, fun a ha => ?_⟩ hmany
      rw [(honly a).mp ha]
      exact h.refl _
  · have hne : ∀ {a m : TypeHint Class}, a.Choice m → a ≠ .none := by
      rintro _ m hm rfl
      exact not_choice_none hm
    refine classify_eq_of_choice_iff fun m => ?_
    rw [choice_union, choice_union]
    exact ⟨fun ⟨a, ha, hm⟩ => ⟨a, (hmem a (hne hm)).mp ha, hm⟩,
      fun ⟨a, ha, hm⟩ => ⟨a, (hmem a (hne hm)).mpr ha, hm⟩⟩
  · simp [choice_union, or_and_right, exists_or]
  · simp [choice_union, choice_bars, or_and_right, exists_or]
  · rw [choice_bars, choice_union]

/-- One class in a nest of unions in both spellings, beside itself and nothing. -/
theorem classify_choices_mailer : TypeHint.Equality Eq ∧
    classify (.bars [.none, .union [.type Catalogue.mailer, .none], .type Catalogue.mailer]) =
      .named Catalogue.mailer := by
  have hequality : TypeHint.Equality Eq := ⟨fun _ => rfl, fun h => h.symm, fun h => h⟩
  refine ⟨hequality, ?_⟩
  obtain ⟨-, -, honly, -⟩ := classify_choices hequality
  have hchoices : ∀ a, TypeHint.Choice (.bars [.none, .union [.type Catalogue.mailer, .none],
      .type Catalogue.mailer]) a ↔ a = .type Catalogue.mailer := fun a =>
    mem_choices.symm.trans List.mem_singleton
  exact honly _ _ ((hchoices _).mpr rfl) fun a ha => (hchoices a).mp ha

end RequestRouter
