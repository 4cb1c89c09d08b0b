import RequestRouter.Proofs.Matching.Ends
import RequestRouter.Regex.Width

/-!
# What a term takes

`Regex.Takes` says that a term can take the piece of a text between two positions, without saying in
which way: a sequence takes two pieces one after another, a loop a row of pieces. An ordinary term
has a way to an end exactly if it takes the piece up to there (`Regex.takes_of_mem_ways`,
`Regex.exists_mem_ways`). The matcher begins no repetition twice at one place, so for the second a
row of pieces is first rid of those that are empty.
-/

namespace RequestRouter

/-- A relation holds from step to step along a row of `n` steps. -/
def Steps (R : Nat → Nat → Prop) : (n : Nat) → Nat → Nat → Prop
  | 0, p, q => p = q
  | n + 1, p, q => ∃ m, R p m ∧ Steps R n m q

namespace Steps

variable {R : Nat → Nat → Prop} {n p q : Nat}

theorem preserves {P : Nat → Prop} (h : Steps R n p q) (hR : ∀ a b, R a b → P a → P b) (hp : P p) :
    P q := by
  induction n generalizing p with
  | zero => exact h ▸ hp
  | succ n ih =>
    obtain ⟨m, hm, hrest⟩ := h
    exact ih hrest (hR _ _ hm hp)

theorem along {P : Nat → Prop} (h : Steps R n p q) (hR : ∀ a b, R a b → P a → P b) (hp : P p) :
    Steps (fun a b => P a ∧ R a b) n p q := by
  induction n generalizing p with
  | zero => exact h
  | succ n ih =>
    obtain ⟨m, hm, hrest⟩ := h
    exact ⟨m, ⟨hp, hm⟩, ih hrest (hR _ _ hm hp)⟩

theorem le (h : Steps R n p q) (hR : ∀ a b, R a b → a ≤ b) : p ≤ q := by
  induction n generalizing p with
  | zero => exact Nat.le_of_eq h
  | succ n ih =>
    obtain ⟨m, hm, hrest⟩ := h
    exact Nat.le_trans (hR _ _ hm) (ih hrest)

theorem add_mul_le {width : Nat} (h : Steps R n p q) (hR : ∀ a b, R a b → a + width ≤ b) :
    p + n * width ≤ q := by
  induction n generalizing p with
  | zero =>
    rw [Nat.zero_mul]
    exact Nat.le_of_eq h
  | succ n ih =>
    obtain ⟨m, hm, hrest⟩ := h
    have hfirst := hR _ _ hm
    have hothers := ih hrest
    rw [Nat.succ_mul]
    omega

theorem strict (h : Steps R n p q) (hR : ∀ a b, R a b → a ≤ b) :
    ∃ m, m ≤ n ∧ Steps (fun a b => R a b ∧ a < b) m p q := by
  induction n generalizing p with
  | zero => exact ⟨0, Nat.le_refl 0, h⟩
  | succ n ih =>
    obtain ⟨b, hb, hrest⟩ := h
    obtain ⟨m, hm, hsteps⟩ := ih hrest
    by_cases hlt : p < b
    · exact ⟨m + 1, Nat.succ_le_succ hm, b, ⟨hb, hlt⟩, hsteps⟩
    · obtain rfl : p = b := Nat.le_antisymm (hR _ _ hb) (Nat.le_of_not_lt hlt)
      exact ⟨m, Nat.le_succ_of_le hm, hsteps⟩

theorem split {k : Nat} (h : Steps R (k + n) p q) : ∃ m, Steps R k p m ∧ Steps R n m q := by
  induction k generalizing p with
  | zero =>
    rw [Nat.zero_add] at h
    exact ⟨p, rfl, h⟩
  | succ k ih =>
    rw [Nat.succ_add] at h
    obtain ⟨b, hb, hrest⟩ := h
    obtain ⟨m, hm, hothers⟩ := ih hrest
    exact ⟨m, ⟨b, hb, hm⟩, hothers⟩

end Steps

/-! ## Loops -/

namespace Loop

variable {body : Trail → List Trail} {R : Nat → Nat → Prop} {least : Nat} {most : Option Nat}

theorem mem_lazyWays {fuel count : Nat} {last : Option Nat} {w v : Trail} :
    v ∈ lazyWays body least most fuel count last w ↔
      v ∈ greedyWays body least most fuel count last w := by
  induction fuel generalizing count last w with
  | zero => exact Iff.rfl
  | succ fuel ih =>
    simp only [lazyWays, greedyWays]
    split
    · simp only [List.mem_flatMap, ih]
    · split
      · simp only [List.mem_cons, List.mem_append, List.mem_flatMap, ih, List.not_mem_nil, or_false]
        exact Or.comm
      · rfl

theorem steps_of_mem_greedyWays (hbody : ∀ w v, v ∈ body w → R w.head v.head)
    {fuel count : Nat} {last : Option Nat} {w v : Trail} (hcount : most.all (count ≤ ·) = true)
    (hbounds : most.all (least ≤ ·) = true) (h : v ∈ greedyWays body least most fuel count last w) :
    ∃ n, Steps R n w.head v.head ∧ least ≤ count + n ∧ most.all (count + n ≤ ·) = true := by
  induction fuel generalizing count last w with
  | zero => cases h
  | succ fuel ih =>
    have hmore : ∀ {last}, most.all (count + 1 ≤ ·) = true →
        v ∈ (body w).flatMap (greedyWays body least most fuel (count + 1) last) →
        ∃ n, Steps R n w.head v.head ∧ least ≤ count + n ∧ most.all (count + n ≤ ·) = true := by
      intro last hnext h
      obtain ⟨u, hu, hv⟩ := List.mem_flatMap.mp h
      obtain ⟨n, hsteps, hleast, hmost⟩ := ih hnext hv
      refine ⟨n + 1, ⟨u.head, hbody w u hu, hsteps⟩, by omega, ?_⟩
      rwa [Nat.add_assoc, Nat.add_comm 1 n] at hmost
    simp only [greedyWays] at h
    split at h
    · next hlt =>
      refine hmore ?_ h
      cases most <;> simp at hbounds ⊢
      omega
    · next hge =>
      split at h
      · next hgo =>
        rcases List.mem_append.mp h with h | h
        · refine hmore ?_ h
          cases most <;> simp [mayGoOn] at hgo ⊢
          omega
        · obtain rfl := List.mem_singleton.mp h
          exact ⟨0, rfl, by omega, hcount⟩
      · obtain rfl := List.mem_singleton.mp h
        exact ⟨0, rfl, by omega, hcount⟩

variable (hbody : ∀ p q marks, R p q → ∃ v ∈ body ⟨p, marks⟩, v.head = q)

include hbody

/-- Repetitions that each take something are a way of a loop that has its least number. -/
theorem mem_greedyWays_of_strict {n fuel count : Nat} {last : Option Nat} {w : Trail} {q : Nat}
    (hsteps : Steps (fun a b => R a b ∧ a < b) n w.head q) (hcount : least ≤ count)
    (hmost : most.all (count + n ≤ ·) = true) (hlast : ∀ l, last = some l → l < w.head)
    (hfuel : n < fuel) : ∃ v ∈ greedyWays body least most fuel count last w, v.head = q := by
  induction n generalizing fuel count last w with
  | zero =>
    obtain ⟨fuel, rfl⟩ := Nat.exists_eq_add_of_lt hfuel
    refine ⟨w, ?_, hsteps⟩
    simp only [greedyWays, if_neg (Nat.not_lt.mpr hcount)]
    split <;> simp
  | succ n ih =>
    obtain ⟨fuel, rfl⟩ : ∃ f, fuel = f + 1 := ⟨fuel - 1, by omega⟩
    obtain ⟨m, ⟨hm, hlt⟩, hrest⟩ := hsteps
    obtain ⟨u, hu, rfl⟩ := hbody w.head m w.marks hm
    have hgo : mayGoOn most count last w.head = true := by
      simp only [mayGoOn, Bool.and_eq_true, bne_iff_ne, ne_eq]
      refine ⟨?_, fun h => absurd (hlast _ h) (Nat.lt_irrefl _)⟩
      cases most <;> simp at hmost ⊢
      omega
    have hmost' : most.all (count + 1 + n ≤ ·) = true := by
      rwa [Nat.add_assoc, Nat.add_comm 1 n]
    have hlast' : ∀ l, some w.head = some l → l < u.head := by
      rintro l ⟨⟩
      exact hlt
    obtain ⟨v, hv, hq⟩ :=
        ih hrest (Nat.le_succ_of_le hcount) hmost' hlast' (Nat.lt_of_succ_lt_succ hfuel)
    refine ⟨v, ?_, hq⟩
    simp only [greedyWays, if_neg (Nat.not_lt.mpr hcount), if_pos hgo]
    exact List.mem_append_left _ (List.mem_flatMap.mpr ⟨u, hu, hv⟩)

/-- An admissible row of repetitions, its first ones and others that each take something, is a way
of a loop. -/
theorem mem_greedyWays_of_steps {k n fuel count : Nat} {w : Trail} {m q : Nat}
    (hfirst : Steps R k w.head m) (hothers : Steps (fun a b => R a b ∧ a < b) n m q)
    (hcount : count + k = least) (hmost : most.all (least + n ≤ ·) = true)
    (hfuel : k + n < fuel) : ∃ v ∈ greedyWays body least most fuel count none w, v.head = q := by
  induction k generalizing fuel count w with
  | zero =>
    obtain rfl : w.head = m := hfirst
    obtain rfl : count = least := hcount
    exact mem_greedyWays_of_strict hbody hothers (Nat.le_refl _) hmost (by simp) (by omega)
  | succ k ih =>
    obtain ⟨fuel, rfl⟩ : ∃ f, fuel = f + 1 := ⟨fuel - 1, by omega⟩
    obtain ⟨b, hb, hrest⟩ := hfirst
    obtain ⟨u, hu, rfl⟩ := hbody w.head b w.marks hb
    have hcount' : count + 1 + k = least := by omega
    obtain ⟨v, hv, hq⟩ := ih hrest hcount' (show k + n < fuel by omega)
    refine ⟨v, ?_, hq⟩
    simp only [greedyWays, if_pos (show count < least by omega)]
    exact List.mem_flatMap.mpr ⟨u, hu, hv⟩

end Loop

/-! ## Terms -/

namespace Regex

/-- An ordinary term can take the piece of a text between two positions. -/
def Takes (text : Array Char) : Regex → (first last : Nat) → Prop
  | .empty, p, q => p = q
  | .one test, p, q => test.passesAt text p = true ∧ p + 1 = q
  | .place anchor, p, q => anchor.holds text p = true ∧ p = q
  | .seq a b, p, q => ∃ m, a.Takes text p m ∧ b.Takes text m q
  | .alternative r, p, q => r.Takes text p q
  | .either a b, p, q => a.Takes text p q ∨ b.Takes text p q
  | .group _ r, p, q => r.Takes text p q
  | .loop greed least most r, p, q =>
    ∃ n, least ≤ n ∧ most.all (n ≤ ·) = true ∧ Steps (r.Takes text) n p q ∧
      (greed = .possessive → most = some n ∨ ∀ next, ¬ r.Takes text q next)
  | _, _, _ => False

variable {text : Array Char}

theorem Takes.le {r : Regex} {p q : Nat} (h : r.Takes text p q) : p ≤ q := by
  induction r generalizing p q with
  | empty => exact Nat.le_of_eq h
  | one => exact Nat.le_of_succ_le (Nat.le_of_eq h.2)
  | place => exact Nat.le_of_eq h.2
  | seq a b iha ihb =>
    obtain ⟨m, ha, hb⟩ := h
    exact Nat.le_trans (iha ha) (ihb hb)
  | alternative r ih | group _ r ih => exact ih h
  | either a b iha ihb =>
    rcases h with ha | hb
    · exact iha ha
    · exact ihb hb
  | loop greed least most r ih =>
    obtain ⟨n, -, -, hsteps, -⟩ := h
    exact hsteps.le fun _ _ => ih
  | atomic | look | again | ifGroup => exact h.elim

theorem Takes.le_size {r : Regex} {p q : Nat} (h : r.Takes text p q) (hp : p ≤ text.size) :
    q ≤ text.size := by
  induction r generalizing p q with
  | empty => exact h ▸ hp
  | one =>
    obtain ⟨hpass, rfl⟩ := h
    exact CharTest.lt_of_passesAt hpass
  | place => exact h.2 ▸ hp
  | seq a b iha ihb =>
    obtain ⟨m, ha, hb⟩ := h
    exact ihb hb (iha ha hp)
  | alternative r ih | group _ r ih => exact ih h hp
  | either a b iha ihb =>
    rcases h with ha | hb
    · exact iha ha hp
    · exact ihb hb hp
  | loop greed least most r ih =>
    obtain ⟨n, -, -, hsteps, -⟩ := h
    exact hsteps.preserves (fun _ _ => ih) hp
  | atomic | look | again | ifGroup => exact h.elim

theorem steps_one_iff {test : CharTest} {n p q : Nat} :
    Steps ((Regex.one test).Takes text) n p q ↔
      q = p + n ∧ ∀ j, j < n → test.passesAt text (p + j) = true := by
  induction n generalizing p with
  | zero =>
    constructor
    · intro h
      exact ⟨h.symm, fun j hj => absurd hj (Nat.not_lt_zero j)⟩
    · exact fun h => h.1.symm
  | succ n ih =>
    constructor
    · rintro ⟨m, ⟨hpass, rfl⟩, hrest⟩
      obtain ⟨rfl, hpasses⟩ := ih.mp hrest
      exact ⟨by omega, (Stretch.passes_succ_iff hpass).mpr hpasses⟩
    · rintro ⟨rfl, hpasses⟩
      have hpass : test.passesAt text p = true := hpasses 0 (by omega)
      refine ⟨p + 1, ⟨hpass, rfl⟩, ih.mpr ⟨by omega, ?_⟩⟩
      exact (Stretch.passes_succ_iff hpass).mp hpasses

theorem mem_ends_iff_takes {greed : Greed} {least : Nat} {most : Option Nat} {test : CharTest}
    {p q : Nat} (hbounds : most.all (least ≤ ·) = true) (hp : p ≤ text.size) :
    q ∈ Stretch.ends text test greed least most p ↔
      (Regex.loop greed least most (.one test)).Takes text p q := by
  rw [Stretch.mem_ends hbounds hp]
  constructor
  · rintro ⟨n, rfl, hleast, hmost, hpasses, hmaximal⟩
    refine ⟨n, hleast, hmost, steps_one_iff.mpr ⟨rfl, hpasses⟩, fun h => ?_⟩
    refine (hmaximal h).imp_right fun hfail next hnext => ?_
    rw [hnext.1] at hfail
    cases hfail
  · rintro ⟨n, hleast, hmost, hsteps, hmaximal⟩
    obtain ⟨rfl, hpasses⟩ := steps_one_iff.mp hsteps
    refine ⟨n, rfl, hleast, hmost, hpasses, fun h => ?_⟩
    exact (hmaximal h).imp_right fun hno => Bool.eq_false_iff.mpr fun hpass => hno _ ⟨hpass, rfl⟩

/-- Each way of a term leads to the end of a piece that it takes. -/
theorem takes_of_mem_ways {r : Regex} (hr : r.Ordinary) {w v : Trail}
    (h : v ∈ r.ways text w) : r.Takes text w.head v.head := by
  induction r generalizing w v with
  | empty =>
    obtain rfl := List.mem_singleton.mp h
    rfl
  | one test =>
    simp only [ways] at h
    split at h
    · next hpass =>
      obtain rfl := List.mem_singleton.mp h
      exact ⟨hpass, rfl⟩
    · cases h
  | place anchor =>
    simp only [ways] at h
    split at h
    · next hholds =>
      obtain rfl := List.mem_singleton.mp h
      exact ⟨hholds, rfl⟩
    · cases h
  | seq a b iha ihb =>
    obtain ⟨u, hu, hv⟩ := List.mem_flatMap.mp h
    exact ⟨u.head, iha hr.1 hu, ihb hr.2 hv⟩
  | alternative r ih => exact ih hr h
  | either a b iha ihb =>
    rcases List.mem_append.mp h with h | h
    · exact .inl (iha hr.1 h)
    · exact .inr (ihb hr.2 h)
  | group number r ih =>
    obtain ⟨u, hu, rfl⟩ := List.mem_map.mp h
    have hr : r.Ordinary := hr
    have hbody := ih hr hu
    exact hbody
  | loop greed least most r ih =>
    obtain ⟨hordinary, hbounds, hpossessive⟩ := hr
    cases ht : r.test? with
    | some test =>
      obtain rfl := eq_one_of_test? ht
      simp only [ways, test?] at h
      obtain ⟨q, hq, rfl⟩ := List.mem_map.mp h
      exact (mem_ends_iff_takes hbounds (Stretch.le_size_of_mem_ends hq)).mp hq
    | none =>
      simp only [ways, ht] at h
      have hbody : ∀ w v, v ∈ r.ways text w → r.Takes text w.head v.head := fun w v => ih hordinary
      have hsteps : v ∈ Loop.greedyWays (r.ways text) least most (Loop.fuelFor text least) 0 none
          w →
          ∃ n, least ≤ n ∧ most.all (n ≤ ·) = true ∧ Steps (r.Takes text) n w.head v.head := by
        intro h
        have hcount : most.all (0 ≤ ·) = true := by cases most <;> simp
        obtain ⟨n, hn, hleast, hmost⟩ := Loop.steps_of_mem_greedyWays hbody hcount hbounds h
        rw [Nat.zero_add] at hleast hmost
        exact ⟨n, hleast, hmost, hn⟩
      cases greed with
      | greedy =>
        obtain ⟨n, hleast, hmost, hn⟩ := hsteps h
        exact ⟨n, hleast, hmost, hn, by rintro ⟨⟩⟩
      | lazy =>
        obtain ⟨n, hleast, hmost, hn⟩ := hsteps (Loop.mem_lazyWays.mp h)
        exact ⟨n, hleast, hmost, hn, by rintro ⟨⟩⟩
      | possessive => cases h
  | atomic | look | again | ifGroup => exact hr.elim

/-- A term has a way to the end of each piece that it takes, whatever the marks at the start. -/
theorem exists_mem_ways {r : Regex} (hr : r.Ordinary) {p q : Nat} (hp : p ≤ text.size)
    (h : r.Takes text p q) (marks : Marks) : ∃ v ∈ r.ways text ⟨p, marks⟩, v.head = q := by
  induction r generalizing p q marks with
  | empty => exact ⟨⟨p, marks⟩, List.mem_singleton.mpr rfl, h⟩
  | one test =>
    obtain ⟨hpass, rfl⟩ := h
    refine ⟨⟨p + 1, marks⟩, ?_, rfl⟩
    simp only [ways, hpass, if_true]
    exact List.mem_singleton.mpr rfl
  | place anchor =>
    obtain ⟨hholds, rfl⟩ := h
    refine ⟨⟨p, marks⟩, ?_, rfl⟩
    simp only [ways, hholds, if_true]
    exact List.mem_singleton.mpr rfl
  | seq a b iha ihb =>
    obtain ⟨m, ha, hb⟩ := h
    obtain ⟨u, hu, rfl⟩ := iha hr.1 hp ha marks
    obtain ⟨v, hv, rfl⟩ := ihb hr.2 (ha.le_size hp) hb u.marks
    exact ⟨v, List.mem_flatMap.mpr ⟨u, hu, hv⟩, rfl⟩
  | alternative r ih =>
    have hr : r.Ordinary := hr
    exact ih hr hp h marks
  | either a b iha ihb =>
    rcases h with ha | hb
    · obtain ⟨v, hv, rfl⟩ := iha hr.1 hp ha marks
      exact ⟨v, List.mem_append_left _ hv, rfl⟩
    · obtain ⟨v, hv, rfl⟩ := ihb hr.2 hp hb marks
      exact ⟨v, List.mem_append_right _ hv, rfl⟩
  | group number r ih =>
    have hr : r.Ordinary := hr
    obtain ⟨v, hv, rfl⟩ := ih hr hp h (marks.put (Marks.openPlace number) p)
    exact ⟨_, List.mem_map.mpr ⟨v, hv, rfl⟩, rfl⟩
  | loop greed least most r ih =>
    obtain ⟨hordinary, hbounds, hpossessive⟩ := hr
    cases ht : r.test? with
    | some test =>
      obtain rfl := eq_one_of_test? ht
      have hq := (mem_ends_iff_takes hbounds hp).mpr h
      exact ⟨⟨q, marks⟩, List.mem_map.mpr ⟨q, hq, rfl⟩, rfl⟩
    | none =>
      obtain ⟨n, hleast, hmost, hsteps, -⟩ := h
      have hinside : ∀ a b, r.Takes text a b → a ≤ text.size → b ≤ text.size :=
        fun _ _ hab ha => hab.le_size ha
      have hq : q ≤ text.size := hsteps.preserves hinside hp
      have hbody : ∀ a b marks, a ≤ text.size ∧ r.Takes text a b →
          ∃ v ∈ r.ways text ⟨a, marks⟩, v.head = b :=
        fun _ _ marks hab => ih hordinary hab.1 hab.2 marks
      obtain ⟨extra, rfl⟩ : ∃ extra, n = least + extra := ⟨n - least, by omega⟩
      obtain ⟨m, hfirst, hothers⟩ := (hsteps.along hinside hp).split
      obtain ⟨few, hfew, hstrict⟩ := hothers.strict fun _ _ hab => hab.2.le
      -- each of these repetitions takes something, so there are no more of them than characters
      have hwidth : m + few * 1 ≤ q := hstrict.add_mul_le fun _ _ hab => hab.2
      have hmost' : most.all (least + few ≤ ·) = true := by
        cases most <;> simp at hmost ⊢
        omega
      have hfuel : least + few < Loop.fuelFor text least := by
        have hsquare : text.size + 2 ≤ (text.size + 2) * (text.size + 2) := Nat.le_mul_self _
        unfold Loop.fuelFor
        omega
      have hway := Loop.mem_greedyWays_of_steps hbody (w := ⟨p, marks⟩) hfirst hstrict
        (Nat.zero_add least) hmost' hfuel
      cases greed with
      | greedy =>
        simp only [ways, ht]
        exact hway
      | lazy =>
        obtain ⟨v, hv, hq⟩ := hway
        simp only [ways, ht]
        exact ⟨v, Loop.mem_lazyWays.mpr hv, hq⟩
      | possessive =>
        have hone := hpossessive rfl
        rw [ht] at hone
        cases hone
  | atomic | look | again | ifGroup => exact hr.elim

end Regex

end RequestRouter
