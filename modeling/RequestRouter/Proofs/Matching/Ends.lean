import RequestRouter.Proofs.Matching.Ways

/-!
# Where a stretch can end

A stretch of characters that pass one test ends behind an admissible number of them, and a
possessive stretch behind as many as it can take (`Stretch.mem_ends`).
-/

namespace RequestRouter

theorem CharTest.lt_of_passesAt {test : CharTest} {text : Array Char} {pos : Nat}
    (h : test.passesAt text pos = true) : pos < text.size := by
  unfold passesAt at h
  cases hc : text[pos]? with
  | none => simp [hc] at h
  | some c => exact (Array.getElem?_eq_some_iff.mp hc).1

namespace Stretch

variable {text : Array Char} {test : CharTest}

theorem passes_succ_iff {n pos : Nat} (hpass : test.passesAt text pos = true) :
    (∀ j, j < n + 1 → test.passesAt text (pos + j) = true) ↔
      ∀ j, j < n → test.passesAt text (pos + 1 + j) = true := by
  constructor
  · intro h j hj
    have hstep := h (j + 1) (by omega)
    rwa [Nat.add_assoc, Nat.add_comm 1 j]
  · intro h j hj
    cases j with
    | zero => exact hpass
    | succ j =>
      have hstep := h j (by omega)
      rwa [Nat.add_assoc, Nat.add_comm 1 j] at hstep

/-- The counted characters pass the test, and the count does not stop short. -/
theorem le_length_iff {n limit pos : Nat} :
    n ≤ length text test limit pos ↔
      n ≤ limit ∧ ∀ j, j < n → test.passesAt text (pos + j) = true := by
  induction limit generalizing n pos with
  | zero =>
    simp only [length, Nat.le_zero]
    constructor
    · rintro rfl
      exact ⟨rfl, fun j hj => absurd hj (Nat.not_lt_zero j)⟩
    · exact fun h => h.1
  | succ limit ih =>
    simp only [length]
    cases n with
    | zero => simp
    | succ n =>
      split
      · next hpass =>
        rw [Nat.succ_le_succ_iff, ih, Nat.succ_le_succ_iff, passes_succ_iff hpass]
      · next hfail => exact ⟨fun h => by omega, fun h => absurd (h.2 0 (by omega)) hfail⟩

theorem mem_shrinkEnds {start extra q : Nat} :
    q ∈ shrinkEnds start extra ↔ start ≤ q ∧ q ≤ start + extra := by
  induction extra with
  | zero => simp only [shrinkEnds, List.mem_singleton]; omega
  | succ extra ih => simp only [shrinkEnds, List.mem_cons, ih]; omega

theorem mem_growEnds {most : Option Nat} {left count pos q : Nat}
    (hcount : most.all (count ≤ ·) = true) :
    q ∈ growEnds text test most left count pos ↔
      ∃ n, q = pos + n ∧ n ≤ left ∧ most.all (count + n ≤ ·) = true ∧
        ∀ j, j < n → test.passesAt text (pos + j) = true := by
  have hany : most.any (· < count) = false := by
    cases most <;> simp at hcount ⊢
    omega
  induction left generalizing count pos with
  | zero =>
    rw [growEnds, if_neg (by simp [hany])]
    simp only [List.mem_singleton]
    constructor
    · rintro rfl
      exact ⟨0, rfl, Nat.le_refl 0, hcount, fun j hj => absurd hj (Nat.not_lt_zero j)⟩
    · rintro ⟨n, rfl, hn, -⟩
      omega
  | succ left ih =>
    rw [growEnds, if_neg (by simp [hany]), List.mem_cons]
    constructor
    · rintro (rfl | hq)
      · exact ⟨0, rfl, Nat.zero_le _, hcount, fun j hj => absurd hj (Nat.not_lt_zero j)⟩
      · split at hq
        · next hpass =>
          by_cases hmore : most.all (count + 1 ≤ ·) = true
          · obtain ⟨n, rfl, hn, hall, hpasses⟩ := (ih hmore (by
              cases most <;> simp at hmore ⊢
              omega)).mp hq
            refine ⟨n + 1, by omega, by omega, ?_, (passes_succ_iff hpass).mpr hpasses⟩
            rwa [Nat.add_assoc, Nat.add_comm 1 n] at hall
          · have hfull : most.any (· < count + 1) = true := by
              cases most with
              | none => exact absurd rfl hmore
              | some limit =>
                have hlimit : ¬ count + 1 ≤ limit := fun h => hmore (decide_eq_true h)
                exact decide_eq_true (Nat.lt_of_not_le hlimit)
            unfold growEnds at hq
            rw [if_pos hfull] at hq
            cases hq
        · cases hq
    · rintro ⟨n, rfl, hn, hall, hpasses⟩
      cases n with
      | zero => exact .inl rfl
      | succ n =>
        have hpass := hpasses 0 (by omega)
        have hmore : most.all (count + 1 ≤ ·) = true := by
          cases most <;> simp at hall ⊢
          omega
        refine .inr ?_
        have hpass : test.passesAt text pos = true := hpass
        rw [if_pos hpass]
        refine (ih hmore (by cases most <;> simp at hmore ⊢; omega)).mpr ?_
        refine ⟨n, by omega, by omega, ?_, (passes_succ_iff hpass).mp hpasses⟩
        rwa [Nat.add_assoc, Nat.add_comm 1 n]

theorem le_of_passes {n pos : Nat} (h : ∀ j, j < n → test.passesAt text (pos + j) = true) :
    n ≤ text.size - pos := by
  cases n with
  | zero => exact Nat.zero_le _
  | succ n =>
    have hlast := CharTest.lt_of_passesAt (h n (by omega))
    omega

/-- The number of characters that a stretch can take, `wanted` being the most it asks for. -/
theorem le_limited_iff {wanted : Option Nat} {n pos : Nat} :
    n ≤ length text test (limit text wanted pos) pos ↔
      wanted.all (n ≤ ·) = true ∧ ∀ j, j < n → test.passesAt text (pos + j) = true := by
  rw [le_length_iff]
  constructor
  · rintro ⟨hlimit, hpasses⟩
    refine ⟨?_, hpasses⟩
    cases wanted <;> simp [limit] at hlimit ⊢
    omega
  · rintro ⟨hwanted, hpasses⟩
    refine ⟨?_, hpasses⟩
    have hfit := le_of_passes hpasses
    cases wanted <;> simp [limit] at hwanted ⊢ <;> omega

/-- A possessive stretch takes as many characters as it can: either as many as it may, or so many
that the next one fails. -/
theorem eq_limited_iff {most : Option Nat} {n pos : Nat} :
    n = length text test (limit text most pos) pos ↔
      most.all (n ≤ ·) = true ∧ (∀ j, j < n → test.passesAt text (pos + j) = true) ∧
        (most = some n ∨ test.passesAt text (pos + n) = false) := by
  constructor
  · intro hn
    have hself := le_limited_iff.mp (Nat.le_of_eq hn)
    refine ⟨hself.1, hself.2, ?_⟩
    by_cases hfull : most = some n
    · exact .inl hfull
    · refine .inr (Bool.eq_false_iff.mpr fun hpass => ?_)
      have hmore : n + 1 ≤ length text test (limit text most pos) pos := by
        refine le_limited_iff.mpr ⟨?_, fun j hj => ?_⟩
        · have hle := hself.1
          cases most <;> simp at hfull hle ⊢
          omega
        · rcases Nat.lt_succ_iff_lt_or_eq.mp hj with hj | rfl
          · exact hself.2 j hj
          · exact hpass
      omega
  · rintro ⟨hmost, hpasses, hmaximal⟩
    have hle := le_limited_iff.mpr ⟨hmost, hpasses⟩
    have hself := le_limited_iff.mp (Nat.le_refl (length text test (limit text most pos) pos))
    rcases hmaximal with rfl | hfail
    · have hle' := hself.1
      simp at hle'
      omega
    · refine Nat.le_antisymm hle (Nat.le_of_not_lt fun hlt => ?_)
      rw [hself.2 n hlt] at hfail
      cases hfail

theorem le_size_of_mem_ends {greed : Greed} {least : Nat} {most : Option Nat} {pos q : Nat}
    (h : q ∈ ends text test greed least most pos) : pos ≤ text.size := by
  unfold ends at h
  split at h
  · cases h
  · omega

/-- The ends of a stretch are those behind an admissible number of characters that pass; a
possessive stretch takes as many as it can. -/
theorem mem_ends {greed : Greed} {least : Nat} {most : Option Nat} {pos q : Nat}
    (hbounds : most.all (least ≤ ·) = true) (hpos : pos ≤ text.size) :
    q ∈ ends text test greed least most pos ↔
      ∃ n, q = pos + n ∧ least ≤ n ∧ most.all (n ≤ ·) = true ∧
        (∀ j, j < n → test.passesAt text (pos + j) = true) ∧
        (greed = .possessive → most = some n ∨ test.passesAt text (pos + n) = false) := by
  unfold ends
  by_cases hshort : text.size < pos + least
  · rw [if_pos hshort]
    simp only [List.not_mem_nil, false_iff]
    rintro ⟨n, -, hn, -, hpasses, -⟩
    have hfit := le_of_passes hpasses
    omega
  · rw [if_neg hshort]
    dsimp only
    generalize hwanted : (if greed = .lazy then some least else most) = wanted
    by_cases hfew : length text test (limit text wanted pos) pos < least
    · rw [if_pos hfew]
      simp only [List.not_mem_nil, false_iff]
      rintro ⟨n, -, hn, -, hpasses, -⟩
      have henough : least ≤ length text test (limit text wanted pos) pos := by
        refine le_limited_iff.mpr ⟨?_, fun j hj => hpasses j (by omega)⟩
        rw [← hwanted]
        split
        · simp
        · exact hbounds
      omega
    · rw [if_neg hfew]
      cases greed with
      | greedy =>
        obtain rfl : most = wanted := hwanted
        dsimp only
        rw [mem_shrinkEnds]
        constructor
        · rintro ⟨hleast, hq⟩
          have hn : q - pos ≤ length text test (limit text most pos) pos := by omega
          have hn := le_limited_iff.mp hn
          exact ⟨q - pos, by omega, by omega, hn.1, hn.2, fun h => nomatch h⟩
        · rintro ⟨n, rfl, hn, hmost, hpasses, -⟩
          have hle := le_limited_iff.mpr ⟨hmost, hpasses⟩
          omega
      | lazy =>
        obtain rfl : some least = wanted := hwanted
        dsimp only
        have hfirst := (le_limited_iff.mp (Nat.le_of_not_lt hfew)).2
        rw [mem_growEnds hbounds]
        constructor
        · rintro ⟨n, rfl, hn, hmost, hpasses⟩
          refine ⟨least + n, by omega, by omega, hmost, fun j hj => ?_, fun h => nomatch h⟩
          by_cases hlow : j < least
          · exact hfirst j hlow
          · have hpass := hpasses (j - least) (by omega)
            rwa [show pos + least + (j - least) = pos + j by omega] at hpass
        · rintro ⟨n, rfl, hn, hmost, hpasses, -⟩
          have hfit := le_of_passes hpasses
          refine ⟨n - least, by omega, by omega, ?_, fun j hj => ?_⟩
          · rwa [show least + (n - least) = n by omega]
          · have hpass := hpasses (least + j) (by omega)
            rwa [← Nat.add_assoc] at hpass
      | possessive =>
        obtain rfl : most = wanted := hwanted
        dsimp only
        rw [List.mem_singleton]
        constructor
        · intro hq
          generalize hnumber : length text test (limit text most pos) pos = number at hq hfew
          have hn := eq_limited_iff.mp hnumber.symm
          exact ⟨number, hq, Nat.le_of_not_lt hfew, hn.1, hn.2.1, fun _ => hn.2.2⟩
        · rintro ⟨n, rfl, hn, hmost, hpasses, hmaximal⟩
          rw [eq_limited_iff.mpr ⟨hmost, hpasses, hmaximal rfl⟩]

end Stretch

end RequestRouter
