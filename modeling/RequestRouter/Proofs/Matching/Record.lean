import RequestRouter.Proofs.Matching.Rows
import RequestRouter.Proofs.Matching.Takes

/-!
# What the marks record

A way through a term changes the marks of the groups of that term and no others
(`Regex.at?_of_mem_ways`). At its end each group has either no marks or two, and between them stands
a piece that the body of the group takes (`Regex.recorded_of_mem_ways`). A group that stands in a
row, not in a choice or a loop, has marks at the end in any case (`Regex.marked_of_mem_ways`).
-/

namespace RequestRouter

namespace Regex

variable {text : Array Char}

theorem greedyWays_preserves {P : Trail → Prop} {body : Trail → List Trail}
    (hbody : ∀ w v, v ∈ body w → P w → P v) {least : Nat} {most : Option Nat} {fuel count : Nat}
    {last : Option Nat} {w v : Trail} (h : v ∈ Loop.greedyWays body least most fuel count last w)
    (hw : P w) : P v := by
  induction fuel generalizing count last w with
  | zero => cases h
  | succ fuel ih =>
    have hmore : ∀ {last},
        v ∈ (body w).flatMap (Loop.greedyWays body least most fuel (count + 1) last)
        → P v := by
      intro last h
      obtain ⟨u, hu, hv⟩ := List.mem_flatMap.mp h
      exact ih hv (hbody w u hu hw)
    simp only [Loop.greedyWays] at h
    split at h
    · exact hmore h
    · split at h
      · rcases List.mem_append.mp h with h | h
        · exact hmore h
        · exact List.mem_singleton.mp h ▸ hw
      · exact List.mem_singleton.mp h ▸ hw

/-- What the ways of the body preserve, and moving the head does not touch, the ways of a loop
preserve. -/
theorem loop_preserves {P : Trail → Prop} {r : Regex} (hbody : ∀ w v, v ∈ r.ways text w → P w → P v)
    (hmove : ∀ w q, P w → P (w.move q)) {greed : Greed} {least : Nat} {most : Option Nat}
    {w v : Trail} (h : v ∈ (Regex.loop greed least most r).ways text w) (hw : P w) : P v := by
  cases ht : r.test? with
  | some test =>
    simp only [ways, ht] at h
    obtain ⟨q, -, rfl⟩ := List.mem_map.mp h
    exact hmove w q hw
  | none =>
    simp only [ways, ht] at h
    cases greed with
    | greedy => exact greedyWays_preserves hbody h hw
    | lazy => exact greedyWays_preserves hbody (Loop.mem_lazyWays.mp h) hw
    | possessive => cases h

theorem at?_of_mem_ways {r : Regex} {first last : Nat} (hn : r.Numbered first last) {w v : Trail}
    (h : v ∈ r.ways text w) {place : Nat} (hplace : place < 2 * first ∨ 2 * last ≤ place) :
    v.marks.at? place = w.marks.at? place := by
  induction r generalizing first last w v with
  | empty => rw [List.mem_singleton.mp h]
  | one test =>
    simp only [ways] at h
    split at h
    · rw [List.mem_singleton.mp h]
      rfl
    · cases h
  | place anchor =>
    simp only [ways] at h
    split at h
    · rw [List.mem_singleton.mp h]
    · cases h
  | seq a b iha ihb =>
    obtain ⟨middle, ha, hb⟩ := hn
    have hle := ha.le
    have hle' := hb.le
    obtain ⟨u, hu, hv⟩ := List.mem_flatMap.mp h
    rw [ihb hb hv (by omega), iha ha hu (by omega)]
  | alternative r ih => exact ih hn h hplace
  | either a b iha ihb =>
    obtain ⟨middle, ha, hb⟩ := hn
    have hle := ha.le
    have hle' := hb.le
    rcases List.mem_append.mp h with h | h
    · exact iha ha h (by omega)
    · exact ihb hb h (by omega)
  | group number r ih =>
    obtain ⟨rfl, hn⟩ := hn
    have hle := hn.le
    obtain ⟨u, hu, rfl⟩ := List.mem_map.mp h
    have hbody := ih hn hu (by omega)
    simp only [Trail.mark, Marks.openPlace, Marks.closePlace] at hbody ⊢
    rw [Marks.at?_put, if_neg (by omega), hbody, Marks.at?_put, if_neg (by omega)]
  | loop greed least most r ih =>
    refine loop_preserves (P := fun v => v.marks.at? place = w.marks.at? place) ?_ (fun _ _ h =>
      h) h rfl
    intro u v hv hu
    exact (ih hn hv hplace).trans hu
  | atomic | look | again | ifGroup => cases h

/-- The groups of a term have no marks, or two with a piece between them that the body takes. -/
def Recorded (text : Array Char) (marks : Marks) : Regex → Prop
  | .seq a b | .either a b => a.Recorded text marks ∧ b.Recorded text marks
  | .alternative r | .loop _ _ _ r => r.Recorded text marks
  | .group number r =>
    (marks.at? (Marks.openPlace number) = none ∧ marks.at? (Marks.closePlace number) = none ∨
      ∃ first last, marks.at? (Marks.openPlace number) = some first ∧
        marks.at? (Marks.closePlace number) = some last ∧ first ≤ text.size ∧
        r.Takes text first last) ∧
      r.Recorded text marks
  | _ => True

theorem Recorded.congr {r : Regex} {first last : Nat} (hn : r.Numbered first last) {a b : Marks}
    (hab : ∀ place, 2 * first ≤ place → place < 2 * last → b.at? place = a.at? place)
    (h : r.Recorded text a) : r.Recorded text b := by
  induction r generalizing first last with
  | seq c d ihc ihd | either c d ihc ihd =>
    obtain ⟨middle, hc, hd⟩ := hn
    have hle := hc.le
    have hle' := hd.le
    refine ⟨ihc hc (fun place _ _ => hab place (by omega) (by omega)) h.1, ?_⟩
    exact ihd hd (fun place _ _ => hab place (by omega) (by omega)) h.2
  | alternative r ih | loop _ _ _ r ih => exact ih hn hab h
  | group number r ih =>
    obtain ⟨rfl, hn⟩ := hn
    have hle := hn.le
    have hopen := hab (Marks.openPlace (first + 1)) (by simp only [Marks.openPlace]; omega)
      (by simp only [Marks.openPlace]; omega)
    have hclose := hab (Marks.closePlace (first + 1)) (by simp only [Marks.closePlace]; omega)
      (by simp only [Marks.closePlace]; omega)
    refine ⟨?_, ih hn (fun place _ _ => hab place (by omega) (by omega)) h.2⟩
    rw [hopen, hclose]
    exact h.1
  | empty | one | place | atomic | look | again | ifGroup => trivial

theorem recorded_nil (r : Regex) : r.Recorded text [] := by
  induction r with
  | seq a b iha ihb | either a b iha ihb => exact ⟨iha, ihb⟩
  | alternative r ih | loop _ _ _ r ih => exact ih
  | group number r ih => exact ⟨.inl ⟨Marks.at?_nil _, Marks.at?_nil _⟩, ih⟩
  | empty | one | place | atomic | look | again | ifGroup => trivial

/-- Each way leaves marks that record pieces which the groups take. -/
theorem recorded_of_mem_ways {r : Regex} (hr : r.Ordinary) {first last : Nat}
    (hn : r.Numbered first last) {w v : Trail} (h : v ∈ r.ways text w) (hhead : w.head ≤ text.size)
    (hw : r.Recorded text w.marks) : r.Recorded text v.marks := by
  induction r generalizing first last w v with
  | seq a b iha ihb =>
    obtain ⟨middle, ha, hb⟩ := hn
    have hle := ha.le
    obtain ⟨u, hu, hv⟩ := List.mem_flatMap.mp h
    have hhead' := (takes_of_mem_ways hr.1 hu).le_size hhead
    have hfirst := iha hr.1 ha hu hhead hw.1
    have hkept : b.Recorded text u.marks :=
      hw.2.congr hb fun place _ _ => at?_of_mem_ways ha hu (by omega)
    refine ⟨hfirst.congr ha fun place _ _ => at?_of_mem_ways hb hv (by omega), ?_⟩
    exact ihb hr.2 hb hv hhead' hkept
  | either a b iha ihb =>
    obtain ⟨middle, ha, hb⟩ := hn
    rcases List.mem_append.mp h with h | h
    · refine ⟨iha hr.1 ha h hhead hw.1, ?_⟩
      exact hw.2.congr hb fun place _ _ => at?_of_mem_ways ha h (by omega)
    · refine ⟨?_, ihb hr.2 hb h hhead hw.2⟩
      exact hw.1.congr ha fun place _ _ => at?_of_mem_ways hb h (by omega)
  | alternative r ih =>
    have hr : r.Ordinary := hr
    exact ih hr hn h hhead hw
  | group number r ih =>
    obtain ⟨rfl, hn⟩ := hn
    have hle := hn.le
    have hr : r.Ordinary := hr
    obtain ⟨u, hu, rfl⟩ := List.mem_map.mp h
    have htakes := takes_of_mem_ways hr hu
    have hbefore : r.Recorded text (w.mark (Marks.openPlace (first + 1)) w.head).marks := by
      refine hw.2.congr hn fun place hlow _ => ?_
      simp only [Trail.mark, Marks.at?_put, Marks.openPlace]
      rw [if_neg (by omega)]
    have hbody := ih hr hn hu hhead hbefore
    have hopen : u.marks.at? (Marks.openPlace (first + 1)) = some w.head := by
      rw [at?_of_mem_ways hn hu (by simp only [Marks.openPlace]; omega), Trail.mark, Marks.at?_put,
        if_pos rfl]
    refine ⟨.inr ⟨w.head, u.head, ?_, ?_, hhead, htakes⟩, hbody.congr hn fun place hlow _ => ?_⟩
    · simp only [Trail.mark, Marks.at?_put, Marks.openPlace, Marks.closePlace] at hopen ⊢
      rw [if_neg (by omega), hopen]
    · simp only [Trail.mark, Marks.at?_put, if_true]
    · simp only [Trail.mark, Marks.at?_put, Marks.closePlace]
      rw [if_neg (by omega)]
  | loop greed least most r ih =>
    cases ht : r.test? with
    | some test =>
      obtain rfl := eq_one_of_test? ht
      trivial
    | none =>
      have hpreserves : ∀ u v, v ∈ r.ways text u → r.Recorded text u.marks ∧ u.head ≤ text.size →
          r.Recorded text v.marks ∧ v.head ≤ text.size := fun u v hv ⟨hu, hhead⟩ =>
        ⟨ih hr.1 hn hv hhead hu, (takes_of_mem_ways hr.1 hv).le_size hhead⟩
      simp only [ways, ht] at h
      cases greed with
      | greedy => exact (greedyWays_preserves hpreserves h ⟨hw, hhead⟩).1
      | lazy => exact (greedyWays_preserves hpreserves (Loop.mem_lazyWays.mp h) ⟨hw, hhead⟩).1
      | possessive => cases h
  | empty | one | place => trivial
  | atomic | look | again | ifGroup => exact hr.elim

/-- A group that the term leads through in any case. -/
def Marked (number : Nat) : Regex → Prop
  | .seq a b => a.Marked number ∨ b.Marked number
  | .group n r => n = number ∨ r.Marked number
  | _ => False

theorem Marked.bounds {r : Regex} {first last number : Nat} (hn : r.Numbered first last)
    (h : r.Marked number) : first < number ∧ number ≤ last := by
  induction r generalizing first last with
  | seq a b iha ihb =>
    obtain ⟨middle, ha, hb⟩ := hn
    have hle := ha.le
    have hle' := hb.le
    rcases h with h | h
    · have hbounds := iha ha h
      omega
    · have hbounds := ihb hb h
      omega
  | group n r ih =>
    obtain ⟨rfl, hn⟩ := hn
    have hle := hn.le
    rcases h with rfl | h
    · omega
    · have hbounds := ih hn h
      omega
  | _ => exact h.elim

/-- A group that stands in a row has an opening mark after each way. -/
theorem marked_of_mem_ways {r : Regex} {first last number : Nat} (hn : r.Numbered first last)
    (hm : r.Marked number) {w v : Trail} (h : v ∈ r.ways text w) :
    ∃ pos, v.marks.at? (Marks.openPlace number) = some pos := by
  induction r generalizing first last w v with
  | seq a b iha ihb =>
    obtain ⟨middle, ha, hb⟩ := hn
    obtain ⟨u, hu, hv⟩ := List.mem_flatMap.mp h
    rcases hm with hm | hm
    · obtain ⟨pos, hpos⟩ := iha ha hm hu
      have hbounds := hm.bounds ha
      refine ⟨pos, ?_⟩
      rw [at?_of_mem_ways hb hv (by simp only [Marks.openPlace]; omega), hpos]
    · exact ihb hb hm hv
  | group n r ih =>
    obtain ⟨rfl, hn⟩ := hn
    have hle := hn.le
    obtain ⟨u, hu, rfl⟩ := List.mem_map.mp h
    simp only [Trail.mark, Marks.at?_put, Marks.closePlace]
    rcases hm with rfl | hm
    · refine ⟨w.head, ?_⟩
      rw [if_neg (by simp only [Marks.openPlace]; omega),
        at?_of_mem_ways hn hu (by simp only [Marks.openPlace]; omega), Trail.mark, Marks.at?_put,
        if_pos rfl]
    · obtain ⟨pos, hpos⟩ := ih hn hm hu
      have hbounds := hm.bounds hn
      refine ⟨pos, ?_⟩
      rw [if_neg (by simp only [Marks.openPlace]; omega), hpos]
  | _ => exact hm.elim

end Regex

end RequestRouter
