import RequestRouter.Proofs.Matching.Search

/-!
# Running a term is searching its ways

`Regex.follows_run` puts together what `Search` says of stretches with the same for loops and for
all other ordinary terms, by induction on the term. The invariant is the one of `Scope.Follows`: a
term whose groups are numbered from `first + 1` to `last` turns a continuation that is right behind
`last` groups into one that is right behind `first` groups.
-/

namespace RequestRouter

namespace Loop

variable {s : Scope} {place : Nat} (least : Nat) (most : Option Nat) {body : Cont → Cont}
  {ways : Trail → List Trail} {k : Cont} {K : Trail → Option Trail}

/-- A greedy loop takes the first of its ways that can be continued. -/
theorem follows_greedy
    (hbody : ∀ k K, s.Follows place k K →
      s.Follows place (body k) fun w => (ways w).findSome? K)
    (hk : s.Follows place k K) (fuel count : Nat) (last : Option Nat) :
    s.Follows place (greedy body least most k fuel count last) fun w =>
      (greedyWays ways least most fuel count last w).findSome? K := by
  induction fuel generalizing count last with
  | zero =>
    intro pos trail marks _ _
    exact Scope.Alike.kept (Scope.Alike.refl s _) _
  | succ fuel ih =>
    intro pos trail marks halike hlen
    have hfinish := hk pos (trail.move pos) marks halike hlen
    dsimp only [greedy, greedyWays]
    split
    · rw [findSome?_flatMap]
      have hmore := hbody _ _ (ih (count + 1) last) pos (trail.move pos) marks halike hlen
      exact hmore.mapFailed fun t ht => ht
    · split
      · rw [List.findSome?_append, findSome?_flatMap, List.findSome?_singleton]
        have hmore := hbody _ _ (ih (count + 1) (some pos)) pos (trail.move pos) marks halike hlen
        exact hmore.orElse fun t _ => hfinish.mapFailed fun t ht => ht
      · rw [List.findSome?_singleton]
        exact hfinish.mapFailed fun t ht => ht

/-- A lazy loop takes the first of its ways that can be continued. What it takes back depends on
whether it stands in a loop itself. -/
theorem follows_lazy {first last : Nat}
    (hbody : ∀ k K, (s.inner first last).Follows last k K →
      (s.inner first last).Follows last (body k) fun w => (ways w).findSome? K)
    (hk : s.Follows last k K) (fuel count : Nat) (start : Option Nat) :
    (s.inner first last).Follows last (lazy body least most s.loop.isSome k fuel count start)
      fun w => (lazyWays ways least most fuel count start w).findSome? K := by
  induction fuel generalizing count start with
  | zero =>
    intro pos trail marks _ _
    exact Scope.Alike.kept (Scope.Alike.refl _ _) _
  | succ fuel ih =>
    intro pos trail marks halike hlen
    dsimp only [lazy, lazyWays]
    split
    · rw [findSome?_flatMap]
      have hmore := hbody _ _ (ih (count + 1) start) pos (trail.move pos) marks halike hlen
      exact hmore.mapFailed fun t ht => ht
    · rw [findSome?_cons_or]
      have hceil : (s.inner first last).ceil last = s.ceil last := by
        cases hl : s.loop <;> simp [Scope.ceil, Scope.inner, hl]
      have hfinish := hk pos (trail.move pos) marks halike (by rw [← hceil]; exact hlen)
      refine hfinish.orElse fun t ht => ?_
      -- What the failure of the continuation leaves is alike to the row before it.
      have hlen' : (trail.move pos).marks.length ≤ 2 * s.ceil last := by rw [← hceil]; exact hlen
      have hback := Scope.alike_back hlen' ht
      split
      · rw [findSome?_flatMap]
        have hmore := hbody _ _ (ih (count + 1) (some pos)) pos
          (((trail.move pos).back s.loop.isSome t).move pos) marks (hback.1.trans halike)
          (Nat.le_trans hback.2 hlen)
        refine hmore.mapFailed fun t ht => ?_
        exact (Scope.Alike.kept hback.1.symm _).trans ht
      · exact Scope.Alike.kept hback.1.symm _

end Loop

namespace Scope

variable {s : Scope} {first middle last : Nat}

/-- A term stands within the groups of the outermost loop around it. -/
def Spans (s : Scope) (first last : Nat) : Prop :=
  ∀ span, s.loop = some span → span.1 ≤ first ∧ last ≤ span.2

theorem Spans.mono {first' last' : Nat} (h : s.Spans first last) (hfirst : first ≤ first')
    (hlast : last' ≤ last) : s.Spans first' last' := fun span hs =>
  ⟨Nat.le_trans (h span hs).1 hfirst, Nat.le_trans hlast (h span hs).2⟩

theorem Spans.inner (h : s.Spans first last) : (s.inner first last).Spans first last := by
  intro span hs
  cases hl : s.loop with
  | some outer =>
    rw [inner_of_loop hl] at hs
    exact h span hs
  | none =>
    simp only [Scope.inner, hl, Option.none_or, Option.some.injEq] at hs
    rw [← hs]
    exact ⟨Nat.le_refl _, Nat.le_refl _⟩

theorem exists_loop_inner (s : Scope) (first last : Nat) :
    ∃ span, (s.inner first last).loop = some span := by
  cases hl : s.loop <;> simp [Scope.inner, hl]

namespace Follows

variable {f g k : Cont} {F G K : Trail → Option Trail}

/-- The second of two attempts is made with the row in front of the first, and what it leaves when it
fails is taken back too. -/
theorem either (ha : s.Follows first f F) (hle : first ≤ middle) (hb : s.Follows middle g G) :
    s.Follows first
      (fun pos trail => (f pos trail).orElse fun after =>
        (g pos (trail.back s.loop.isSome after)).mapFailed (trail.back s.loop.isSome))
      fun w => (F w).or (G w) := by
  intro pos trail marks halike hlen
  refine (ha pos trail marks halike hlen).orElse fun t ht => ?_
  have hback := Scope.alike_back hlen ht
  have hceil := s.ceil_mono hle
  have hsecond := hb pos _ marks (hback.1.trans halike) (by omega)
  refine hsecond.mapFailed fun u hu => ?_
  have hkept : s.Kept (s.floor first) trail.marks u.marks :=
    (Scope.Alike.kept hback.1.symm _).trans (hu.mono (s.floor_mono hle))
  exact Scope.Alike.kept (Scope.alike_back hlen hkept).1.symm _

/-- Behind the body of a group its closing mark is written, which hides nothing from then on. -/
theorem close (hk : s.Follows last k K) (hle : first + 1 ≤ last)
    (hspans : s.Spans first last) :
    (s.within (first + 1)).Follows last
      (fun pos trail => k pos (trail.mark (Marks.closePlace (first + 1)) pos))
      fun w => K (w.mark (Marks.closePlace (first + 1)) w.head) := by
  intro pos trail marks halike hlen
  have hceil : last ≤ s.ceil last := Scope.le_ceil fun span h => (hspans span h).2
  have hlength : trail.marks.length ≤ 2 * s.ceil last := hlen
  have hput : (trail.mark (Marks.closePlace (first + 1)) pos).marks.length ≤ 2 * s.ceil last := by
    simp only [Trail.mark, Marks.length_put, Marks.closePlace]
    omega
  have hone := hk pos _ (marks.put (Marks.closePlace (first + 1)) pos)
    (Scope.alike_close halike pos) hput
  refine hone.imp fun after hkept place hlt hp => ?_
  have hclosed : place ≠ Marks.closePlace (first + 1) := fun e =>
    hp ⟨first + 1, List.mem_cons_self, e⟩
  have hhidden : ¬ s.Hides place := by
    rintro ⟨n, hn, e⟩
    exact hp ⟨n, List.mem_cons_of_mem _ hn, e⟩
  rw [hkept place hlt hhidden, Trail.mark, Marks.at?_put, if_neg hclosed]

/-- In front of the body of a group its opening mark is written, which is none of a group before. -/
theorem opening (hk : (s.within (first + 1)).Follows (first + 1) k K) (hle : first + 1 ≤ last)
    (hspans : s.Spans first last) :
    s.Follows first (fun pos trail => k pos (trail.mark (Marks.openPlace (first + 1)) pos))
      fun w => K (w.mark (Marks.openPlace (first + 1)) w.head) := by
  intro pos trail marks halike hlen
  have hceil : first + 1 ≤ s.ceil (first + 1) :=
    Scope.le_ceil fun span h => Nat.le_trans hle (hspans span h).2
  have hmono := s.ceil_mono (Nat.le_add_right first 1)
  have hput : (trail.mark (Marks.openPlace (first + 1)) pos).marks.length ≤
      2 * s.ceil (first + 1) := by
    simp only [Trail.mark, Marks.length_put, Marks.openPlace]
    omega
  have hone := hk pos _ (marks.put (Marks.openPlace (first + 1)) pos)
    ((Scope.alike_put halike _ pos).within _) hput
  refine hone.imp fun after hkept place hlt hp => ?_
  have hfloor : s.floor first ≤ first := Scope.floor_le fun span h => (hspans span h).1
  have hmono' := s.floor_mono (Nat.le_add_right first 1)
  have hplace : place < 2 * first := by omega
  have hkeeps : place < 2 * (s.within (first + 1)).floor (first + 1) := by
    show _ < 2 * s.floor (first + 1)
    omega
  have hhidden : ¬ (s.within (first + 1)).Hides place := by
    rintro ⟨n, hn, e⟩
    rcases List.mem_cons.mp hn with rfl | hn
    · simp only [Marks.closePlace] at e
      omega
    · exact hp ⟨n, hn, e⟩
  have hopened : place ≠ Marks.openPlace (first + 1) := by
    simp only [Marks.openPlace]
    omega
  rw [hkept place hkeeps hhidden, Trail.mark, Marks.at?_put, if_neg hopened]

end Follows

end Scope

/-- A loop that is not possessive, over a body that is more than a single test. -/
theorem Loop.follows_run (text : Array Char) {s : Scope} {first last : Nat} {greed : Greed}
    (least : Nat) (most : Option Nat) {body : Cont → Cont} {ways : Trail → List Trail}
    {k : Cont} {K : Trail → Option Trail} (hgreed : greed ≠ .possessive) (hle : first ≤ last)
    (hbody : ∀ k K, (s.inner first last).Follows last k K →
      (s.inner first last).Follows last (body k) fun w => (ways w).findSome? K)
    (hk : s.Follows last k K) :
    s.Follows first (Loop.run text greed least most s.loop.isSome body k) fun w =>
      (Loop.ways text greed least most ways w).findSome? K := by
  obtain ⟨span, hspan⟩ := s.exists_loop_inner first last
  cases greed with
  | greedy =>
    have hloop := Loop.follows_greedy least most hbody (hk.inner hle) (Loop.fuelFor text least) 0
      none
    exact Scope.Follows.ofInner (hloop.anywhere hspan) hle
  | lazy =>
    have hloop := Loop.follows_lazy least most hbody hk (Loop.fuelFor text least) 0 none
    exact Scope.Follows.ofInner (hloop.anywhere hspan) hle
  | possessive => exact absurd rfl hgreed

namespace Regex

variable {text : Array Char}

/-- Running an ordinary term in front of a continuation is searching its ways for the first one that
can be continued. -/
theorem follows_run {r : Regex} {first last : Nat} (hr : r.Ordinary) (hn : r.Numbered first last)
    {s : Scope} {next : Lead} {k : Cont} {K : Trail → Option Trail} (hnext : next.Guards text K)
    (hk : s.Follows last k K) (hspans : s.Spans first last) :
    s.Follows first (r.run text s.loop.isSome next k) fun w => (r.ways text w).findSome? K := by
  induction r generalizing first last s next k K with
  | empty =>
    obtain rfl : first = last := hn
    intro pos trail marks halike hlen
    have hone := hk pos trail marks halike hlen
    simp only [run, ways]
    rw [List.findSome?_singleton]
    exact hone
  | one test =>
    obtain rfl : first = last := hn
    intro pos trail marks halike hlen
    simp only [run, ways]
    split
    · rw [List.findSome?_singleton]
      exact hk (pos + 1) trail marks halike hlen
    · exact Scope.Alike.kept (Scope.Alike.refl s _) _
  | place anchor =>
    obtain rfl : first = last := hn
    intro pos trail marks halike hlen
    simp only [run, ways]
    split
    · rw [List.findSome?_singleton]
      exact hk pos trail marks halike hlen
    · exact Scope.Alike.kept (Scope.Alike.refl s _) _
  | seq a b iha ihb =>
    obtain ⟨middle, ha, hb⟩ := hn
    have hbrun := ihb hr.2 hb hnext hk (hspans.mono ha.le (Nat.le_refl _))
    have harun := iha hr.1 ha (b.guards_lead hnext) hbrun (hspans.mono (Nat.le_refl _) hb.le)
    intro pos trail marks halike hlen
    simp only [run, ways]
    rw [findSome?_flatMap]
    exact harun pos trail marks halike hlen
  | alternative r ih =>
    have hrun := ih hr hn (Lead.Guards.none text K) hk hspans
    intro pos trail marks halike hlen
    simp only [run, ways]
    split
    · exact hrun pos (trail.move pos) marks halike hlen
    · next hadmits =>
      rw [r.ways_of_not_admits (w := ⟨pos, marks⟩) (by simpa using hadmits)]
      exact Scope.Alike.kept (Scope.Alike.refl s _) _
  | either a b iha ihb =>
    obtain ⟨middle, ha, hb⟩ := hn
    have harun := iha hr.1 ha (Lead.Guards.none text K) (hk.mono hb.le)
      (hspans.mono (Nat.le_refl _) hb.le)
    have hbrun := ihb hr.2 hb (Lead.Guards.none text K) hk (hspans.mono ha.le (Nat.le_refl _))
    intro pos trail marks halike hlen
    simp only [run, ways]
    rw [List.findSome?_append]
    exact harun.either ha.le hbrun pos trail marks halike hlen
  | group number r ih =>
    obtain ⟨rfl, hn⟩ := hn
    have hclose := hk.close hn.le hspans
    have hbody := ih hr hn (Lead.Guards.none text _) hclose
      (hspans.mono (Nat.le_add_right first 1) (Nat.le_refl _))
    intro pos trail marks halike hlen
    simp only [run, ways]
    rw [List.findSome?_map]
    exact hbody.opening hn.le hspans pos trail marks halike hlen
  | loop greed least most r ih =>
    have hle : first ≤ last := Numbered.le hn
    cases ht : r.test? with
    | some test =>
      obtain rfl := eq_one_of_test? ht
      obtain rfl : first = last := hn
      have hrun := Stretch.follows_run greed least most test hk hnext
      intro pos trail marks halike hlen
      simp only [run, ways, test?]
      exact hrun pos trail marks halike hlen
    | none =>
      have hgreed : greed ≠ .possessive := by
        rintro rfl
        have hone := hr.2.2 rfl
        rw [ht] at hone
        cases hone
      obtain ⟨span, hspan⟩ := s.exists_loop_inner first last
      have hbody : ∀ k K, (s.inner first last).Follows last k K →
          (s.inner first last).Follows last (fun pos trail => r.run text true none k pos trail)
            fun w => (r.ways text w).findSome? K := by
        intro k K hk
        have hrun := ih (s := s.inner first last) hr.1 hn (Lead.Guards.none text K) hk hspans.inner
        rw [hspan] at hrun
        exact hrun.anywhere hspan
      have hloop := Loop.follows_run text least most hgreed hle hbody hk
      intro pos trail marks halike hlen
      have hinside : (s.loop.isSome || greed != .possessive) = true := by
        rw [bne_iff_ne.mpr hgreed, Bool.or_true]
      simp only [run, ways, ht, hinside]
      exact hloop pos trail marks halike hlen
  | atomic | look | again | ifGroup => exact hr.elim

end Regex

end RequestRouter
