import Mathlib.Data.List.TakeWhile
import RequestRouter.Routing.Route

/-!
# References by name

A reference is cut at its separator, the two sides are tested, and only then is the white space
around them dropped. So what is read has no white space around its names and no separator in them,
and it is read back from the form that it is displayed in, unless a side was nothing but white
space: its name is then empty, and the displayed form is refused (`HandlerRef.ofText_displayName`).
-/

namespace RequestRouter

/-! ## White space at the ends -/

namespace Text

/-- All of a text is white space. -/
def Blank (text : List Char) : Prop := ∀ c ∈ text, isBlank c.toNat = true

/-- No white space stands at the ends of a text. -/
structure Trimmed (text : List Char) : Prop where
  first : ∀ c ∈ text.head?, isBlank c.toNat = false
  last : ∀ c ∈ text.getLast?, isBlank c.toNat = false

variable {text : List Char}

theorem first_trimLeft (text : List Char) :
    ∀ c ∈ (trimLeft text).head?, isBlank c.toNat = false := by
  intro c hc
  have hhead := List.head?_dropWhile_not (fun c => isBlank c.toNat) text
  rw [trimLeft] at hc
  rw [Option.mem_def.mp hc] at hhead
  exact hhead

theorem exists_trimLeft (text : List Char) :
    ∃ before, Blank before ∧ text = before ++ trimLeft text :=
  ⟨text.takeWhile fun c => isBlank c.toNat,
    fun _ hc => List.mem_takeWhile_imp (p := fun c : Char => isBlank c.toNat) hc,
    List.takeWhile_append_dropWhile.symm⟩

theorem trimLeft_eq_self (h : ∀ c ∈ text.head?, isBlank c.toNat = false) :
    trimLeft text = text := by
  cases text with
  | nil => rfl
  | cons c rest => simp [trimLeft, h c rfl]

/-- What is trimmed off a text is white space. -/
theorem exists_trim (text : List Char) :
    ∃ before after, Blank before ∧ Blank after ∧ text = before ++ (trim text ++ after) := by
  obtain ⟨before, hbefore, htext⟩ := exists_trimLeft text
  obtain ⟨after, hafter, hrest⟩ := exists_trimLeft (trimLeft text).reverse
  refine ⟨before, after.reverse, hbefore, fun c hc => hafter c (List.mem_reverse.mp hc), ?_⟩
  rw [trim, ← List.reverse_append, ← hrest, List.reverse_reverse]
  exact htext

theorem trimmed_trim (text : List Char) : Trimmed (trim text) where
  first := by
    intro c hc
    obtain ⟨after, -, hrest⟩ := exists_trimLeft (trimLeft text).reverse
    -- what is left begins where the text does that has been trimmed on its left
    have hprefix : trim text <+: trimLeft text := by
      refine ⟨after.reverse, ?_⟩
      rw [trim, ← List.reverse_append, ← hrest, List.reverse_reverse]
    obtain ⟨others, hothers⟩ := List.head?_eq_some_iff.mp hc
    rw [hothers] at hprefix
    obtain ⟨behind, hbehind⟩ := hprefix
    apply first_trimLeft text
    rw [← hbehind]
    rfl
  last := by
    intro c hc
    rw [trim, List.getLast?_reverse] at hc
    exact first_trimLeft _ c hc

theorem trim_eq_self (h : Trimmed text) : trim text = text := by
  have hlast : ∀ c ∈ text.reverse.head?, isBlank c.toNat = false := by
    intro c hc
    rw [List.head?_reverse] at hc
    exact h.last c hc
  rw [trim, trimLeft_eq_self h.first, trimLeft_eq_self hlast, List.reverse_reverse]

theorem trim_subset (text : List Char) : trim text ⊆ text := by
  intro c hc
  obtain ⟨before, after, -, -, htext⟩ := exists_trim text
  rw [htext]
  exact List.mem_append_right _ (List.mem_append_left _ hc)

/-- Only white space is trimmed to nothing. -/
theorem trim_eq_nil_iff : trim text = [] ↔ Blank text := by
  constructor
  · intro h c hc
    obtain ⟨before, after, hbefore, hafter, htext⟩ := exists_trim text
    rw [htext, h, List.nil_append] at hc
    exact (List.mem_append.mp hc).elim (hbefore c) (hafter c)
  · intro h
    have hleft : trimLeft text = [] := List.dropWhile_eq_nil_iff.mpr h
    rw [trim, hleft]
    rfl

section Mark

variable {mark : Char} {front : List Char} (h : mark ∉ front)

include h

theorem ne_mark : ∀ c ∈ front, (c != mark) = true := by
  intro c hc
  rw [bne_iff_ne]
  rintro rfl
  exact h hc

/-- The side in front of the first mark, and what stands from there on. -/
theorem takeWhile_mark (rest : List Char) :
    (front ++ mark :: rest).takeWhile (· != mark) = front ∧
      (front ++ mark :: rest).dropWhile (· != mark) = mark :: rest := by
  rw [List.takeWhile_append_of_pos (ne_mark h), List.dropWhile_append_of_pos (ne_mark h)]
  simp

end Mark

end Text

/-! ## Reading a reference -/

namespace HandlerRef

/-- A text is cut at its only separator into two texts that are not empty. -/
structure CutsInto (text front back : List Char) : Prop where
  eq : text = front ++ separator :: back
  front_ne : front ≠ []
  back_ne : back ≠ []
  not_mem_front : separator ∉ front
  not_mem_back : separator ∉ back

variable {text : String} {front back : List Char}

/-- A text with a separator is judged by its two sides. -/
theorem ofText_eq (h : separator ∉ front) (htext : text.toList = front ++ separator :: back) :
    ofText text =
      if front.isEmpty || back.isEmpty || back.contains separator then
        .error (.configuration (.badReference text))
      else .ok (.method (String.ofList (Text.trim front)) (String.ofList (Text.trim back))) := by
  obtain ⟨hfront, hback⟩ := Text.takeWhile_mark h back
  simp only [ofText, htext, hfront, hback]

theorem ofText_of_cutsInto (h : CutsInto text.toList front back) : ofText text =
    .ok (.method (String.ofList (Text.trim front)) (String.ofList (Text.trim back))) := by
  have hback : back.contains separator = false := by simpa using h.not_mem_back
  rw [ofText_eq h.not_mem_front h.eq, List.isEmpty_eq_false_iff.mpr h.front_ne,
    List.isEmpty_eq_false_iff.mpr h.back_ne, hback]
  rfl

/-- What cannot be cut like that is refused. -/
theorem cutsInto_or_refused (text : String) : (∃ front back, CutsInto text.toList front back) ∨
    ofText text = .error (.configuration (.badReference text)) := by
  by_cases hmem : separator ∈ text.toList
  · obtain ⟨front, back, htext, hfront⟩ := List.eq_append_cons_of_mem hmem
    have hread := ofText_eq hfront htext
    split at hread
    · exact .inr hread
    · next hsides =>
      simp only [Bool.or_eq_true, not_or, Bool.not_eq_true, List.isEmpty_eq_false_iff] at hsides
      obtain ⟨⟨hfrontne, hbackne⟩, hback⟩ := hsides
      exact .inl ⟨front, back, htext, hfrontne, hbackne, hfront, by simpa using hback⟩
  · right
    have hnone : text.toList.dropWhile (· != separator) = [] :=
      List.dropWhile_eq_nil_iff.mpr (Text.ne_mark hmem)
    simp only [ofText, hnone]

/-- Names without white space around them are read back, if neither of them is empty. -/
theorem ofText_displayName_of_trimmed {typeName methodName : List Char}
    (htype : Text.Trimmed typeName) (hmethod : Text.Trimmed methodName)
    (hfree : separator ∉ typeName) (hfree' : separator ∉ methodName) :
    let ref := HandlerRef.method (String.ofList typeName) (String.ofList methodName)
    ofText ref.displayName = if typeName = [] ∨ methodName = [] then
      .error (.configuration (.badReference ref.displayName)) else .ok ref := by
  intro ref
  have hshown : ref.displayName.toList = typeName ++ separator :: methodName := by
    simp [ref, displayName, separator]
  have hcontains : methodName.contains separator = false := by simpa using hfree'
  rw [ofText_eq hfree hshown, Text.trim_eq_self htype, Text.trim_eq_self hmethod, hcontains]
  simp only [Bool.or_false, Bool.or_eq_true, List.isEmpty_iff]
  rfl

/-- A route is given the reference that its text is read as. -/
theorem handler_of_make {plan : RoutePlan} {route : Route}
    (hplan : plan.handler = .callee (.value (.text text))) (h : Route.make plan = .ok route) :
    ofText text = .ok route.handler := by
  rw [Route.make, hplan, ofTarget] at h
  cases hread : ofText text with
  | error fault =>
    rw [hread] at h
    cases h
  | ok ref =>
    rw [hread] at h
    simp only [bind, Except.bind] at h
    split at h
    · cases h
    · cases h
      rfl

/-- A text is refused, and no route is made from it, unless it is cut at its only separator into two
texts that are not empty. Otherwise its names have no white space around them and no separator in
them. Such a name is empty if there was only white space on its side. The reference is read back
from the form that it is displayed in, which is refused if one of the names is empty. -/
theorem ofText_displayName (text : String) :
    match ofText text with
    | .error fault => fault = .configuration (.badReference text) ∧
      (∀ front back, ¬ CutsInto text.toList front back) ∧
      ∀ plan : RoutePlan, plan.handler = .callee (.value (.text text)) →
        Route.make plan = .error fault
    | .ok ref => ∃ front back typeName methodName, CutsInto text.toList front back ∧
      ref = .method (String.ofList typeName) (String.ofList methodName) ∧
      (Text.Trimmed typeName ∧ separator ∉ typeName ∧ (typeName = [] ↔ Text.Blank front)) ∧
      (Text.Trimmed methodName ∧ separator ∉ methodName ∧ (methodName = [] ↔ Text.Blank back)) ∧
      (ofText ref.displayName = if typeName = [] ∨ methodName = [] then
        .error (.configuration (.badReference ref.displayName)) else .ok ref) ∧
      ∀ (plan : RoutePlan) (route : Route), plan.handler = .callee (.value (.text text)) →
        Route.make plan = .ok route → route.handler = ref := by
  rcases cutsInto_or_refused text with ⟨front, back, hcuts⟩ | hrefused
  · have hread := ofText_of_cutsInto hcuts
    have htype : separator ∉ Text.trim front := fun hmem =>
      hcuts.not_mem_front (Text.trim_subset front hmem)
    have hmethod : separator ∉ Text.trim back := fun hmem =>
      hcuts.not_mem_back (Text.trim_subset back hmem)
    rw [hread]
    refine ⟨front, back, Text.trim front, Text.trim back, hcuts, rfl,
      ⟨Text.trimmed_trim front, htype, Text.trim_eq_nil_iff⟩,
      ⟨Text.trimmed_trim back, hmethod, Text.trim_eq_nil_iff⟩, ?_, ?_⟩
    · exact ofText_displayName_of_trimmed (Text.trimmed_trim front) (Text.trimmed_trim back) htype
        hmethod
    · intro plan route hplan hmake
      have hhandler := handler_of_make hplan hmake
      rw [hread] at hhandler
      exact (Except.ok.inj hhandler).symm
  · rw [hrefused]
    refine ⟨rfl, fun front back hcuts => ?_, fun plan hplan => ?_⟩
    · rw [ofText_of_cutsInto hcuts] at hrefused
      cases hrefused
    · rw [Route.make, hplan, ofTarget, hrefused]
      rfl

/-- White space on one side is taken for a name, which is then empty. -/
theorem ofText_displayName_blank : ofText "A@ " = .ok (.method "A" "") ∧
    ofText (HandlerRef.method "A" "").displayName =
      .error (.configuration (.badReference "A@")) := by
  have hread : ofText "A@ " = .ok (.method "A" "") := rfl
  have hspec := ofText_displayName "A@ "
  rw [hread] at hspec
  obtain ⟨-, -, typeName, methodName, -, href, -, -, hback, -⟩ := hspec
  refine ⟨hread, hback.trans (if_pos (.inr ?_))⟩
  injection href with htype hmethod
  rw [← String.toList_ofList (l := methodName), ← hmethod]
  rfl

end HandlerRef

end RequestRouter
