import RequestRouter.Proofs.Reading.Roles

/-!
# The count of parentheses agrees with the grammar

A fragment is told to be a single group by a scan over its characters, `spans`, which knows escapes
and bracketed classes but no comments. `spans_of_read` says that over each construct other than a
comment the scan counts what the reader does to the levels. So on a run without comments the scan
ends with the last unit if the last construct closes the level that the run began in
(`Draft.spans_iff_closes`), and a fragment without comments that passes the scan is one level from
its first construct to its last (`Expression.constructs_of_isSingleGroup`).
-/

namespace RequestRouter

namespace Role

variable {depth : Nat} {roles more : List Role}

/-- What neither opens nor closes is not counted. -/
theorem encloses_idle (h : ∀ role ∈ roles, role ≠ .opens ∧ role ≠ .closes) :
    encloses depth (roles ++ more) = encloses depth more := by
  induction roles with
  | nil => rfl
  | cons role roles ih =>
    have hrest := ih fun next hnext => h next (List.mem_cons_of_mem _ hnext)
    obtain ⟨hopens, hcloses⟩ := h role List.mem_cons_self
    cases role with
    | opens => exact absurd rfl hopens
    | closes => exact absurd rfl hcloses
    | _ => exact hrest

theorem encloses_units {role : Role} (hopens : role ≠ .opens) (hcloses : role ≠ .closes)
    (units : Units) (depth : Nat) (more : List Role) :
    encloses depth (units.flatMap (Lexeme.roles role) ++ more) = encloses depth more := by
  refine encloses_idle fun found hfound => ?_
  obtain ⟨unit, -, hunit⟩ := List.mem_flatMap.mp hfound
  cases unit with
  | char c =>
    obtain rfl := List.mem_singleton.mp hunit
    exact ⟨hopens, hcloses⟩
  | pair c =>
    obtain rfl : found = .escaped := by simpa [Lexeme.roles] using hunit
    exact ⟨by decide, by decide⟩

end Role

namespace Units

/-- The scan over units. -/
def spans : ScanMode → (depth : Nat) → Units → Bool
  | _, _, [] => false
  | mode, depth, .pair _ :: rest => spans (if mode = .outside then .outside else .inside) depth rest
  | .outside, depth, .char c :: rest =>
    if c == '[' then spans .opened depth rest
    else if c == '(' then spans .outside (depth + 1) rest
    else if c == ')' then
      if depth == 1 then rest.isEmpty else spans .outside (depth - 1) rest
    else spans .outside depth rest
  | mode, depth, .char c :: rest => spans (mode.afterMember c) depth rest

theorem isEmpty_scan (mode : ScanMode) (units : Units) :
    (scan mode units).1.isEmpty = units.isEmpty := by
  rcases units with _ | ⟨_ | _, _⟩ <;> rfl

theorem spans_eq_encloses (mode : ScanMode) (depth : Nat) (units : Units) :
    spans mode depth units = Role.encloses depth (scan mode units).1 := by
  fun_induction spans mode depth units with
  | case1 => rfl
  | case2 mode depth c rest ih => exact ih
  | case3 depth c rest hclass ih =>
    obtain rfl := eq_of_beq hclass
    exact ih
  | case4 depth c rest hclass hopen ih =>
    obtain rfl := eq_of_beq hopen
    exact ih
  | case5 depth c rest hclass hopen hclose hdepth =>
    obtain rfl := eq_of_beq hclose
    rw [← isEmpty_scan .outside rest]
    exact (if_pos hdepth).symm
  | case6 depth c rest hclass hopen hclose hdepth ih =>
    obtain rfl := eq_of_beq hclose
    rw [ih]
    exact (if_neg hdepth).symm
  | case7 depth c rest hclass hopen hclose ih =>
    rw [ih]
    simp [scan, ScanMode.seeUnit, ScanMode.see, hclass, hopen, hclose, Role.encloses]
  | case8 mode depth c rest hmode ih =>
    obtain ⟨hcount, hafter⟩ := encloses_see hmode c depth (scan (mode.see c).2 rest).1
    rw [ih, ← hafter]
    exact hcount.symm

/-- The scan over characters is the scan over units. -/
theorem spans_ofChars {text : List Char} (mode : ScanMode) (depth : Nat)
    (h : (ofChars text).2 = false) :
    RequestRouter.spans mode depth text = spans mode depth (ofChars text).1 := by
  rw [RequestRouter.spans_eq_encloses, scanRoles_eq_scan mode h, spans_eq_encloses]

end Units

namespace Construct

/-- What the roles of a header come to. -/
theorem encloses_header (header : Opening) (units : Units) (depth : Nat) (more : List Role) :
    Role.encloses depth ((Construct.opening header).roles units ++ more) =
      if header.descends then Role.encloses (depth + 1) more
      else if depth = 0 then more.isEmpty else Role.encloses depth more := by
  have hidle := Role.encloses_units (by decide : Role.other ≠ .opens) (by decide)
  cases header with
  | comment | flags | again =>
    simp only [roles, Opening.roles, List.cons_append, List.append_assoc, Role.encloses, hidle]
    simp [Opening.descends]
  | test =>
    simp only [roles, Opening.roles, List.cons_append, List.append_assoc, Role.encloses, hidle]
    simp [Opening.descends]
  | _ => exact hidle _ (depth + 1) more

/-- What the roles of a construct come to at a level that is open. -/
theorem encloses_roles (construct : Construct) (units : Units) (depth : Nat) (more : List Role) :
    Role.encloses (depth + 1) (construct.roles units ++ more) =
      if construct = .close then if depth = 0 then more.isEmpty else Role.encloses depth more
      else Role.encloses (if construct.opens then depth + 2 else depth + 1) more := by
  cases construct with
  | opening header =>
    rw [encloses_header]
    cases hdescends : header.descends <;> simp [opens, hdescends]
  | close => simp [roles, Role.encloses]
  | oneOf =>
    have hidle := Role.encloses_units (by decide : Role.member ≠ .opens) (by decide)
    simp only [roles, List.cons_append, List.append_assoc, Role.encloses, hidle]
    simp [opens]
  | _ => exact Role.encloses_units (by decide) (by decide) units (depth + 1) more

variable {mode : Mode} {unit : Lexeme} {rest after : Units} {construct : Construct}

theorem spans_eq_of_read (h : read mode unit rest = .ok (construct, after))
    (hcomment : construct.isComment = false)
    (hname : ∀ name, construct = .opening (.test name) → ∀ c ∈ name, c ∉ brackets) (depth : Nat) :
    ∃ units, Units.spans .outside depth (unit :: rest) =
      Role.encloses depth (construct.roles units ++ (Units.scan .outside after).1) := by
  obtain ⟨front, hsplit, hfront⟩ := scan_of_read h hcomment hname
  refine ⟨front, ?_⟩
  rw [hsplit, Units.spans_eq_encloses, Units.scan_append_of hfront rfl]

/-- Over a construct that is no comment the scan counts the levels that the reader has. -/
theorem spans_of_read (h : read mode unit rest = .ok (construct, after))
    (hcomment : construct.isComment = false)
    (hname : ∀ name, construct = .opening (.test name) → ∀ c ∈ name, c ∉ brackets) (depth : Nat) :
    Units.spans .outside (depth + 1) (unit :: rest) =
      if construct = .close then if depth = 0 then after.isEmpty
        else Units.spans .outside depth after
      else Units.spans .outside (if construct.opens then depth + 2 else depth + 1) after := by
  obtain ⟨units, hspans⟩ := spans_eq_of_read h hcomment hname (depth + 1)
  rw [hspans, encloses_roles, Units.isEmpty_scan, Units.spans_eq_encloses, Units.spans_eq_encloses]

theorem unit_of_read_opening {header : Opening}
    (h : read mode unit rest = .ok (.opening header, after)) : unit = .char '(' := by
  unfold read at h
  split at h
  · obtain ⟨_, -, h⟩ := exists_of_map_ok h
    cases h
  · rfl
  · cases h
  · cases h
  · split at h
    · cases h
    · split at h
      · cases h
      · unfold readChar at h
        split at h
        · cases h
        · cases h
        · cases h
        · obtain ⟨_, -, h⟩ := exists_of_map_ok h
          cases h
        · obtain ⟨found, -, h⟩ := exists_of_map_ok h
          cases found <;> cases h

/-- Over a header at the front of a text. -/
theorem spans_of_read_opening {header : Opening}
    (h : read mode unit rest = .ok (.opening header, after)) (hcomment : header ≠ .comment)
    (hname : ∀ name, header = .test name → ∀ c ∈ name, c ∉ brackets) :
    Units.spans .outside 0 (unit :: rest) =
      if header.descends then Units.spans .outside 1 after else after.isEmpty := by
  have hcomment : isComment (.opening header) = false := by
    cases header with
    | comment => exact absurd rfl hcomment
    | _ => rfl
  obtain ⟨units, hspans⟩ := spans_eq_of_read h hcomment
    (fun name heq => hname name (opening.inj heq)) 0
  rw [hspans, encloses_header, Units.isEmpty_scan, Units.spans_eq_encloses]
  rfl

end Construct

/-! ## Fragments that pass the scan -/

namespace Construct

/-- The constructs are a single one in parentheses: it is complete with its header, or its header
opens a level and the last construct closes it. -/
inductive Enclosed : List Construct → Prop
  | complete {header} (hheader : header.descends = false) : Enclosed [.opening header]
  | level {header body} (hheader : header.descends = true) (hbody : Balanced body) :
      Enclosed (.opening header :: (body ++ [.close]))

/-- The constructs close `depth` levels that are open before them, and one more with the last. -/
def Closes (depth : Nat) (constructs : List Construct) : Prop :=
  ∃ body, constructs = body ++ [.close] ∧ Nests depth body

variable {depth : Nat} {construct : Construct} {rest : List Construct}

theorem not_closes_nil : ¬ Closes depth [] := by
  rintro ⟨body, h, -⟩
  exact List.cons_ne_nil _ _ (List.append_eq_nil_iff.mp h.symm).2

/-- The first construct is the last, or the others go on from what it does. -/
theorem closes_cons_iff : Closes depth (construct :: rest) ↔
    construct = .close ∧ rest = [] ∧ depth = 0 ∨
      ∃ body, rest = body ++ [.close] ∧ Nests depth (construct :: body) := by
  constructor
  · rintro ⟨_ | ⟨first, body⟩, hsplit, hbody⟩
    · cases hsplit
      exact .inl ⟨rfl, rfl, hbody⟩
    · cases hsplit
      exact .inr ⟨body, rfl, hbody⟩
  · rintro (⟨rfl, rfl, rfl⟩ | ⟨body, rfl, hbody⟩)
    · exact ⟨[], rfl, rfl⟩
    · exact ⟨construct :: body, rfl, hbody⟩

theorem closes_close_zero : Closes 0 (.close :: rest) ↔ rest = [] := by
  rw [closes_cons_iff]
  constructor
  · rintro (⟨-, hrest, -⟩ | ⟨body, -, hbody⟩)
    · exact hrest
    · rw [Nests, if_pos rfl] at hbody
      obtain ⟨inner, hinner, -⟩ := hbody
      cases hinner
  · intro hrest
    exact .inl ⟨rfl, hrest, rfl⟩

theorem closes_close_succ : Closes (depth + 1) (.close :: rest) ↔ Closes depth rest := by
  rw [closes_cons_iff]
  constructor
  · rintro (⟨-, -, hdepth⟩ | ⟨body, hsplit, hbody⟩)
    · cases hdepth
    · rw [Nests, if_pos rfl] at hbody
      obtain ⟨_, ⟨⟩, hbody⟩ := hbody
      exact ⟨body, hsplit, hbody⟩
  · rintro ⟨body, hsplit, hbody⟩
    refine .inr ⟨body, hsplit, ?_⟩
    rw [Nests, if_pos rfl]
    exact ⟨depth, rfl, hbody⟩

theorem closes_cons (hclose : construct ≠ .close) : Closes depth (construct :: rest) ↔
    Closes (if construct.opens then depth + 1 else depth) rest := by
  rw [closes_cons_iff]
  constructor
  · rintro (⟨heq, -⟩ | ⟨body, hsplit, hbody⟩)
    · exact absurd heq hclose
    · rw [Nests, if_neg hclose] at hbody
      exact ⟨body, hsplit, hbody⟩
  · rintro ⟨body, hsplit, hbody⟩
    refine .inr ⟨body, hsplit, ?_⟩
    rw [Nests, if_neg hclose]
    exact hbody

theorem enclosed_opening_iff {header : Opening} : Enclosed (.opening header :: rest) ↔
    if header.descends then Closes 0 rest else rest = [] := by
  constructor
  · intro h
    cases h with
    | complete hheader => simp [hheader]
    | level hheader hbody =>
      rw [if_pos hheader]
      exact ⟨_, rfl, nests_zero_iff.mpr hbody⟩
  · intro h
    cases hheader : header.descends with
    | true =>
      rw [if_pos hheader] at h
      obtain ⟨body, rfl, hbody⟩ := h
      exact .level hheader (nests_zero_iff.mp hbody)
    | false =>
      rw [hheader] at h
      obtain rfl : rest = [] := h
      exact .complete hheader

end Construct

namespace Draft

/-- A run to the end of a text takes constructs off it as long as there are units. -/
theorem Reads.eq_nil_iff {d e : Draft} {units : Units} {constructs : List Construct}
    (h : Reads d units constructs e []) : units = [] ↔ constructs = [] := by
  cases h <;> simp

/-- On a run without comments the scan ends with the last unit if the last construct closes the
level that the run began in. -/
theorem spans_iff_closes {d e : Draft} {units left : Units} {constructs : List Construct}
    {depth : Nat} (h : Reads d units constructs e left) (hleft : left = [])
    (hdepth : d.outer.length = depth + 1)
    (hcomments : ∀ construct ∈ constructs, construct.isComment = false) :
    Units.spans .outside (depth + 1) units = true ↔ Construct.Closes depth constructs := by
  induction h generalizing depth with
  | done =>
    subst hleft
    simp [Units.spans, Construct.not_closes_nil]
  | @next d unit rest construct after d₁ constructs e left hread htake hrest ih =>
    have hcomment := hcomments construct List.mem_cons_self
    have hothers := fun c hc => hcomments c (List.mem_cons_of_mem _ hc)
    have hname : ∀ name, construct = .opening (.test name) → ∀ c ∈ name, c ∉ brackets := by
      rintro name rfl
      exact not_mem_brackets_of_take htake
    rw [Construct.spans_of_read hread hcomment hname]
    by_cases hclose : construct = .close
    · subst hclose
      obtain ⟨around, outer, hd, rfl⟩ := shape_of_take htake
      rw [if_pos rfl]
      cases depth with
      | zero =>
        subst hleft
        rw [if_pos rfl, List.isEmpty_iff, Construct.closes_close_zero, hrest.eq_nil_iff]
      | succ depth =>
        have hlength : outer.length = depth + 1 := by
          rw [hd] at hdepth
          exact Nat.succ.inj hdepth
        rw [if_neg (Nat.succ_ne_zero depth), Construct.closes_close_succ]
        exact ih hleft hlength hothers
    · have hlevels : d₁.outer.length = (if construct.opens then depth + 1 else depth) + 1 := by
        cases hopens : construct.opens with
        | true =>
          rw [outer_of_take_opens htake hopens]
          simp [hdepth]
        | false =>
          rw [outer_of_take htake hopens hclose]
          simp [hdepth]
      rw [if_neg hclose, Construct.closes_cons hclose, ← ih hleft hlevels hothers]
      cases construct.opens <;> rfl

theorem reads_append_iff {d e : Draft} {units left : Units} {front back : List Construct} :
    Reads d units (front ++ back) e left ↔
      ∃ d' between, Reads d units front d' between ∧ Reads d' between back e left := by
  constructor
  · intro h
    induction front generalizing d units with
    | nil => exact ⟨d, units, .done, h⟩
    | cons construct front ih =>
      cases h with
      | next hread htake hrest =>
        obtain ⟨d', between, hfront, hback⟩ := ih hrest
        exact ⟨d', between, .next hread htake hfront, hback⟩
  · rintro ⟨d', between, hfront, hback⟩
    exact hfront.trans hback

end Draft

/-- A fragment that passes the scan ends with a closing parenthesis. -/
theorem Units.getLast?_of_spans {units : Units} {mode : ScanMode} {depth : Nat}
    (h : Units.spans mode depth units = true) : units.getLast? = some (.char ')') := by
  induction units generalizing mode depth with
  | nil => cases h
  | cons unit rest ih =>
    have hmore : ∀ {mode depth}, Units.spans mode depth rest = true →
        (unit :: rest).getLast? = some (.char ')') := by
      intro mode depth hrest
      have hlast := ih hrest
      rw [List.getLast?_cons, hlast]
      rfl
    cases unit with
    | pair c => exact hmore h
    | char c =>
      cases mode with
      | outside =>
        unfold Units.spans at h
        split at h
        · exact hmore h
        · split at h
          · exact hmore h
          · split at h
            · next hclose =>
              obtain rfl := eq_of_beq hclose
              split at h
              · obtain rfl := List.isEmpty_iff.mp h
                rfl
              · exact hmore h
            · exact hmore h
      | opened | negated | inside => exact hmore h

/-- The first unit is a character other than a backslash if the text begins with that character. -/
theorem Units.head?_ofChars (text : List Char) {c : Char} (hc : c ≠ '\\') :
    (ofChars text).1.head? = some (.char c) ↔ text.head? = some c := by
  fun_cases ofChars text <;> simp_all [eq_comm]

namespace Expression

/-- A fragment without comments passes the scan if it is a single construct in parentheses. -/
theorem isSingleGroup_iff_of_draft {fragment : List Char} {d : Draft}
    (hdraft : draft (Units.ofChars fragment).1 = .ok d) (hlone : (Units.ofChars fragment).2 = false)
    (hcomments : ∀ construct ∈ constructs fragment, construct.isComment = false) :
    isSingleGroup fragment = true ↔ Construct.Enclosed (constructs fragment) := by
  have hreads := reads_of_draft hdraft
  have hhead := Units.head?_ofChars fragment (by decide : '(' ≠ '\\')
  rw [isSingleGroup, Bool.and_eq_true, beq_iff_eq, Units.spans_ofChars _ _ hlone, ← hhead]
  generalize constructs fragment = found at hreads hcomments
  generalize (Units.ofChars fragment).1 = units at hreads
  cases hreads with
  | done => exact ⟨fun h => (nomatch h.1), fun h => (nomatch h)⟩
  | @next _ unit rest construct after d₁ others _ _ hread htake hrest =>
    by_cases hunit : unit = .char '('
    · subst hunit
      obtain ⟨⟨header, left⟩, -, heq⟩ := exists_of_map_ok hread
      cases heq
      have hcomment : header ≠ .comment := by
        rintro rfl
        cases hcomments _ List.mem_cons_self
      have hname : ∀ name, header = .test name → ∀ c ∈ name, c ∉ brackets := by
        rintro name rfl
        exact Draft.not_mem_brackets_of_take htake
      have hothers := fun c hc => hcomments c (List.mem_cons_of_mem _ hc)
      rw [List.head?_cons, and_iff_right rfl,
        Construct.spans_of_read_opening hread hcomment hname, Construct.enclosed_opening_iff]
      cases hdescends : header.descends with
      | true =>
        have hdepth : d₁.outer.length = 1 := by
          rw [Draft.outer_of_take_opens htake hdescends]
          rfl
        exact Draft.spans_iff_closes hrest rfl hdepth hothers
      | false => exact List.isEmpty_iff.trans hrest.eq_nil_iff
    · constructor
      · rintro ⟨hfirst, -⟩
        exact absurd (Option.some.inj hfirst) hunit
      · intro h
        cases h <;> exact absurd (Construct.unit_of_read_opening hread) hunit

/-- A fragment without comments that passes the scan is one level from its first construct, which
opens it, to its last. -/
theorem constructs_of_isSingleGroup {fragment : List Char} {d : Draft}
    (hdraft : draft (Units.ofChars fragment).1 = .ok d) (hlone : (Units.ofChars fragment).2 = false)
    (hsingle : isSingleGroup fragment = true)
    (hcomments : ∀ construct ∈ constructs fragment, construct.isComment = false)
    (hflags : ∀ on, (constructs fragment).head? ≠ some (.opening (.flags on))) :
    ∃ header body, constructs fragment = .opening header :: (body ++ [.close]) ∧
      header.descends = true ∧ Construct.Balanced body := by
  have hreads := reads_of_draft hdraft
  have henclosed := (isSingleGroup_iff_of_draft hdraft hlone hcomments).mp hsingle
  generalize constructs fragment = found at hreads henclosed hcomments hflags
  generalize (Units.ofChars fragment).1 = units at hreads
  cases henclosed with
  | level hheader hbody => exact ⟨_, _, rfl, hheader, hbody⟩
  | @complete header hheader =>
    cases header with
    | comment => cases hcomments _ List.mem_cons_self
    | flags on => exact absurd rfl (hflags on)
    | again name =>
      cases hreads with
      | next _ htake _ => cases htake
    | _ => cases hheader

/-- A fragment that is an expression and has neither a comment nor a flag for white space to be
skipped passes the scan if it is a single construct in parentheses. The scan gives every character
the role that it has for the reader, and counts these roles; the constructs cover the fragment from
end to end. -/
theorem isSingleGroup_iff_enclosed {fragment : List Char} {e : Expression}
    (hread : read fragment = .ok e) (hcomment : .opening .comment ∉ constructs fragment)
    (hverbose : ∀ construct ∈ constructs fragment, construct.setsVerbose = false) :
    (isSingleGroup fragment = true ↔ Construct.Enclosed (constructs fragment)) ∧
      scanRoles .outside fragment = roles fragment ∧
      isSingleGroup fragment = (fragment.head? == some '(' && Role.encloses 0 (roles fragment)) ∧
      (cover fragment).map Prod.fst = constructs fragment ∧
      Units.chars ((cover fragment).flatMap Prod.snd) = fragment := by
  obtain ⟨hlone, d, hdraft, -⟩ := read_eq_ok_iff.mp hread
  have hreads := reads_of_draft hdraft
  have hcomments : ∀ construct ∈ constructs fragment, construct.isComment = false := by
    intro construct hmem
    have hremark := Draft.not_remark_of_reads hreads (Draft.skipsNothing_start _) hverbose
    cases construct with
    | remark => exact absurd hmem hremark
    | opening header =>
      cases header with
      | comment => exact absurd hmem hcomment
      | _ => rfl
    | _ => rfl
  have hroles : scanRoles .outside fragment = roles fragment := by
    rw [Units.scanRoles_eq_scan _ hlone, Draft.scan_of_reads hreads (Nat.le_refl _) hcomments]
    rfl
  refine ⟨isSingleGroup_iff_of_draft hdraft hlone hcomments, hroles, ?_,
    Draft.map_fst_cover _ _ _, ?_⟩
  · rw [isSingleGroup, spans_eq_encloses, hroles]
  · have htext := Units.chars_ofChars fragment
    rw [hlone] at htext
    rw [cover, Draft.flatMap_snd_cover hreads (Nat.le_refl _)]
    exact (List.append_nil _).symm.trans htext

/-- A class that begins with a closing bracket, an escaped parenthesis and a group in parentheses,
and two groups one after the other. -/
theorem isSingleGroup_iff_enclosed_class :
    Construct.Enclosed (constructs "([])(]\\)(?:b))".toList) ∧
      roles "([])(]\\)(?:b))".toList =
        [.opens, .classBegins, .member, .member, .member, .classEnds, .escaped, .escaped,
          .opens, .other, .other, .other, .closes, .closes] ∧
      ¬ Construct.Enclosed (constructs "(a)(b)".toList) := by
  obtain ⟨e, hread⟩ : ∃ e, read "([])(]\\)(?:b))".toList = .ok e := ⟨_, rfl⟩
  obtain ⟨hsingle, hroles, -⟩ := isSingleGroup_iff_enclosed hread (by decide) (by decide)
  obtain ⟨e', hread'⟩ : ∃ e, read "(a)(b)".toList = .ok e := ⟨_, rfl⟩
  obtain ⟨htwo, -⟩ := isSingleGroup_iff_enclosed hread' (by decide) (by decide)
  refine ⟨hsingle.mp rfl, hroles.symm.trans rfl, fun henclosed => ?_⟩
  have hscan := htwo.mpr henclosed
  cases hscan

end Expression

end RequestRouter
