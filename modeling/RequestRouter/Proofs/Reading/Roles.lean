import RequestRouter.Pattern.Fragment
import RequestRouter.Proofs.Reading.Balance

/-!
# What characters are to the parentheses of a text

Every character of an expression text has a role: it is escaped, opens or closes something, begins
or ends a class, is a member of one, or is none of these. The scan of a fragment tells the roles by
the mode it is in (`scanRoles`) and counts nothing else (`spans_eq_encloses`). The reader tells them
by the construct that a character belongs to (`Construct.roles`). Over each construct other than a
comment the two are the same, and the scan is outside of classes again behind it
(`Construct.scan_of_read`).
-/

namespace RequestRouter

/-- What a character is to the parentheses of an expression text. -/
inductive Role
  /-- A backslash, or the character after it. -/
  | escaped
  /-- A parenthesis that opens something. -/
  | opens
  | closes
  | classBegins
  | classEnds
  /-- A character of a class, between its brackets. -/
  | member
  | other
  deriving DecidableEq, Repr

/-! ## The scan over characters -/

namespace ScanMode

/-- The mode behind an escaped character. -/
def afterPair (mode : ScanMode) : ScanMode := if mode = .outside then .outside else .inside

/-- The role of a character that is not escaped, and the mode behind it. -/
def see (mode : ScanMode) (c : Char) : Role × ScanMode :=
  match mode with
  | .outside =>
    if c == '[' then (.classBegins, .opened)
    else if c == '(' then (.opens, .outside)
    else if c == ')' then (.closes, .outside)
    else (.other, .outside)
  | mode =>
    let after := mode.afterMember c
    (if after = .outside then .classEnds else .member, after)

end ScanMode

/-- The roles that a scan of the whole text gives to its characters. -/
def scanRoles : ScanMode → List Char → List Role
  | _, [] => []
  | _, ['\\'] => [.escaped]
  | mode, '\\' :: _ :: rest => .escaped :: .escaped :: scanRoles mode.afterPair rest
  | mode, c :: rest => (mode.see c).1 :: scanRoles (mode.see c).2 rest

/-- The parenthesis that brings the depth to zero is the last character. -/
def Role.encloses : (depth : Nat) → List Role → Bool
  | _, [] => false
  | depth, .opens :: rest => encloses (depth + 1) rest
  | depth, .closes :: rest => if depth == 1 then rest.isEmpty else encloses (depth - 1) rest
  | depth, _ :: rest => encloses depth rest

theorem isEmpty_scanRoles (mode : ScanMode) (text : List Char) :
    (scanRoles mode text).isEmpty = text.isEmpty := by
  fun_cases scanRoles mode text <;> rfl

/-- A character that begins no unit of two, and does not end the text as a lone backslash. -/
theorem ne_backslash {c : Char} {rest : List Char} (hlone : c = '\\' → rest = [] → False)
    (hpair : ∀ head after, c = '\\' → rest = head :: after → False) : c ≠ '\\' := by
  rintro rfl
  cases rest with
  | nil => exact hlone rfl rfl
  | cons head after => exact hpair head after rfl rfl

theorem scanRoles_cons {c : Char} (hc : c ≠ '\\') (mode : ScanMode) (rest : List Char) :
    scanRoles mode (c :: rest) = (mode.see c).1 :: scanRoles (mode.see c).2 rest := by
  cases rest <;> simp [scanRoles, hc]

/-- A character inside of a class is counted as nothing. -/
theorem encloses_see {mode : ScanMode} (hmode : mode ≠ .outside) (c : Char) (depth : Nat)
    (roles : List Role) :
    Role.encloses depth ((mode.see c).1 :: roles) = Role.encloses depth roles ∧
      (mode.see c).2 = mode.afterMember c := by
  cases mode with
  | outside => exact absurd rfl hmode
  | opened | negated | inside =>
    refine ⟨?_, rfl⟩
    dsimp only [ScanMode.see]
    split <;> rfl

/-- The scan counts the roles that it gives. -/
theorem spans_eq_encloses (mode : ScanMode) (depth : Nat) (text : List Char) :
    spans mode depth text = Role.encloses depth (scanRoles mode text) := by
  fun_induction spans mode depth text with
  | case1 => rfl
  | case2 => rfl
  | case3 mode depth c rest ih => exact ih
  | case4 depth c rest hlone hpair hclass ih =>
    obtain rfl := eq_of_beq hclass
    exact ih
  | case5 depth c rest hlone hpair hclass hopen ih =>
    obtain rfl := eq_of_beq hopen
    exact ih
  | case6 depth c rest hlone hpair hclass hopen hclose hdepth =>
    obtain rfl := eq_of_beq hclose
    rw [scanRoles_cons (by decide), ← isEmpty_scanRoles .outside rest]
    exact (if_pos hdepth).symm
  | case7 depth c rest hlone hpair hclass hopen hclose hdepth ih =>
    obtain rfl := eq_of_beq hclose
    rw [scanRoles_cons (by decide), ih]
    exact (if_neg hdepth).symm
  | case8 depth c rest hlone hpair hclass hopen hclose ih =>
    have hc := ne_backslash hlone hpair
    rw [scanRoles_cons hc, ih]
    simp [ScanMode.see, hclass, hopen, hclose, Role.encloses]
  | case9 mode depth c rest hlone hpair hmode ih =>
    have hc := ne_backslash hlone hpair
    obtain ⟨hcount, hafter⟩ := encloses_see hmode c depth (scanRoles (mode.see c).2 rest)
    rw [scanRoles_cons hc, hcount, hafter]
    exact ih

/-! ## The scan over units -/

/-- The roles of a unit whose characters have this role if they are not escaped. -/
def Lexeme.roles (role : Role) : Lexeme → List Role
  | .char _ => [role]
  | .pair _ => [.escaped, .escaped]

/-- The roles that the scan gives to a unit, and the mode behind it. -/
def ScanMode.seeUnit (mode : ScanMode) : Lexeme → List Role × ScanMode
  | .char c => ([(mode.see c).1], (mode.see c).2)
  | .pair _ => ([.escaped, .escaped], mode.afterPair)

namespace Units

/-- The roles that the scan gives to units, and the mode behind them. -/
def scan : ScanMode → Units → List Role × ScanMode
  | mode, [] => ([], mode)
  | mode, unit :: rest =>
    let (roles, after) := scan (mode.seeUnit unit).2 rest
    ((mode.seeUnit unit).1 ++ roles, after)

/-- The scan over characters is the scan over units. -/
theorem scanRoles_eq_scan {text : List Char} (mode : ScanMode) (h : (ofChars text).2 = false) :
    scanRoles mode text = (scan mode (ofChars text).1).1 := by
  fun_induction ofChars text generalizing mode with
  | case1 => rfl
  | case2 => cases h
  | case3 c rest units lone cut ih =>
    have hrest := ih mode.afterPair (by rw [cut]; exact h)
    rw [cut] at hrest
    exact congrArg (.escaped :: .escaped :: ·) hrest
  | case4 c rest hlone hpair units lone cut ih =>
    have hc := ne_backslash hlone hpair
    have hrest := ih (mode.see c).2 (by rw [cut]; exact h)
    rw [cut] at hrest
    rw [scanRoles_cons hc, hrest]
    rfl

section Front

variable {front back : Units} {mode between after : ScanMode} {roles others : List Role}

theorem scan_cons_of {unit : Lexeme} (hunit : mode.seeUnit unit = (roles, between))
    (hback : scan between back = (others, after)) :
    scan mode (unit :: back) = (roles ++ others, after) := by
  simp only [scan, hunit, hback]

theorem scan_append_of (hfront : scan mode front = (roles, between))
    (hback : scan between back = (others, after)) :
    scan mode (front ++ back) = (roles ++ others, after) := by
  induction front generalizing mode roles with
  | nil =>
    cases hfront
    exact hback
  | cons unit front ih =>
    cases hfront
    rw [List.cons_append, List.append_assoc]
    exact scan_cons_of rfl (ih rfl)

end Front

/-- Units of which each keeps the mode and gets the same role. -/
theorem scan_steady {mode : ScanMode} {role : Role} {front : Units}
    (h : ∀ unit ∈ front, mode.seeUnit unit = (unit.roles role, mode)) :
    scan mode front = (front.flatMap (Lexeme.roles role), mode) := by
  induction front with
  | nil => rfl
  | cons unit front ih =>
    have hrest := ih fun unit hunit => h unit (List.mem_cons_of_mem _ hunit)
    exact scan_cons_of (h unit List.mem_cons_self) hrest

end Units

namespace ScanMode

theorem seeUnit_outside {unit : Lexeme} (hopen : unit ≠ .char '(') (hclose : unit ≠ .char ')')
    (hclass : unit ≠ .char '[') : outside.seeUnit unit = (unit.roles .other, .outside) := by
  cases unit with
  | pair c => rfl
  | char c =>
    have hopen : (c == '(') = false := beq_eq_false_iff_ne.mpr fun heq => hopen (by rw [heq])
    have hclose : (c == ')') = false := beq_eq_false_iff_ne.mpr fun heq => hclose (by rw [heq])
    have hclass : (c == '[') = false := beq_eq_false_iff_ne.mpr fun heq => hclass (by rw [heq])
    simp only [seeUnit, see, hopen, hclose, hclass, Bool.false_eq_true, if_false]
    rfl

theorem seeUnit_inside {unit : Lexeme} (h : unit ≠ .char ']') :
    inside.seeUnit unit = (unit.roles .member, .inside) := by
  cases unit with
  | pair c => rfl
  | char c =>
    have hc : (c == ']') = false := beq_eq_false_iff_ne.mpr fun heq => h (by rw [heq])
    simp only [seeUnit, see, afterMember, hc, Bool.false_eq_true, if_false]
    rfl

theorem seeUnit_negated (unit : Lexeme) :
    negated.seeUnit unit = (unit.roles .member, .inside) := by
  cases unit <;> rfl

theorem seeUnit_opened {unit : Lexeme} (h : unit ≠ .char '^') :
    opened.seeUnit unit = (unit.roles .member, .inside) := by
  cases unit with
  | pair c => rfl
  | char c =>
    have hc : (c == '^') = false := beq_eq_false_iff_ne.mpr fun heq => h (by rw [heq])
    simp only [seeUnit, see, afterMember, hc, Bool.false_eq_true, if_false]
    rfl

end ScanMode

namespace Units

variable {rest after : Units}

/-- Units without brackets have no role outside of classes, and are members inside. -/
theorem scan_passes (h : Passes rest after) : ∃ front, rest = front ++ after ∧
    scan .outside front = (front.flatMap (Lexeme.roles .other), .outside) ∧
    scan .inside front = (front.flatMap (Lexeme.roles .member), .inside) := by
  obtain ⟨front, rfl, hfront⟩ := h
  have hne : ∀ unit ∈ front, ∀ c ∈ brackets, unit ≠ .char c := by
    rintro _ hunit c hc rfl
    have hbracket : brackets.contains c = false := hfront _ hunit
    rw [List.contains_iff_mem.mpr hc] at hbracket
    cases hbracket
  refine ⟨front, rfl, scan_steady fun unit hunit => ?_, scan_steady fun unit hunit => ?_⟩
  · have hunit := hne unit hunit
    exact ScanMode.seeUnit_outside (hunit '(' (by decide)) (hunit ')' (by decide))
      (hunit '[' (by decide))
  · exact ScanMode.seeUnit_inside (hne unit hunit ']' (by decide))

/-! ### Classes -/

theorem scan_readMember {ascii : Bool} {unit : Lexeme} {item : ClassItem} {mode : ScanMode}
    (h : ClassReader.readMember ascii unit rest = .ok (item, after))
    (hunit : mode.seeUnit unit = (unit.roles .member, .inside)) :
    ∃ front, unit :: rest = front ++ after ∧
      scan mode front = (front.flatMap (Lexeme.roles .member), .inside) := by
  have hpasses := (ClassReader.readMember_append h (.inl rfl : Sealed _ [.char ')'])).1
  obtain ⟨front, rfl, -, hfront⟩ := scan_passes hpasses
  exact ⟨unit :: front, rfl, scan_cons_of hunit hfront⟩

/-- The members of a class run up to the bracket where the scan leaves it. -/
theorem scan_members {ascii : Bool} {items found : List ClassItem} {mode : ScanMode}
    (h : ClassReader.Members ascii items rest found after) (hlater : items ≠ [] → mode = .inside)
    (hfirst : items = [] → ∀ unit, rest.head? = some unit →
      mode.seeUnit unit = (unit.roles .member, .inside)) :
    ∃ inner, rest = inner ++ .char ']' :: after ∧
      scan mode inner = (inner.flatMap (Lexeme.roles .member), .inside) := by
  have hseen : ∀ {items : List ClassItem} {mode : ScanMode} {unit : Lexeme} {rest : Units},
      (items ≠ [] → mode = .inside) →
      (items = [] → ∀ first, (unit :: rest).head? = some first →
        mode.seeUnit first = (first.roles .member, .inside)) →
      ¬ (unit = .char ']' ∧ items ≠ []) →
      mode.seeUnit unit = (unit.roles .member, .inside) := by
    intro items mode unit rest hlater hfirst hmember
    by_cases hitems : items = []
    · exact hfirst hitems unit rfl
    · obtain rfl := hlater hitems
      exact ScanMode.seeUnit_inside fun heq => hmember ⟨heq, hitems⟩
  have hmore : ∀ {items : List ClassItem} {item : ClassItem} {rest : Units},
      items ++ [item] = [] → ∀ unit, rest.head? = some unit →
        ScanMode.inside.seeUnit unit = (unit.roles .member, .inside) :=
    fun h => absurd h (by simp)
  induction h generalizing mode with
  | close hitems =>
    obtain rfl := hlater hitems
    exact ⟨[], rfl, rfl⟩
  | hyphen hmember hlow =>
    obtain ⟨front, hsplit, hfront⟩ := scan_readMember hlow (hseen hlater hfirst hmember)
    refine ⟨front ++ [.char '-'], by rw [hsplit]; simp, ?_⟩
    rw [List.flatMap_append]
    exact scan_append_of hfront rfl
  | range hmember hlow hlast hhigh _ _ ih =>
    obtain ⟨front, hsplit, hfront⟩ := scan_readMember hlow (hseen hlater hfirst hmember)
    obtain ⟨second, hsplit', hsecond⟩ := scan_readMember hhigh (ScanMode.seeUnit_inside hlast)
    obtain ⟨others, rfl, hothers⟩ := ih (fun _ => rfl) hmore
    refine ⟨front ++ .char '-' :: (second ++ others), by rw [hsplit, hsplit']; simp, ?_⟩
    rw [List.flatMap_append, List.flatMap_cons, List.flatMap_append]
    exact scan_append_of hfront (scan_cons_of rfl (scan_append_of hsecond hothers))
  | single hmember hlow _ _ ih =>
    obtain ⟨front, hsplit, hfront⟩ := scan_readMember hlow (hseen hlater hfirst hmember)
    obtain ⟨others, rfl, hothers⟩ := ih (fun _ => rfl) hmore
    refine ⟨front ++ others, by rw [hsplit]; simp, ?_⟩
    rw [List.flatMap_append]
    exact scan_append_of hfront hothers

theorem scan_class {folding : Folding} {ascii : Bool} {test : CharTest}
    (h : ClassReader.read folding ascii rest = .ok (test, after)) :
    ∃ inner, rest = inner ++ .char ']' :: after ∧
      scan .opened inner = (inner.flatMap (Lexeme.roles .member), .inside) := by
  obtain ⟨complement, inner, items, hcaret, hmembers, -⟩ := ClassReader.read_eq_ok_iff.mp h
  rcases hcaret with ⟨hcaret, -⟩ | ⟨hcaret, rfl, -⟩
  · obtain rfl := accept_eq_some hcaret
    obtain ⟨members, rfl, hscan⟩ := scan_members hmembers (fun h => absurd rfl h)
      (fun _ unit _ => ScanMode.seeUnit_negated unit)
    exact ⟨.char '^' :: members, rfl, scan_cons_of rfl hscan⟩
  · refine scan_members hmembers (fun h => absurd rfl h) fun _ unit hhead =>
      ScanMode.seeUnit_opened ?_
    rintro rfl
    obtain ⟨others, rfl⟩ := List.head?_eq_some_iff.mp hhead
    cases hcaret

end Units

/-! ## The roles of constructs -/

/-- The roles of the units of a header, from behind the parenthesis that opens it. -/
def Opening.roles (units : Units) : Opening → List Role
  | .comment | .flags _ | .again _ => units.dropLast.flatMap (Lexeme.roles .other) ++ [.closes]
  | .test _ =>
    .other :: .opens :: ((units.drop 2).dropLast.flatMap (Lexeme.roles .other) ++ [.closes])
  | _ => units.flatMap (Lexeme.roles .other)

/-- The roles of the units of a construct. -/
def Construct.roles (units : Units) : Construct → List Role
  | .opening header => .opens :: header.roles units.tail
  | .close => [.closes]
  | .oneOf _ =>
    .classBegins :: (units.tail.dropLast.flatMap (Lexeme.roles .member) ++ [.classEnds])
  | _ => units.flatMap (Lexeme.roles .other)

namespace Opening

variable {rest after : Units}

theorem scan_of_spans {header : Opening} (h : header.Spans rest after)
    (hcomment : header ≠ .comment)
    (hname : ∀ name, header = .test name → ∀ c ∈ name, c ∉ brackets) :
    ∃ front, rest = front ++ after ∧
      Units.scan .outside front = (header.roles front, .outside) := by
  have hcloses : ∀ {rest : Units}, Units.Passes rest (.char ')' :: after) →
      ∃ front, rest = front ++ after ∧ Units.scan .outside front =
        (front.dropLast.flatMap (Lexeme.roles .other) ++ [.closes], .outside) := by
    intro rest h
    obtain ⟨front, rfl, hfront, -⟩ := Units.scan_passes h
    refine ⟨front ++ [.char ')'], by simp, ?_⟩
    rw [List.dropLast_concat]
    exact Units.scan_append_of hfront rfl
  cases header with
  | capture =>
    obtain rfl : after = rest := h
    exact ⟨[], rfl, rfl⟩
  | comment => exact absurd rfl hcomment
  | flags | again => exact hcloses h
  | test name =>
    obtain ⟨inner, rfl, hpasses⟩ := h
    obtain ⟨front, rfl, hfront⟩ := hcloses (hpasses (hname name rfl))
    have hinner := Units.scan_cons_of (rfl : ScanMode.outside.seeUnit (.char '(') = _) hfront
    exact ⟨.char '?' :: .char '(' :: front, rfl, Units.scan_cons_of rfl hinner⟩
  | named | «scoped» | atomic | look =>
    obtain ⟨front, rfl, hfront, -⟩ := Units.scan_passes h
    exact ⟨front, rfl, hfront⟩

end Opening

namespace Construct

/-- The construct is skipped as a comment. -/
def isComment : Construct → Bool
  | .remark | .opening .comment => true
  | _ => false

variable {mode : Mode} {unit : Lexeme} {rest after : Units} {construct : Construct}

/-- Over a construct that is no comment the scan gives the roles that the reader gives, and it is
outside of classes behind it. -/
theorem scan_of_read (h : read mode unit rest = .ok (construct, after))
    (hcomment : construct.isComment = false)
    (hname : ∀ name, construct = .opening (.test name) → ∀ c ∈ name, c ∉ brackets) :
    ∃ front, unit :: rest = front ++ after ∧
      Units.scan .outside front = (construct.roles front, .outside) := by
  have hplain : ∀ {rest : Units}, ScanMode.outside.seeUnit unit = (unit.roles .other, .outside) →
      Units.Passes rest after → ∃ front, unit :: rest = front ++ after ∧
        Units.scan .outside front = (front.flatMap (Lexeme.roles .other), .outside) := by
    intro rest hunit hpasses
    obtain ⟨front, rfl, hfront, -⟩ := Units.scan_passes hpasses
    exact ⟨unit :: front, rfl, Units.scan_cons_of hunit hfront⟩
  unfold read at h
  split at h
  · obtain ⟨⟨meaning, left⟩, hmeaning, h⟩ := exists_of_map_ok h
    cases h
    exact hplain rfl (Escape.readOutside_append hmeaning (.inl rfl : Units.Sealed _ [.char ')'])).1
  · obtain ⟨⟨header, left⟩, hheader, h⟩ := exists_of_map_ok h
    cases h
    have hspans := (Opening.read_append hheader (.inl rfl : Units.Sealed _ [.char ')'])).1
    have hheader : header ≠ .comment := by
      rintro rfl
      cases hcomment
    obtain ⟨front, rfl, hfront⟩ := Opening.scan_of_spans hspans hheader fun name heq =>
      hname name (by rw [heq])
    exact ⟨.char '(' :: front, rfl, Units.scan_cons_of rfl hfront⟩
  · cases h
    exact ⟨[.char ')'], rfl, rfl⟩
  · cases h
    exact ⟨[.char '|'], rfl, rfl⟩
  · next c hopen hclose hbar =>
    have hchar : c ≠ '[' → ScanMode.outside.seeUnit (.char c) = ([.other], .outside) :=
      fun hclass => ScanMode.seeUnit_outside (fun heq => hopen (Lexeme.char.inj heq))
        (fun heq => hclose (Lexeme.char.inj heq)) fun heq => hclass (Lexeme.char.inj heq)
    split at h
    · next hlayout =>
      cases h
      refine hplain (hchar ?_) (Units.Passes.refl _)
      rintro rfl
      simp [Draft.isLayout] at hlayout
    · split at h
      · cases h
        cases hcomment
      · unfold readChar at h
        split at h
        · cases h
          exact ⟨[.char '.'], rfl, rfl⟩
        · cases h
          exact ⟨[.char '^'], rfl, rfl⟩
        · cases h
          exact ⟨[.char '$'], rfl, rfl⟩
        · obtain ⟨⟨test, left⟩, htest, h⟩ := exists_of_map_ok h
          cases h
          obtain ⟨inner, rfl, hinner⟩ := Units.scan_class htest
          refine ⟨.char '[' :: (inner ++ [.char ']']), by simp, ?_⟩
          simp only [roles, List.tail_cons, List.dropLast_concat]
          exact Units.scan_cons_of rfl (Units.scan_append_of hinner rfl)
        · next hclass =>
          have hunit := hchar fun heq => hclass heq
          obtain ⟨found, hfound, h⟩ := exists_of_map_ok h
          cases found with
          | none =>
            cases h
            exact hplain hunit (Units.Passes.refl _)
          | some found =>
            obtain ⟨bounds, left⟩ := found
            have hbounds := (Bounds.read?_append hfound (fun heq => hclose heq)
              (.inl rfl : Units.Sealed _ [.char ')'])).2 bounds left rfl
            cases h
            exact hplain hunit (hbounds.1.trans (Greed.read_passes left))

end Construct

/-! ## The roles of a text -/

namespace Text

theorem mem_of_digitRun {after : Bool} {text rest : List Char} {digits : List Nat}
    (h : digitRun after text = some (digits, rest)) : ∀ c ∈ text, c ∈ brackets → c ∈ rest := by
  have hdigits : ∀ c ∈ brackets, digitValue? c.toNat = none := forall_mem_of_all (by decide)
  have hunderscore : '_' ∉ brackets := by decide
  induction text generalizing after digits with
  | nil => exact fun c hc => (nomatch hc)
  | cons first text ih =>
    intro c hc hbracket
    unfold digitRun at h
    split at h
    · next hfirst =>
      obtain rfl := eq_of_beq hfirst
      split at h
      · rcases List.mem_cons.mp hc with rfl | hc
        · exact absurd hbracket hunderscore
        · exact ih h c hc hbracket
      · cases h
    · split at h
      · next d hd =>
        obtain ⟨⟨digits', rest'⟩, hrun, heq⟩ := Option.map_eq_some_iff.mp h
        cases heq
        rcases List.mem_cons.mp hc with rfl | hc
        · rw [hdigits c hbracket] at hd
          cases hd
        · exact ih hrun c hc hbracket
      · split at h
        · cases h
          exact hc
        · cases h

theorem not_mem_brackets_of_readInt {name : List Char} {n : Int} (h : readInt name = .ok n) :
    ∀ c ∈ name, c ∉ brackets := by
  have hblank : ∀ c ∈ brackets, isNumeralBlank c = false := forall_mem_of_all (by decide)
  have hsigned : ∀ {text : List Char} {c : Char}, c ∈ text → c ∈ brackets →
      c ∈ (takeSign text).2 := by
    intro text c hc hbracket
    have hminus : '-' ∉ brackets := by decide
    have hplus : '+' ∉ brackets := by decide
    unfold takeSign
    split
    · rcases List.mem_cons.mp hc with rfl | hc
      · exact absurd hbracket hminus
      · exact hc
    · rcases List.mem_cons.mp hc with rfl | hc
      · exact absurd hbracket hplus
      · exact hc
    · exact hc
  intro c hc hbracket
  have hdropped : c ∈ name.dropWhile isNumeralBlank := by
    rw [← List.takeWhile_append_dropWhile (p := isNumeralBlank) (l := name)] at hc
    rcases List.mem_append.mp hc with hc | hc
    · have hpasses := List.all_eq_true.mp (List.all_takeWhile (p := isNumeralBlank)) c hc
      rw [hblank c hbracket] at hpasses
      cases hpasses
    · exact hc
  have hunsigned := hsigned hdropped hbracket
  unfold readInt at h
  dsimp only at h
  split at h
  · cases h
  · next digits rest hrun =>
    have hrest := mem_of_digitRun hrun c hunsigned hbracket
    split at h
    · cases h
    · split at h
      · next hall =>
        have hpasses := List.all_eq_true.mp hall c hrest
        rw [hblank c hbracket] at hpasses
        cases hpasses
      · cases h

end Text

namespace Draft

theorem not_mem_brackets_of_take {d d' : Draft} {left : Nat} {after : Units} {name : List Char}
    (h : d.take left after (.opening (.test name)) = some d') : ∀ c ∈ name, c ∉ brackets := by
  obtain ⟨⟨number, tested⟩, htested, -⟩ := exists_of_bind_ok (toOption_eq_some.mp h)
  unfold testedGroup at htested
  dsimp only at htested
  split at htested
  · next hidentifier => exact Opening.not_mem_brackets_of_isIdentifier hidentifier
  · split at htested
    · cases htested
    · next number hnumber => exact Text.not_mem_brackets_of_readInt hnumber

variable {d e : Draft} {units : Units} {constructs : List Construct} {fuel : Nat}

/-- The constructs that are taken off a text, each with the units that it covers. -/
def cover : (fuel : Nat) → Draft → Units → List (Construct × Units)
  | fuel + 1, d, unit :: rest =>
    match Construct.read d.level.mode unit rest with
    | .error _ => []
    | .ok (construct, after) =>
      match d.take (Units.width rest) after construct with
      | none => []
      | some d' =>
        (construct, (unit :: rest).take (rest.length + 1 - after.length)) :: cover fuel d' after
  | _, _, _ => []

theorem map_fst_cover (fuel : Nat) (d : Draft) (units : Units) :
    (cover fuel d units).map Prod.fst = trace fuel d units := by
  fun_induction cover fuel d units with
  | case1 fuel d unit rest halt hread => simp only [trace, hread, List.map_nil]
  | case2 fuel d unit rest construct after hread htake =>
    simp only [trace, hread, htake, List.map_nil]
  | case3 fuel d unit rest construct after hread d' htake ih =>
    simp only [trace, hread, htake, List.map_cons, ih]
  | case4 fuel d units hcases =>
    cases fuel with
    | zero => rfl
    | succ fuel =>
      cases units with
      | nil => rfl
      | cons unit rest => exact absurd rfl (hcases fuel unit rest rfl)

/-- The first construct covers what stands in front of the units behind it. -/
theorem cover_cons {d' : Draft} {construct : Construct} {front after : Units} {unit : Lexeme}
    {rest : Units} (hsplit : unit :: rest = front ++ after)
    (hread : Construct.read d.level.mode unit rest = .ok (construct, after))
    (htake : d.take rest.width after construct = some d') :
    cover (fuel + 1) d (unit :: rest) = (construct, front) :: cover fuel d' after := by
  have hlength : rest.length + 1 - after.length = front.length := by
    have hlengths := congrArg List.length hsplit
    simp only [List.length_cons, List.length_append] at hlengths
    omega
  simp only [cover, hread, htake, hlength]
  rw [hsplit, List.take_left]

theorem flatMap_snd_cover (h : Reads d units constructs e []) (hfuel : units.length ≤ fuel) :
    (cover fuel d units).flatMap Prod.snd = units := by
  induction fuel generalizing d units constructs with
  | zero =>
    obtain rfl := List.length_eq_zero_iff.mp (Nat.le_zero.mp hfuel)
    rfl
  | succ fuel ih =>
    cases h with
    | done => rfl
    | @next _ unit _ _ after _ _ _ _ hread htake hrest =>
      obtain ⟨front, rfl⟩ := Construct.read_suffix hread
      have hsplit : unit :: (front ++ after) = (unit :: front) ++ after := rfl
      simp only [List.length_cons, List.length_append] at hfuel
      rw [cover_cons hsplit hread htake, List.flatMap_cons, ih hrest (by omega), hsplit]

/-- On a run without comments the scan gives the roles that the reader gives. -/
theorem scan_of_reads (h : Reads d units constructs e []) (hfuel : units.length ≤ fuel)
    (hcomments : ∀ construct ∈ constructs, construct.isComment = false) :
    Units.scan .outside units =
      ((cover fuel d units).flatMap fun (construct, units) => construct.roles units, .outside) := by
  induction fuel generalizing d units constructs with
  | zero =>
    obtain rfl := List.length_eq_zero_iff.mp (Nat.le_zero.mp hfuel)
    rfl
  | succ fuel ih =>
    cases h with
    | done => rfl
    | next hread htake hrest =>
      obtain ⟨hcomment, hothers⟩ := List.forall_mem_cons.mp hcomments
      obtain ⟨front, hsplit, hfront⟩ := Construct.scan_of_read hread hcomment (by
        rintro name rfl
        exact not_mem_brackets_of_take htake)
      have hle := (Construct.read_suffix hread).length_le
      simp only [List.length_cons] at hfuel
      rw [cover_cons hsplit hread htake, List.flatMap_cons, hsplit]
      exact Units.scan_append_of hfront (ih hrest (by omega) hothers)

end Draft

namespace Expression

/-- The constructs of an expression text, each with the units that it covers. -/
def cover (text : List Char) : List (Construct × Units) :=
  let units := (Units.ofChars text).1
  Draft.cover units.length (.start units.width) units

/-- The roles that the reader gives to the characters of an expression text. -/
def roles (text : List Char) : List Role :=
  (cover text).flatMap fun (construct, units) => construct.roles units

end Expression

end RequestRouter
