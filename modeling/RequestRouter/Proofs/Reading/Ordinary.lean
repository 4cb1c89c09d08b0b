import RequestRouter.Regex.Draft

/-!
# Readers that fail on malformed texts only

A reader is ordinary if it fails, whenever it does, because the text is malformed. Sequences of
ordinary readers are ordinary, so there is one short lemma for each reader. The readers of bounds
are missing here: a count may not fit.
-/

namespace RequestRouter

/-- The text itself is at fault, as opposed to a number or a flag that does not fit. -/
def Halt.isMalformed (halt : Halt) : Bool :=
  match halt.stop with
  | .malformed _ => true
  | _ => false

/-- Reading fails, if it does, because the text is malformed. -/
structure Ordinary {α : Type} (x : Except Halt α) : Prop where
  malformed : ∀ halt, x = .error halt → halt.isMalformed = true

section

variable {α β : Type}

@[simp]
theorem ordinary_ok (a : α) : Ordinary (.ok a) := ⟨nofun⟩

@[simp]
theorem ordinary_pure (a : α) : Ordinary (pure a) := ⟨nofun⟩

@[simp]
theorem ordinary_haltAt (rest : Units) (back : Nat) (cause : Cause) :
    Ordinary (haltAt rest back cause : Except Halt α) := by
  constructor
  rintro _ ⟨⟩
  rfl

theorem Ordinary.bind {x : Except Halt α} {f : α → Except Halt β} (hx : Ordinary x)
    (hf : ∀ a, Ordinary (f a)) : Ordinary (x >>= f) := by
  cases x with
  | error halt =>
    constructor
    rintro _ ⟨⟩
    exact hx.malformed _ rfl
  | ok a => exact hf a

theorem Ordinary.map {x : Except Halt α} (f : α → β) (hx : Ordinary x) : Ordinary (x.map f) := by
  cases x with
  | error halt =>
    constructor
    rintro _ ⟨⟩
    exact hx.malformed _ rfl
  | ok a => exact ordinary_ok _

end

/-! ## Readers -/

theorem Units.ordinary_readName (terminator : Char) (kind : String) (units : Units) :
    Ordinary (units.readName terminator kind) := by
  unfold readName
  split <;> simp

namespace Escape

variable {ascii : Bool} {c : Char} {rest : Units}

@[simp]
theorem ordinary_halt {α : Type} (more : List Char) (cause : String → Cause) :
    Ordinary (halt rest c more cause : Except Halt α) := ordinary_haltAt ..

theorem ordinary_readHex (count : Nat) : Ordinary (readHex c count rest) := by
  unfold readHex
  dsimp only
  split
  · exact ordinary_halt ..
  · split <;> simp

theorem ordinary_readNamed : Ordinary (readNamed rest) := by
  unfold readNamed
  split
  · exact ordinary_haltAt ..
  · refine (Units.ordinary_readName ..).bind fun (name, rest) => ?_
    dsimp only
    split <;> simp

theorem ordinary_readCode? {reading : Reading Nat} (h : readCode? c rest = some reading) :
    Ordinary reading := by
  unfold readCode? at h
  split at h <;> cases h
  · exact ordinary_readHex _
  · exact ordinary_readHex _
  · exact ordinary_readHex _
  · exact ordinary_readNamed

theorem ordinary_readPlain : Ordinary (readPlain c rest) := by
  unfold readPlain
  split <;> simp

theorem ordinary_readInClass : Ordinary (readInClass ascii c rest) := by
  unfold readInClass
  split
  · exact ordinary_ok _
  · exact ordinary_ok _
  · next hreading _ _ => exact (ordinary_readCode? hreading).map _
  · split
    · dsimp only
      split <;> simp
    · split
      · exact ordinary_halt ..
      · exact ordinary_readPlain.map _

theorem ordinary_readNumber : Ordinary (readNumber c rest) := by
  unfold readNumber
  split
  · split
    · exact ordinary_ok _
    · split
      · split
        · dsimp only
          split <;> simp
        · exact ordinary_ok _
      · exact ordinary_ok _
  · exact ordinary_ok _

theorem ordinary_readOutside : Ordinary (readOutside ascii c rest) := by
  unfold readOutside
  split
  · exact ordinary_ok _
  · exact ordinary_ok _
  · exact ordinary_ok _
  · split
    · next hreading => exact (ordinary_readCode? hreading).map _
    · split
      · exact ordinary_ok _
      · split
        · exact ordinary_readNumber
        · exact ordinary_readPlain.map _

end Escape

namespace ClassReader

variable {ascii : Bool} {left : Nat}

theorem ordinary_readMember (unit : Lexeme) (rest : Units) :
    Ordinary (readMember ascii unit rest) := by
  cases unit with
  | char c => exact ordinary_ok _
  | pair c => exact Escape.ordinary_readInClass

theorem ordinary_rangeOf (first last : Lexeme) (low high : ClassItem) (rest : Units) :
    Ordinary (rangeOf first last low high rest) := by
  unfold rangeOf
  split
  · split <;> simp
  · exact ordinary_haltAt ..

theorem ordinary_readMembers (fuel : Nat) (items : List ClassItem) (rest : Units) :
    Ordinary (readMembers ascii left fuel items rest) := by
  induction fuel generalizing items rest with
  | zero => exact ordinary_haltAt ..
  | succ fuel ih =>
    unfold readMembers
    split
    · exact ordinary_haltAt ..
    · split
      · exact ordinary_ok _
      · refine (ordinary_readMember ..).bind fun (low, rest) => ?_
        dsimp only
        split
        · split
          · exact ordinary_haltAt ..
          · exact ordinary_ok _
          · refine (ordinary_readMember ..).bind fun (high, rest) => ?_
            exact (ordinary_rangeOf ..).bind fun (range, rest) => ih _ _
        · exact ih _ _

theorem ordinary_read (folding : Folding) (rest : Units) : Ordinary (read folding ascii rest) := by
  unfold read
  exact (ordinary_readMembers ..).bind fun _ => ordinary_pure _

end ClassReader

namespace Flag

variable {on : List Flag}

@[simp]
theorem ordinary_notALetter {α : Type} (unit : Lexeme) (rest : Units) (expected : Cause) :
    Ordinary (notALetter unit rest expected : Except Halt α) := by
  cases unit <;> exact ordinary_haltAt ..

theorem ordinary_readOff (off : List Flag) (flag : Flag) (rest : Units) :
    Ordinary (readOff on off flag rest) := by
  fun_induction readOff on off flag rest <;> simp_all

theorem ordinary_readHyphen (rest : Units) : Ordinary (readHyphen on rest) := by
  unfold readHyphen
  split
  · exact ordinary_haltAt ..
  · split
    · exact ordinary_haltAt ..
    · split
      · exact ordinary_readOff ..
      · exact ordinary_notALetter ..
    · exact ordinary_notALetter ..

theorem ordinary_readOn (flag : Flag) (rest : Units) : Ordinary (readOn on flag rest) := by
  fun_induction readOn on flag rest <;> simp_all [ordinary_readHyphen]

end Flag

namespace Opening

theorem ordinary_readGroupName (terminator : Char) (rest : Units) :
    Ordinary (readGroupName terminator rest) := by
  refine (Units.ordinary_readName ..).bind fun (name, rest) => ?_
  dsimp only
  split <;> simp

theorem ordinary_readNamed (rest : Units) : Ordinary (readNamed rest) := by
  unfold readNamed
  split
  · exact (ordinary_readGroupName ..).bind fun _ => ordinary_pure _
  · exact (ordinary_readGroupName ..).bind fun _ => ordinary_pure _
  · exact ordinary_haltAt ..
  · exact ordinary_haltAt ..

theorem ordinary_readBehind (rest : Units) : Ordinary (readBehind rest) := by
  unfold readBehind
  split
  · exact ordinary_ok _
  · exact ordinary_ok _
  · exact ordinary_haltAt ..
  · exact ordinary_haltAt ..

theorem ordinary_readExtended (left : Nat) (rest : Units) : Ordinary (readExtended left rest) := by
  unfold readExtended
  split
  · exact ordinary_haltAt ..
  · exact ordinary_readNamed _
  · exact ordinary_ok _
  · split <;> simp
  · exact ordinary_ok _
  · exact ordinary_ok _
  · exact ordinary_readBehind _
  · exact (Units.ordinary_readName ..).bind fun _ => ordinary_pure _
  · exact ordinary_ok _
  · exact (Flag.ordinary_readHyphen _).map _
  · split
    · split
      · exact (Flag.ordinary_readOn ..).map _
      · exact ordinary_haltAt ..
    · exact ordinary_haltAt ..

theorem ordinary_read (rest : Units) : Ordinary (read rest) := by
  unfold read
  split
  · exact ordinary_readExtended ..
  · exact ordinary_ok _

end Opening

namespace Draft

variable {d : Draft} {rest : Units}

theorem ordinary_checkBarrier (number : Nat) : Ordinary (d.checkBarrier number rest) := by
  unfold checkBarrier
  split
  · exact ordinary_ok _
  · split
    · exact ordinary_haltAt ..
    · split <;> simp

theorem ordinary_pieceOf (meaning : Escape.Meaning) : Ordinary (d.pieceOf rest meaning) := by
  cases meaning with
  | code | item | anchor => exact ordinary_ok _
  | group number width =>
    rw [pieceOf]
    split
    · exact ordinary_haltAt ..
    · split
      · exact ordinary_haltAt ..
      · exact (ordinary_checkBarrier _).bind fun _ => ordinary_pure _

theorem ordinary_repeatLast (bounds : Bounds) (width : Nat) :
    Ordinary (d.repeatLast bounds width rest) := by
  unfold repeatLast
  split
  · exact ordinary_haltAt ..
  · exact ordinary_haltAt ..
  · exact ordinary_haltAt ..
  · exact ordinary_ok _

theorem ordinary_testedGroup (name : List Char) : Ordinary (d.testedGroup name rest) := by
  unfold testedGroup
  dsimp only
  split
  · split <;> simp
  · split
    · exact ordinary_haltAt ..
    · split
      · exact ordinary_haltAt ..
      · split
        · exact ordinary_haltAt ..
        · split <;> simp

theorem ordinary_openWith (left : Nat) (header : Opening) :
    Ordinary (d.openWith left rest header) := by
  cases header with
  | capture | «scoped» | atomic | look | comment => exact ordinary_ok _
  | named =>
    rw [openWith]
    dsimp only
    split <;> simp
  | test =>
    rw [openWith]
    refine (ordinary_testedGroup _).bind fun (number, tested) => ?_
    exact (ordinary_checkBarrier _).bind fun _ => ordinary_pure _
  | flags =>
    rw [openWith]
    split <;> simp
  | again =>
    rw [openWith]
    split
    · exact ordinary_haltAt ..
    · split
      · exact ordinary_haltAt ..
      · exact (ordinary_checkBarrier _).bind fun _ => ordinary_pure _

theorem ordinary_alternate : Ordinary (d.alternate rest) := by
  unfold alternate
  dsimp only
  split
  · split <;> simp
  · exact ordinary_ok _

end Draft

end RequestRouter
