import RequestRouter.Regex.Basic
import RequestRouter.Regex.Lexeme
import RequestRouter.Text.Letter

/-!
# Flags inside an expression

A group may open with letters that switch flags on, and after a hyphen off, for its own content.
Letters closed by a parenthesis instead switch flags on for the whole expression. `Mode` is the
state of the flags at a place, `Flag.read` takes the letters off the text.
-/

namespace RequestRouter

/-- The flags that have a letter. -/
inductive Flag
  | ignoreCase
  | locale
  | multiline
  | dotAll
  | verbose
  | ascii
  | template
  | unicode
  deriving DecidableEq, Repr

namespace Flag

def ofChar? : Char → Option Flag
  | 'i' => some .ignoreCase
  | 'L' => some .locale
  | 'm' => some .multiline
  | 's' => some .dotAll
  | 'x' => some .verbose
  | 'a' => some .ascii
  | 't' => some .template
  | 'u' => some .unicode
  | _ => none

/-- The flags of which only one may hold: they choose the alphabet. -/
def choosesAlphabet : Flag → Bool
  | .ascii | .locale | .unicode => true
  | _ => false

end Flag

/-- The flags in force at a place. -/
structure Mode where
  ignoreCase : Bool := false
  multiline : Bool := false
  dotAll : Bool := false
  verbose : Bool := false
  ascii : Bool := false
  unicode : Bool := false
  template : Bool := false
  deriving DecidableEq, Repr, Inhabited

namespace Mode

def set (mode : Mode) (value : Bool) : Flag → Mode
  | .ignoreCase => { mode with ignoreCase := value }
  | .locale => mode
  | .multiline => { mode with multiline := value }
  | .dotAll => { mode with dotAll := value }
  | .verbose => { mode with verbose := value }
  | .ascii => { mode with ascii := value }
  | .template => { mode with template := value }
  | .unicode => { mode with unicode := value }

/-- Flags switched on for the whole expression. -/
def withGlobal (mode : Mode) (on : List Flag) : Mode := on.foldl (·.set true) mode

/-- Flags switched on and off for a group; a new alphabet replaces the one in force. -/
def withScoped (mode : Mode) (on off : List Flag) : Mode :=
  let base :=
    if on.any Flag.choosesAlphabet then { mode with ascii := false, unicode := false } else mode
  off.foldl (·.set false) (on.foldl (·.set true) base)

def folding (mode : Mode) : Folding :=
  if !mode.ignoreCase then .exact else if mode.ascii then .ascii else .unicode

end Mode

/-- What a run of flag letters asks for. -/
inductive FlagChange
  | whole (on : List Flag)
  | scoped (on off : List Flag)
  deriving DecidableEq, Repr

namespace Flag

/-- The halt at a unit, already taken, that is no flag letter: it is named unknown if it is a letter
at all, otherwise something else was expected there. -/
def notALetter {α : Type} (unit : Lexeme) (rest : Units) (expected : Cause) : Except Halt α :=
  match unit with
  | .char c =>
    haltAt rest 1 (if Text.isLetter c.toNat then .unknownFlag else expected)
  | .pair _ => haltAt rest 2 expected

/-- The letters after a hyphen, up to the colon; `flag` is the one already taken. -/
def readOff (on : List Flag) : (off : List Flag) → (flag : Flag) → Units → Reading FlagChange
  | off, flag, rest =>
    if flag.choosesAlphabet then haltAt rest 0 .typeFlagOff
    else match rest with
      | [] => haltAt [] 0 .missingColon
      | .char ':' :: rest =>
        let off := off ++ [flag]
        if off.contains .template then haltAt rest 1 .globalFlagOff
        else if on.any off.contains then haltAt rest 1 .flagOnAndOff
        else .ok (.scoped on off, rest)
      | .char c :: rest =>
        match ofChar? c with
        | some next => readOff on (off ++ [flag]) next rest
        | none => notALetter (.char c) rest .missingColon
      | unit :: rest => notALetter unit rest .missingColon

def readHyphen (on : List Flag) (rest : Units) : Reading FlagChange :=
  if on.contains .template then haltAt rest 1 .globalFlagOn
  else match rest with
    | [] => haltAt [] 0 .missingFlag
    | .char c :: rest =>
      match ofChar? c with
      | some flag => readOff on [] flag rest
      | none => notALetter (.char c) rest .missingFlag
    | unit :: rest => notALetter unit rest .missingFlag

/-- The letters that switch flags on; `flag` is the one already taken. -/
def readOn : (on : List Flag) → (flag : Flag) → Units → Reading FlagChange
  | on, flag, rest =>
    if flag == .locale then haltAt rest 0 .localeFlag
    else
      let on := on ++ [flag]
      if flag.choosesAlphabet && on.any (fun other => other.choosesAlphabet && other != flag) then
        haltAt rest 0 .rivalFlags
      else match rest with
        | [] => haltAt [] 0 .missingFlagsEnd
        | .char ')' :: rest => .ok (.whole on, rest)
        | .char ':' :: rest =>
          if on.contains .template then haltAt rest 1 .globalFlagOn else .ok (.scoped on [], rest)
        | .char '-' :: rest => readHyphen on rest
        | .char c :: rest =>
          match ofChar? c with
          | some next => readOn on next rest
          | none => notALetter (.char c) rest .missingFlagsEnd
        | unit :: rest => notALetter unit rest .missingFlagsEnd

end Flag

end RequestRouter
