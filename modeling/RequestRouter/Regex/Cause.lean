import RequestRouter.Text.Quoted
import RequestRouter.Text.Numeral

/-!
# Why a text is no regular expression

A cause says what is wrong and a place says where. While a text is being read, the place is kept as
the width of what is left of the text, so that reading depends on what is left and on nothing
before it; only at the end does it become a position. A text with several lines also gets the line
and the column.
-/

namespace RequestRouter

/-- What is wrong with an expression text. -/
inductive Cause
  | loneBackslash
  | badEscape (escape : String)
  | incompleteEscape (escape : String)
  | octalTooLarge (escape : String)
  | missingBrace
  | missingName (kind : String)
  | unterminatedName (terminator : Char)
  | unknownCharacter (name : String)
  | openGroup
  | groupOfSameLookBehind
  | noSuchGroup (number : Nat)
  | badGroupNumber
  | badGroupName (name : String)
  | unknownGroupName (name : String)
  | groupNameTaken (name : String) (number earlier : Nat)
  | unterminatedClass
  | badRange (first last : String)
  | minExceedsMax
  | nothingToRepeat
  | multipleRepeat
  | unexpectedEnd
  | unknownExtension (text : String)
  | unterminatedComment
  | unterminatedGroup
  | tooManyBranches
  | unbalanced
  | lateFlags
  | localeFlag
  | rivalFlags
  | unknownFlag
  | missingFlagsEnd
  | missingFlag
  | missingColon
  | globalFlagOn
  | globalFlagOff
  | typeFlagOff
  | flagOnAndOff
  | unfixedLookBehind
  | tooFarBehind
  | templateRepeat (name : String)
  deriving DecidableEq, Repr

def Cause.text : Cause → String
  | .loneBackslash => "bad escape (end of pattern)"
  | .badEscape escape => "bad escape " ++ escape
  | .incompleteEscape escape => "incomplete escape " ++ escape
  | .octalTooLarge escape => "octal escape value " ++ escape ++ " outside of range 0-0o377"
  | .missingBrace => "missing \x7b"
  | .missingName kind => "missing " ++ kind
  | .unterminatedName terminator => "missing " ++ terminator.toString ++ ", unterminated name"
  | .unknownCharacter name => "undefined character name " ++ Text.quote name
  | .openGroup => "cannot refer to an open group"
  | .groupOfSameLookBehind =>
    "cannot refer to group defined in the same lookbehind subpattern"
  | .noSuchGroup number => s!"invalid group reference {number}"
  | .badGroupNumber => "bad group number"
  | .badGroupName name => "bad character in group name " ++ Text.quote name
  | .unknownGroupName name => "unknown group name " ++ Text.quote name
  | .groupNameTaken name number earlier =>
    "redefinition of group name " ++ Text.quote name ++ s!" as group {number}; was group {earlier}"
  | .unterminatedClass => "unterminated character set"
  | .badRange first last => "bad character range " ++ first ++ "-" ++ last
  | .minExceedsMax => "min repeat greater than max repeat"
  | .nothingToRepeat => "nothing to repeat"
  | .multipleRepeat => "multiple repeat"
  | .unexpectedEnd => "unexpected end of pattern"
  | .unknownExtension text => "unknown extension ?" ++ text
  | .unterminatedComment => "missing ), unterminated comment"
  | .unterminatedGroup => "missing ), unterminated subpattern"
  | .tooManyBranches => "conditional backref with more than two branches"
  | .unbalanced => "unbalanced parenthesis"
  | .lateFlags => "global flags not at the start of the expression"
  | .localeFlag => "bad inline flags: cannot use 'L' flag with a str pattern"
  | .rivalFlags => "bad inline flags: flags 'a', 'u' and 'L' are incompatible"
  | .unknownFlag => "unknown flag"
  | .missingFlagsEnd => "missing -, : or )"
  | .missingFlag => "missing flag"
  | .missingColon => "missing :"
  | .globalFlagOn => "bad inline flags: cannot turn on global flag"
  | .globalFlagOff => "bad inline flags: cannot turn off global flag"
  | .typeFlagOff => "bad inline flags: cannot turn off flags 'a', 'u' and 'L'"
  | .flagOnAndOff => "bad inline flags: flag turned on and off"
  | .unfixedLookBehind => "look-behind requires fixed-width pattern"
  | .tooFarBehind => "looks too much behind"
  | .templateRepeat name => "internal: unsupported template operator " ++ name

/-- Why reading stopped, apart from where. -/
inductive Stop
  | malformed (cause : Cause)
  /-- A repeat count does not fit. -/
  | countTooLarge
  /-- A repeat count has too many digits to be converted. -/
  | countTooLong (digits : Nat)
  /-- The flags for the two alphabets are both set. -/
  | rivalAlphabets
  deriving DecidableEq, Repr

/-- Reading stopped with `left` characters still to come; the place meant is `back` characters
before that. -/
structure Halt where
  stop : Stop
  left : Nat
  back : Nat
  deriving DecidableEq, Repr

/-- A position in a text, with line and column if the text has several lines. -/
structure Place where
  position : Nat
  lineColumn : Option (Nat × Nat)
  deriving DecidableEq, Repr

/-- The place at a position: lines count from one, columns too. -/
def Place.ofPosition (text : List Char) (position : Nat) : Place :=
  let before := text.take position
  ⟨position,
    if text.contains '\n' then
      some (before.count '\n' + 1, (before.reverse.takeWhile (· != '\n')).length + 1)
    else none⟩

/-- Why a text is no regular expression. -/
inductive ReadError
  | malformed (cause : Cause) (place : Option Place)
  | countTooLarge
  | countTooLong (digits : Nat)
  | rivalAlphabets
  deriving DecidableEq, Repr

def ReadError.message : ReadError → String
  | .malformed cause none => cause.text
  | .malformed cause (some ⟨position, none⟩) => cause.text ++ s!" at position {position}"
  | .malformed cause (some ⟨position, some (line, column)⟩) =>
    cause.text ++ s!" at position {position} (line {line}, column {column})"
  | .countTooLarge => "the repetition number is too large"
  | .countTooLong digits => (Text.NumeralFault.tooLong digits).message ""
  | .rivalAlphabets => "ASCII and UNICODE flags are incompatible"

/-- The text itself is at fault, as opposed to a number or a flag that does not fit. -/
def ReadError.isMalformed : ReadError → Bool
  | .malformed .. => true
  | _ => false

def Halt.toError (text : List Char) (total : Nat) (halt : Halt) : ReadError :=
  match halt.stop with
  | .malformed cause =>
    .malformed cause (some (Place.ofPosition text (total - halt.left - halt.back)))
  | .countTooLarge => .countTooLarge
  | .countTooLong digits => .countTooLong digits
  | .rivalAlphabets => .rivalAlphabets

end RequestRouter
