/-!
# Digits

The decimal digits of a script stand in a row, from its zero to its nine, so the zeros alone give
every digit with its value. Digits of numbers written in a base of at most sixteen are letters of
either case above nine.
-/

namespace RequestRouter.Text

/-! ## Decimal digits -/

/-- The code of the digit zero in each script, ascending. -/
def zeros : List Nat :=
  [0x30, 0x660, 0x6F0, 0x7C0, 0x966, 0x9E6, 0xA66, 0xAE6, 0xB66, 0xBE6, 0xC66, 0xCE6, 0xD66,
   0xDE6, 0xE50, 0xED0, 0xF20, 0x1040, 0x1090, 0x17E0, 0x1810, 0x1946, 0x19D0, 0x1A80, 0x1A90,
   0x1B50, 0x1BB0, 0x1C40, 0x1C50, 0xA620, 0xA8D0, 0xA900, 0xA9D0, 0xA9F0, 0xAA50, 0xABF0, 0xFF10,
   0x104A0, 0x10D30, 0x11066, 0x110F0, 0x11136, 0x111D0, 0x112F0, 0x11450, 0x114D0, 0x11650,
   0x116C0, 0x11730, 0x118E0, 0x11950, 0x11C50, 0x11D50, 0x11DA0, 0x16A60, 0x16AC0, 0x16B50,
   0x1D7CE, 0x1D7D8, 0x1D7E2, 0x1D7EC, 0x1D7F6, 0x1E140, 0x1E2F0, 0x1E950, 0x1FBF0]

/-- The value of `code` among digits whose zeros are listed ascending. -/
def digitAmong : List Nat → Nat → Option Nat
  | [], _ => none
  | start :: rest, code =>
    if code < start then none
    else if code < start + 10 then some (code - start)
    else digitAmong rest code

/-- The value of a decimal digit of any script. -/
def digitValue? (code : Nat) : Option Nat := digitAmong zeros code

def isDigit (code : Nat) : Bool := (digitValue? code).isSome

def isAsciiDigit (code : Nat) : Bool := 48 ≤ code && code ≤ 57

/-! ## Numbers in a base -/

/-- A digit of a number written in hexadecimal. -/
def isHexDigit (c : Char) : Bool :=
  c.isDigit || ('a' ≤ c && c ≤ 'f') || ('A' ≤ c && c ≤ 'F')

/-- A digit of a number written in octal. -/
def isOctalDigit (c : Char) : Bool := '0' ≤ c && c ≤ '7'

def hexValue (c : Char) : Nat :=
  if c.isDigit then c.toNat - 48 else if c.toNat < 97 then c.toNat - 55 else c.toNat - 87

/-- The number with the given digits. -/
def ofBase (base : Nat) (digits : List Char) : Nat :=
  digits.foldl (fun n c => n * base + hexValue c) 0

/-- A further digit moves those in front of it up by one place. -/
theorem ofBase_concat (base : Nat) (digits : List Char) (c : Char) :
    ofBase base (digits ++ [c]) = ofBase base digits * base + hexValue c := by
  simp [ofBase]

end RequestRouter.Text
