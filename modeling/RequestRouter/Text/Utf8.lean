/-!
# Reading bytes as text

Bytes are read as UTF-8. Where they are not well formed, the longest start of a character that the
bytes still agree with, or a single byte that can start none, becomes one replacement character, and
reading goes on after it.
-/

namespace RequestRouter.Text

/-- The character that stands for bytes that are no text. -/
def replacement : Char := Char.ofNat 0xFFFD

def isContinuation (b : UInt8) : Bool := 0x80 ≤ b && b ≤ 0xBF

/-- The second byte that may follow the first one of three or four. -/
def maySecond (a b : UInt8) : Bool :=
  if a == 0xE0 then 0xA0 ≤ b && b ≤ 0xBF
  else if a == 0xED then 0x80 ≤ b && b ≤ 0x9F
  else if a == 0xF0 then 0x90 ≤ b && b ≤ 0xBF
  else if a == 0xF4 then 0x80 ≤ b && b ≤ 0x8F
  else isContinuation b

def payload (b : UInt8) : Nat := b.toNat % 64

/-- The text that bytes spell, with replacement characters where they spell none. -/
def decodeUtf8 : List UInt8 → List Char
  | [] => []
  | a :: afterA =>
    if a < 0x80 then Char.ofNat a.toNat :: decodeUtf8 afterA
    else if 0xC2 ≤ a && a ≤ 0xDF then
      match afterA with
      | [] => [replacement]
      | b :: afterB =>
        if isContinuation b then Char.ofNat (a.toNat % 32 * 64 + payload b) :: decodeUtf8 afterB
        else replacement :: decodeUtf8 (b :: afterB)
    else if 0xE0 ≤ a && a ≤ 0xEF then
      match afterA with
      | [] => [replacement]
      | b :: afterB =>
        if !maySecond a b then replacement :: decodeUtf8 (b :: afterB)
        else match afterB with
          | [] => [replacement]
          | c :: afterC =>
            if isContinuation c then
              Char.ofNat ((a.toNat % 16 * 64 + payload b) * 64 + payload c) :: decodeUtf8 afterC
            else replacement :: decodeUtf8 (c :: afterC)
    else if 0xF0 ≤ a && a ≤ 0xF4 then
      match afterA with
      | [] => [replacement]
      | b :: afterB =>
        if !maySecond a b then replacement :: decodeUtf8 (b :: afterB)
        else match afterB with
          | [] => [replacement]
          | c :: afterC =>
            if !isContinuation c then replacement :: decodeUtf8 (c :: afterC)
            else match afterC with
              | [] => [replacement]
              | d :: afterD =>
                if isContinuation d then
                  Char.ofNat
                    (((a.toNat % 8 * 64 + payload b) * 64 + payload c) * 64 + payload d)
                    :: decodeUtf8 afterD
                else replacement :: decodeUtf8 (d :: afterD)
    else replacement :: decodeUtf8 afterA

end RequestRouter.Text
