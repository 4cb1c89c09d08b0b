/-!
# Literal text inside an expression

A backslash in front of every character that has a meaning of its own, in some mode, makes a text
match itself and nothing else.
-/

namespace RequestRouter

/-- The characters that are written with a backslash to stand for themselves. -/
def isReserved (c : Char) : Bool := "()[]{}?*+-|^$\\.&~# \t\n\r\x0b\x0c".toList.contains c

def verbatimChar (c : Char) : List Char := if isReserved c then ['\\', c] else [c]

def verbatim (text : List Char) : List Char := text.flatMap verbatimChar

end RequestRouter
