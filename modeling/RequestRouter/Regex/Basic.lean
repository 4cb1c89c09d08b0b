/-!
# Regular expressions

The terms that an expression text is read into. Flags are resolved while the text is read, so each
term says by itself how it compares letters and which characters its classes hold; groups are known
by their numbers, which count opening parentheses from one.
-/

namespace RequestRouter

/-- How letters are compared: as they are, or up to case in one of two alphabets. -/
inductive Folding
  | exact
  | ascii
  | unicode
  deriving DecidableEq, Repr, Inhabited

/-- A named class of characters. -/
inductive Category
  | digit
  | blank
  | word
  deriving DecidableEq, Repr

/-- One member of a bracketed class. -/
inductive ClassItem
  | single (code : Nat)
  | range (first last : Nat)
  /-- A named class or its complement, over all characters or over the first 128 only. -/
  | named (category : Category) (complement ascii : Bool)
  deriving DecidableEq, Repr

/-- What one character of the text is held against. -/
inductive CharTest
  /-- Any character, the newline only if `newline` is set. -/
  | any (newline : Bool)
  | literal (folding : Folding) (complement : Bool) (code : Nat)
  | oneOf (folding : Folding) (complement : Bool) (items : List ClassItem)
  deriving DecidableEq, Repr

/-- A condition on a place in the text. -/
inductive Anchor
  | textStart
  | lineStart
  | textEnd
  /-- At the end, or before a newline that ends the text. -/
  | lastLineEnd
  | lineEnd
  /-- Between a word character and another one, or its complement. -/
  | wordEdge (complement ascii : Bool)
  deriving DecidableEq, Repr

/-- The order in which the repetitions of a term are tried. -/
inductive Greed
  | greedy
  | lazy
  | possessive
  deriving DecidableEq, Repr

/-- The least and the greatest number of characters that a term takes; `none` is no bound. -/
structure Width where
  least : Nat
  most : Option Nat
  deriving DecidableEq, Repr

inductive Regex
  | empty
  | one (test : CharTest)
  | place (anchor : Anchor)
  | seq (first second : Regex)
  /-- One way of a choice. It is tried only where the character stands that it begins with. -/
  | alternative (body : Regex)
  | either (first second : Regex)
  /-- A group that records the piece of text it took. -/
  | group (number : Nat) (body : Regex)
  /-- At least `least` and at most `most` times the body. -/
  | loop (greed : Greed) (least : Nat) (most : Option Nat) (body : Regex)
  /-- Only the first way in which the body matches. -/
  | atomic (body : Regex)
  /-- The body matches, or does not match, at this place, or so far before it as it is wide. -/
  | look (behind : Option Width) (negated : Bool) (body : Regex)
  /-- The text that a group took, once more. -/
  | again (folding : Folding) (number : Nat)
  /-- One of two terms, according to whether a group took part. -/
  | ifGroup (number : Nat) (present absent : Regex)
  deriving DecidableEq, Repr

namespace Regex

/-- Terms one after another. -/
def seqAll : List Regex → Regex
  | [] => .empty
  | [r] => r
  | r :: rest => .seq r (seqAll rest)

/-- Terms as the ways of a choice, the first one preferred. -/
def eitherAll : List Regex → Regex
  | [] => .empty
  | [r] => .alternative r
  | r :: rest => .either (.alternative r) (eitherAll rest)

end Regex

/-- An expression ready for matching: its term, the number of its groups and the least number of
characters that it takes. -/
structure Expression where
  regex : Regex
  groups : Nat
  least : Nat
  deriving DecidableEq, Repr

end RequestRouter
