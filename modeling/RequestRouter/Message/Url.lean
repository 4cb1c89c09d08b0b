import RequestRouter.Message.NetworkAddress
import RequestRouter.Text.Lowercase
import RequestRouter.Text.Quoted

/-!
# Addresses

An address is split into scheme, host, path, query and fragment. Of these only path and query are
kept. Blanks and control characters in front are dropped, and tabulators and line ends wherever they
stand. A host in square brackets has to be an address of version 6 or later.
-/

namespace RequestRouter

inductive UrlFault
  /-- The host has one of the two square brackets without the other, or something before the first
  or right behind the second. -/
  | misplacedBracket
  /-- The text in brackets starts like an address of a later version, and goes on in another way. -/
  | badFuture
  /-- The text in brackets is no address. -/
  | noAddress (text : String)
  /-- The text in brackets is an address of version 4. -/
  | version4
  /-- The host has a character that stands for several, one of them with a meaning of its own. -/
  | spreadingHost (host : String)
  deriving DecidableEq, Repr

def UrlFault.message : UrlFault → String
  | .misplacedBracket => "Invalid IPv6 URL"
  | .badFuture => "IPvFuture address is invalid"
  | .noAddress text => Text.quote text ++ " does not appear to be an IPv4 or IPv6 address"
  | .version4 => "An IPv4 address cannot be in brackets"
  | .spreadingHost host =>
    "netloc '" ++ host ++ "' contains invalid characters under NFKC normalization"

/-- The parts of an address that are kept. -/
structure Url where
  path : String
  query : String
  deriving DecidableEq, Repr

namespace Url

/-- Characters that are dropped in front: the blank and the control characters below it. -/
def isLeading (c : Char) : Bool := c ≤ ' '

/-- Characters that are dropped everywhere. -/
def isDropped (c : Char) : Bool := c == '\t' || c == '\r' || c == '\n'

def isLatinLetter (c : Char) : Bool := ('a' ≤ c && c ≤ 'z') || ('A' ≤ c && c ≤ 'Z')

def inScheme (c : Char) : Bool :=
  isLatinLetter c || ('0' ≤ c && c ≤ '9') || c == '+' || c == '-' || c == '.'

/-- The address without its scheme, if it has one: a letter and further characters of schemes before
the first colon. -/
def dropScheme (url : List Char) : List Char :=
  match url.dropWhile (· != ':') with
  | [] => url
  | _ :: rest =>
    let scheme := url.takeWhile (· != ':')
    if scheme.head?.any isLatinLetter && scheme.all inScheme then rest else url

def endsHost (c : Char) : Bool := c == '/' || c == '?' || c == '#'

/-- The host, where there are two slashes in front of it, and what follows. -/
def takeHost : List Char → List Char × List Char
  | '/' :: '/' :: rest => (rest.takeWhile (!endsHost ·), rest.dropWhile (!endsHost ·))
  | url => ([], url)

/-- A text up to a character, and what follows that character. -/
def splitAt (mark : Char) (text : List Char) : List Char × List Char :=
  (text.takeWhile (· != mark), (text.dropWhile (· != mark)).drop 1)

/-- Codes of characters that stand for several others or for another one, among which is a slash, a
question mark, a number sign, an at sign or a colon. -/
def spreadingCodes : List Nat :=
  [0x2047, 0x2048, 0x2049, 0x2100, 0x2101, 0x2105, 0x2106, 0x2A74, 0xFE13, 0xFE16, 0xFE55, 0xFE56,
    0xFE5F, 0xFE6B, 0xFF03, 0xFF0F, 0xFF1A, 0xFF1F, 0xFF20]

/-- The host without the name of a user in front of it, which ends at the last at sign. -/
def withoutUser (host : List Char) : List Char := (host.reverse.takeWhile (· != '@')).reverse

def bracketedFault (text : List Char) : Option UrlFault :=
  if text.head? == some 'v' then
    if NetworkAddress.isFuture text then none else some .badFuture
  else if NetworkAddress.isVersion4 text then some .version4
  else if NetworkAddress.isVersion6 text then none
  else some (.noAddress (String.ofList text))

/-- What is wrong with a host that has both brackets. If they belong to the user in front of it, the
host has to be an address all the same. -/
def bracketsFault (host : List Char) : Option UrlFault :=
  let host := withoutUser host
  if host.contains '[' then
    let (before, bracketed) := splitAt '[' host
    let (text, port) := splitAt ']' bracketed
    if !before.isEmpty || !port.head?.all (· == ':') then some .misplacedBracket
    else bracketedFault text
  else bracketedFault (splitAt ':' host).1

def hostFault (host : List Char) : Option UrlFault :=
  if host.contains '[' != host.contains ']' then some .misplacedBracket
  else ((if host.contains '[' then bracketsFault host else none)).or <|
    if host.any fun c => spreadingCodes.contains c.toNat then
      some (.spreadingHost (String.ofList host))
    else none

def ofText (text : String) : Except UrlFault Url :=
  let address := (text.toList.dropWhile isLeading).filter (!isDropped ·)
  let (host, rest) := takeHost (dropScheme address)
  match hostFault host with
  | some fault => .error fault
  | none =>
    let (rest, _) := splitAt '#' rest
    let (path, query) := splitAt '?' rest
    .ok ⟨String.ofList path, String.ofList query⟩

end Url

end RequestRouter
