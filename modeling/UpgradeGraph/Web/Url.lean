import UpgradeGraph.Web.Host

/-!
# Web addresses

An address of the web, as `http` and `https` need it: where the server is, what it is asked
for, and a fragment, which is not sent. Reading an address brings it into one form. The
scheme is in lower case and the host in the form of its kind, the usual socket number is
left out, backslashes count as slashes, the path has no `.` and `..` in it, and whatever may
not stand in a path, a query or a fragment is percent-encoded. Credentials are not kept.
-/

namespace UpgradeGraph

/-- An address of the web. -/
structure Url where
  /-- The scheme and the server, such as `http://localhost:8080`. -/
  origin : Text
  /-- The segments of the path. -/
  path : List Text
  query : Option Text
  fragment : Option Text := none
deriving DecidableEq, Repr

namespace Url

/-- What a server is asked for: the path, and the query if there is one. -/
def target (u : Url) : Text :=
  u.path.flatMap ('/' :: ·) ++
    match u.query with
    | some query => '?' :: query
    | none => []

/-- The address as it is written. -/
def display (u : Url) : Text :=
  u.origin ++ u.target ++
    match u.fragment with
    | some fragment => '#' :: fragment
    | none => []

/-! ## Characters -/

/-- Control characters and all that is not ASCII stand nowhere in an address. -/
def isUnprintable (c : Char) : Bool := c.toNat < 0x20 || 0x7E < c.toNat

/-- Characters that stand for themselves in a path. -/
def isPathChar (c : Char) : Bool := !isUnprintable c && !(" \"#<>?`\x7b\x7d".toList.contains c)

/-- Characters that stand for themselves in a query. -/
def isQueryChar (c : Char) : Bool := !isUnprintable c && !(" \"#<>\x27".toList.contains c)

/-- Characters that stand for themselves in a fragment. -/
def isFragmentChar (c : Char) : Bool := !isUnprintable c && !(" \"<>`".toList.contains c)

/-! ## Paths -/

/-- A segment that names its own directory. -/
def isHere (segment : Text) : Bool :=
  let s := segment.map Char.toLower
  s = ['.'] || s = ("%2e" : Text)

/-- A segment that names the directory above. -/
def isAbove (segment : Text) : Bool :=
  let s := segment.map Char.toLower
  s = ("..".toList) || s = ".%2e".toList || s = "%2e.".toList || s = "%2e%2e".toList

/-- Follows the segments of a path from a directory, whose segments come last first. -/
def walk (directory : List Text) : List Text → List Text
  | [] => directory.reverse
  | [last] =>
    if isAbove last then ([] :: directory.drop 1).reverse
    else if isHere last then ([] :: directory).reverse
    else (Percent.encode isPathChar last :: directory).reverse
  | segment :: rest =>
    if isAbove segment then walk (directory.drop 1) rest
    else if isHere segment then walk directory rest
    else walk (Percent.encode isPathChar segment :: directory) rest

/-! ## Servers -/

/-- The schemes of addresses that name a server and a path, and the socket numbers that
they use. -/
def schemes : List (Text × Nat) :=
  [("http", 80), ("https", 443), ("ws", 80), ("wss", 443), ("ftp", 21)]

/-- The socket number after a host, unless it is the usual one of the scheme. -/
def socket? (usual : Nat) (s : Text) : Option Text :=
  if s.all Char.isDigit then
    let socket := Text.numeralValue s
    if s.isEmpty || socket = usual then some []
    else if socket < Nat.pow 2 16 then some (':' :: Text.ofNat socket)
    else none
  else none

/-- The length of a host, which ends at a colon outside brackets. -/
def hostLength (inBrackets : Bool) : Text → Nat
  | [] => 0
  | c :: rest =>
    if c = ':' && !inBrackets then 0
    else hostLength (c = '[' || (inBrackets && c ≠ ']')) rest + 1

/-- The server in a scheme's address, credentials left out. -/
def server? (usual : Nat) (authority : Text) : Option Text := do
  let place := (authority.reverse.takeWhile (· ≠ '@')).reverse
  let length := hostLength false place
  let socket ← socket? usual (place.drop (length + 1))
  return (← Host.parse? (place.take length)) ++ socket

/-! ## Reading -/

/-- The text without blanks and control characters at its ends, and without tabs and line
breaks. -/
def clean (s : Text) : Text :=
  let isEdge (c : Char) : Bool := c.toNat ≤ 0x20
  (((s.dropWhile isEdge).reverse.dropWhile isEdge).reverse).filter fun c =>
    c ≠ '\t' && c ≠ '\n' && c ≠ '\r'

/-- A slash in either form. -/
def isSlash (c : Char) : Bool := c = '/' || c = '\\'

/-- Reads what follows the scheme of an address, given the usual socket number. -/
def parseAfter? (scheme : Text) (usual : Nat) (s : Text) : Option Url := do
  let s := s.dropWhile isSlash
  let isEnd (c : Char) : Bool := isSlash c || c = '?' || c = '#'
  let server ← server? usual (s.takeWhile (!isEnd ·))
  let s := s.dropWhile (!isEnd ·)
  let fragment := (s.dropWhile (· ≠ '#')).tail?
  let s := s.takeWhile (· ≠ '#')
  let segments := ((s.takeWhile (· ≠ '?')).drop 1).splitOnP isSlash
  let query := (s.dropWhile (· ≠ '?')).tail?
  return {
    origin := scheme ++ ("://" : Text) ++ server
    path := walk [] segments
    query := query.map (Percent.encode isQueryChar)
    fragment := fragment.map (Percent.encode isFragmentChar) }

end Url

/-! ## Addresses of any kind

An address starts with a scheme. Requests can be made to the addresses of the web only;
what has another scheme is an address all the same. -/

/-- An address, of the web or not. -/
inductive Address where
  | web (url : Url)
  | foreign (written : Text)
deriving DecidableEq, Repr

namespace Address

/-- The schemes of the web. -/
def webSchemes : List Text := ["http", "https"]

/-- The text can be a scheme: a letter, and then letters, digits and some signs. -/
def isScheme : Text → Bool
  | [] => false
  | c :: rest => c.isAlpha && rest.all fun c => c.isAlphanum || "+-.".toList.contains c

/-- Reads an absolute address. -/
def parse? (s : Text) : Option Address := do
  let s := Url.clean s
  let scheme := (s.takeWhile (· ≠ ':')).map Char.toLower
  let rest ← (s.dropWhile (· ≠ ':')).tail?
  if !isScheme scheme then none
  else
    match Url.schemes.lookup scheme with
    | none =>
      return .foreign (scheme ++ ':' :: Percent.encode (!Url.isUnprintable ·) rest)
    | some usual =>
      let url ← Url.parseAfter? scheme usual rest
      return if webSchemes.contains scheme then .web url else .foreign url.display

end Address

end UpgradeGraph
