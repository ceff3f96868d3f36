import FlowDraft.Decimal.Entered
import FlowDraft.Text.Bytes
import FlowDraft.Text.Search

/-!
# `FlowDraft.Http.Target`: what a request is directed at

In a plain framework a request is directed at a path and, behind a question mark, at a query of
named values. Both come from a reference, which may name a scheme and a host as well. A reference
without them is taken from the root of the site.

In a path and in a query a percent sign with two hexadecimal digits stands for a byte, and the
bytes are UTF-8. A path is decoded twice: once by whoever asks and once by whoever answers.
-/

set_option autoImplicit false

namespace FlowDraft.Http

/-! ### Percent signs -/

namespace Percent

/-- The bytes that a text with percent signs stands for. A percent sign without two digits behind it
stands for itself. -/
def bytes : List Char → List UInt8
  | [] => []
  | '%' :: a :: b :: rest =>
    match Text.hexValue? a, Text.hexValue? b with
    | some high, some low => UInt8.ofNat (16 * high + low) :: bytes rest
    | _, _ => Text.Bytes.ofChars ['%'] ++ bytes (a :: b :: rest)
  | c :: rest => Text.Bytes.ofChars [c] ++ bytes rest

/-- The text that a text with percent signs stands for. -/
def decode (cs : List Char) : List Char :=
  Text.Bytes.repair (bytes cs)

/-- A byte as a percent sign and two digits. -/
def escape (b : UInt8) : List Char :=
  '%' :: Text.hex 2 b.toNat

/-- The printed characters that do not stand for themselves in a query that is written out. -/
def writtenInQuery : List Char := ['"', '#', '<', '>']

/-- The printed characters that do not stand for themselves in a path that is written out. -/
def writtenInPath : List Char := writtenInQuery ++ ['?', '\x60', '\x7b', '\x7d']

/-- A character that stands for itself beside those written with percent signs. -/
def stays (written : List Char) (c : Char) : Bool :=
  0x20 < c.toNat && c.toNat < 0x7F && !written.contains c

/-- The length of a text with percent signs for all bytes of the characters that do not stay. -/
def writtenLength (written cs : List Char) : Nat :=
  cs.foldl (fun n c => n + if stays written c then 1 else 3 * c.utf8Size) 0

/-- The text with percent signs for everything but letters and digits of ASCII. -/
def encode (cs : List Char) : List Char :=
  cs.flatMap fun c => if c.isAlphanum then [c] else (Text.Bytes.ofChars [c]).flatMap escape

end Percent

/-! ### References -/

/-- A text that says where something is. -/
structure Reference where
  /-- The scheme in small letters, empty if none is named. -/
  scheme : List Char
  /-- Who is asked, empty if nobody is named. -/
  authority : List Char
  path : List Char
  query : List Char
deriving Repr, DecidableEq

namespace Reference

/-- The characters of a scheme. -/
def isSchemeChar (c : Char) : Bool :=
  c.isAlphanum || c == '+' || c == '.' || c == '-'

/-- The scheme at the start of a text, and what follows its colon. -/
def cutScheme (cs : List Char) : List Char × List Char :=
  let name := cs.takeWhile isSchemeChar
  match cs.dropWhile isSchemeChar with
  | ':' :: rest => if name.head?.all Char.isAlpha then (name.map Char.toLower, rest) else ([], cs)
  | _ => ([], cs)

/-- The authority behind two slashes at the start of a text, and what follows it. -/
def cutAuthority : List Char → List Char × List Char
  | '/' :: '/' :: rest =>
    let inside (c : Char) := c != '/' && c != '?' && c != '#'
    (rest.takeWhile inside, rest.dropWhile inside)
  | cs => ([], cs)

/-- The path at the start of a text and the query behind it, without a fragment. -/
def cutPath (cs : List Char) : List Char × List Char :=
  let inside (c : Char) := c != '?' && c != '#'
  let query := match cs.dropWhile inside with
    | '?' :: rest => rest.takeWhile (· != '#')
    | _ => []
  (cs.takeWhile inside, query)

/-- The reference that a text is. -/
def ofChars (cs : List Char) : Reference :=
  let (scheme, afterScheme) := cutScheme cs
  let (authority, afterAuthority) := cutAuthority afterScheme
  let (path, query) := cutPath afterAuthority
  ⟨scheme, authority, path, query⟩

/-- The host of an authority and what follows it. A user before an at sign is no part of it, and a
host in brackets may hold colons. -/
def cutHost (authority : List Char) : List Char × List Char :=
  let place := (authority.reverse.takeWhile (· != '@')).reverse
  if place.head? = some '[' && place.contains ']' then
    let behind := (place.reverse.takeWhile (· != ']')).reverse
    (place.take (place.length - behind.length), behind)
  else (place.takeWhile (· != ':'), place.dropWhile (· != ':'))

/-- The service number of an authority, empty if none is named. -/
def serviceNumber (authority : List Char) : List Char :=
  match (cutHost authority).2 with
  | ':' :: digits => digits
  | digits => digits

/-- The reference names both a scheme and a host. -/
def isAbsolute (r : Reference) : Bool :=
  !r.scheme.isEmpty && !(cutHost r.authority).1.isEmpty

/-- The reference names neither a scheme nor anything else in front of its path. -/
def isBare (r : Reference) : Bool :=
  r.scheme.isEmpty && r.authority.isEmpty

/-- The service number is one, and a bare path cannot be taken for an authority or a scheme. -/
def isWellFormed (r : Reference) : Bool :=
  let digits := serviceNumber r.authority
  (digits.isEmpty || (Decimal.Entered.toInt (String.ofList digits)).isOk) &&
    !(r.isBare && (['/', '/'].isPrefixOf r.path || [':'].isPrefixOf r.path))

end Reference

/-! ### Steps of a path -/

/-- The step that stays where it is. -/
def stayStep : List Char := ['.']

/-- The step that goes back. -/
def backStep : List Char := ['.', '.']

/-- One more step on the way. The way does not go back behind the root. -/
def takeStep (way : List (List Char)) (step : List Char) : List (List Char) :=
  if step = stayStep then way
  else if step = backStep then
    if way.length ≤ 1 && way.all List.isEmpty then way else way.dropLast
  else way ++ [step]

/-- The path without steps that stay or go back. -/
def settle (path : List Char) : List Char :=
  ['/'].intercalate ((Text.pieces '/' path).foldl takeStep [])

/-! ### Targets -/

/-- What a request is directed at: a decoded path, and a query that is not decoded yet. -/
structure Target where
  path : List Char
  query : List Char := []
deriving Repr, DecidableEq

/-- Why a reference leads nowhere. -/
inductive TargetError where
  | malformed
  /-- Nobody answers for the scheme. -/
  | unknownScheme (scheme : String)
  /-- The scheme is one of conversations, and a request opens none. -/
  | conversation
deriving Repr, DecidableEq

namespace Target

/-- The most characters of a reference. -/
def maxLength : Nat := 65536

/-- The schemes of requests. -/
def schemes : List (List Char) := ["http".toList, "https".toList]

/-- The schemes of conversations. -/
def conversationSchemes : List (List Char) := ["ws".toList, "wss".toList]

/-- A character that no reference holds. -/
def isControl (c : Char) : Bool :=
  c.toNat < 0x20 || c.toNat == 0x7F

/-- The target with a path that is not decoded yet. An empty path is the root. -/
def make (path query : List Char) : Target :=
  ⟨Percent.decode (Percent.decode (if path.isEmpty then ['/'] else path)), query⟩

/-- The path of a reference from the root of the site. -/
def fromRoot (r : Reference) : List Char :=
  let path := if r.isBare then r.path else settle r.path
  settle ('/' :: path.dropWhile (· == '/'))

/-- The parts of a reference from the root are not too long once they are written out. -/
def fits (r : Reference) : Bool :=
  Percent.writtenLength Percent.writtenInPath (fromRoot r) ≤ maxLength &&
    Percent.writtenLength Percent.writtenInQuery r.query ≤ maxLength

/-- The target of a reference. -/
def ofReference (s : String) : Except TargetError Target :=
  let cs := s.toList
  let r := Reference.ofChars cs
  if cs.any isControl || maxLength < cs.length || !r.isWellFormed then .error .malformed
  else if !r.isAbsolute then
    if fits r then .ok (make (fromRoot r) r.query) else .error .malformed
  else if schemes.contains r.scheme then .ok (make (settle r.path) r.query)
  else if conversationSchemes.contains r.scheme then .error .conversation
  else .error (.unknownScheme (String.ofList r.scheme))

/-- The target of a request that is sent to another path of this site. The path is escaped once on
the way, and its steps are taken. -/
def resent (path query : List Char) : Target :=
  ⟨Percent.decode (settle path), query⟩

/-! ### Named values -/

/-- A name or a value in a query. A plus sign stands for a space. -/
def decodeValue (cs : List Char) : String :=
  String.ofList (Percent.decode (cs.map fun c => if c == '+' then ' ' else c))

/-- The name and the value in a piece of a query. A piece without an equals sign has an empty
value. -/
def namedValue (piece : List Char) : String × String :=
  let (name, value) := (Text.cutAt ['='] piece).getD (piece, [])
  (decodeValue name, decodeValue value)

/-- The named values in a query. -/
def namedValues (query : List Char) : List (String × String) :=
  ((Text.pieces '&' query).filter fun piece => !piece.isEmpty).map namedValue

/-- The query that holds named values. -/
def queryOf (values : List (String × String)) : List Char :=
  ['&'].intercalate (values.map fun (name, value) =>
    Percent.encode name.toList ++ '=' :: Percent.encode value.toList)

/-- The target with named values in place of its query. -/
def withValues (t : Target) (values : List (String × String)) : Except TargetError Target :=
  let query := queryOf values
  if maxLength < query.length then .error .malformed else .ok { t with query }

/-- The value of a name. Of several values the last one counts. -/
def value? (t : Target) (name : String) : Option String :=
  (namedValues t.query).reverse.lookup name

end Target

end FlowDraft.Http
