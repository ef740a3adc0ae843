import CovertVault.Bytes
import CovertVault.Number.Decimal
import CovertVault.Number.Grouped
import CovertVault.Remote.Host
import CovertVault.Remote.HostName
import CovertVault.Text.Quoted
import CovertVault.Text.Unencodable

namespace CovertVault.Remote
open Text

inductive AddressError where
  | tooLong
  /-- A part that is too long in its settled form. -/
  | partTooLong (part : String)
  /-- A control character at a position. -/
  | control (c : Char) (position : Nat)
  /-- A host that looks like four numbers, like a number in brackets or like a name, and is none. -/
  | fourNumbers (host : List Char)
  | bracketed (host : List Char)
  | name (host : List Char)
  | port (text : List Char)
  /-- Without scheme and host, the beginning of a path would be taken for one of them. -/
  | path (start : String)
deriving Repr, DecidableEq

def AddressError.message : AddressError → String
  | .tooLong => "URL too long"
  | .partTooLong part => "URL component '" ++ part ++ "' too long"
  | .control c position =>
    "Invalid non-printable ASCII character in URL, " ++ quote [c] ++ " at position "
      ++ String.ofList (Number.natText position) ++ "."
  | .fourNumbers host => "Invalid IPv4 address: " ++ quote host
  | .bracketed host => "Invalid IPv6 address: " ++ quote host
  | .name host => "Invalid IDNA hostname: " ++ quote host
  | .port text => "Invalid port: " ++ quote text
  | .path start => "Relative URLs cannot have a path starting with '" ++ start ++ "'"

inductive HostError where
  /-- The host stands for a name that is none. -/
  | name (e : LabelError)
  | unencodable (e : Unencodable)
deriving Repr, DecidableEq

def HostError.message : HostError → String
  | .name e => e.message
  | .unencodable e => e.message

/-- The parts of an address. User, host and port together are the authority. -/
structure AddressParts where
  scheme : List Char
  authority : List Char
  path : List Char
  query : Option (List Char)
  fragment : Option (List Char)
deriving Repr, DecidableEq

/-- An address in its settled form. -/
structure Address where
  scheme : List Char
  user : List Char
  host : List Char
  port : Option Int
  path : List Char
  query : Option (List Char)
  fragment : Option (List Char)
deriving Repr, DecidableEq

namespace Address

def maxLength : Nat := 65536

def isControl (c : Char) : Bool := c.toNat < 0x20 || c.toNat = 0x7f

/-- What the text of any address must obey. -/
def checkText (s : List Char) : Except AddressError Unit :=
  if maxLength < s.length then .error .tooLong
  else match s.dropWhile fun c => !isControl c with
    | [] => .ok ()
    | c :: r => .error (.control c (s.length - (r.length + 1)))

/-- A scheme, empty when there is none, and what follows it. -/
def splitScheme (s : List Char) : List Char × List Char :=
  let name := s.takeWhile fun c => c.isAlphanum || c = '+' || c = '.' || c = '-'
  match s.drop name.length with
  | ':' :: r => if name.head?.all Char.isAlpha then (name, r) else ([], s)
  | _ => ([], s)

/-- The authority, and what follows it. -/
def splitAuthority : List Char → List Char × List Char
  | '/' :: '/' :: r =>
    let inside (c : Char) : Bool := c ≠ '/' && c ≠ '?' && c ≠ '#'
    (r.takeWhile inside, r.dropWhile inside)
  | r => ([], r)

def split (s : List Char) : AddressParts :=
  let (scheme, r) := splitScheme s
  let (authority, r) := splitAuthority r
  let path := r.takeWhile fun c => c ≠ '?' && c ≠ '#'
  let (query, r) := match r.drop path.length with
    | '?' :: r => (some (r.takeWhile (· ≠ '#')), r.dropWhile (· ≠ '#'))
    | r => (none, r)
  ⟨scheme, authority, path, query, if r = [] then none else some r.tail⟩

/-- The text behind the last mark of a kind; all of it without one. -/
def behindLast (mark : Char) (s : List Char) : List Char :=
  (s.reverse.takeWhile (· ≠ mark)).reverse

/-- The host and the port behind it. -/
def splitHost (s : List Char) : List Char × List Char :=
  let host :=
    if s.head? = some '[' ∧ s.contains ']' then
      s.take (s.length - (behindLast ']' s).length)
    else s.takeWhile (· ≠ ':')
  match s.drop host.length with
  | ':' :: port => (host, port)
  | port => (host, port)

/-- A text whose other characters are escaped, byte by byte. -/
def escape (stands : Char → Bool) (s : List Char) : List Char :=
  s.flatMap fun c =>
    if stands c then [c]
    else (Bytes.ofString (String.singleton c)).flatMap fun b =>
      '%' :: (hex 2 b.toNat).map Char.toUpper

def isVisible (c : Char) : Bool := 0x20 < c.toNat && c.toNat < 0x7f

def standsInFragment (c : Char) : Bool := isVisible c && !(['"', '<', '>', '\x60'].contains c)

def standsInQuery (c : Char) : Bool := isVisible c && !(['"', '#', '<', '>'].contains c)

def standsInPath (c : Char) : Bool :=
  standsInQuery c && !(['?', '\x60', '\x7b', '\x7d'].contains c)

def standsInUser (c : Char) : Bool :=
  standsInPath c && !(['/', ';', '=', '@', '[', '\\', ']', '^', '|'].contains c)

def standsInHost (c : Char) : Bool :=
  isVisible c && !(['#', '/', ':', '<', '>', '?', '@', '[', ']', '^'].contains c)

def settleHost (host : List Char) : Except AddressError (List Char) :=
  if Host.isNumbered host then
    if Host.isFourBytes host then .ok host else .error (.fourNumbers host)
  else if host.head? = some '[' ∧ host.getLast? = some ']' then
    let inside := host.tail.dropLast
    if Host.isBracketed inside then .ok inside else .error (.bracketed host)
  else if Label.isAscii host then .ok (escape standsInHost (host.map Char.toLower))
  else (HostName.toAscii host).mapError fun _ => .name host

/-- The ports that go without saying. -/
def defaultPort? (scheme : List Char) : Option Int :=
  match String.ofList scheme with
  | "ftp" => some 21
  | "http" | "ws" => some 80
  | "https" | "wss" => some 443
  | _ => none

def settlePort (scheme port : List Char) : Except AddressError (Option Int) :=
  if port = [] then .ok none
  else match Number.looseInt? port with
    | none => .error (.port port)
    | some n => .ok (if defaultPort? scheme = some n then none else some n)

/-- Goes back one step of a path, which lies innermost first; not over the slash in front. -/
def stepBack : List (List Char) → List (List Char)
  | [[]] => [[]]
  | steps => steps.tail

/-- A path whose single dots are left out and whose double dots go back one step. -/
def dropDots (path : List Char) : List Char :=
  let steps := (pieces '/' path).foldl
    (fun steps p =>
      if p = ['.'] then steps
      else if p = ['.', '.'] then stepBack steps
      else p :: steps)
    []
  (['/'] : List Char).intercalate steps.reverse

def checkPath (path : List Char) : Except AddressError Unit :=
  match path with
  | '/' :: '/' :: _ => .error (.path "//")
  | ':' :: _ => .error (.path ":")
  | _ => .ok ()

def settle (p : AddressParts) : Except AddressError Address := do
  let place := behindLast '@' p.authority
  let user := escape standsInUser (p.authority.take (p.authority.length - place.length - 1))
  let (host, port) := splitHost place
  let host ← settleHost host
  let port ← settlePort p.scheme port
  let bare : Bool := p.scheme = [] && user = [] && host = [] && port = none
  if bare then checkPath p.path
  let path := if bare then p.path else dropDots p.path
  return ⟨p.scheme.map Char.toLower, user, host, port, escape standsInPath path,
    p.query.map (escape standsInQuery), p.fragment.map (escape standsInFragment)⟩

def ofText (s : List Char) : Except AddressError Address := do
  checkText s
  settle (split s)

/-- The host as it stands in an address: one with colons in brackets. -/
def hostText (a : Address) : List Char :=
  if a.host.contains ':' then '[' :: a.host ++ [']'] else a.host

/-- Host and port. -/
def place (a : Address) : List Char :=
  a.hostText ++ (a.port.map fun n => ':' :: Number.intText n).getD []

def authority (a : Address) : List Char :=
  (if a.user = [] then [] else a.user ++ ['@']) ++ a.place

def text (a : Address) : List Char :=
  (if a.scheme = [] then [] else a.scheme ++ [':'])
    ++ (if a.authority = [] then [] else '/' :: '/' :: a.authority)
    ++ a.path ++ (a.query.map ('?' :: ·)).getD [] ++ (a.fragment.map ('#' :: ·)).getD []

def parts (a : Address) : AddressParts := ⟨a.scheme, a.authority, a.path, a.query, a.fragment⟩

/-- An address whose parts have changed. -/
def ofParts (p : AddressParts) : Except AddressError Address := do
  let check (name : String) (s : List Char) : Except AddressError Unit :=
    if maxLength < s.length then .error (.partTooLong name) else .ok ()
  check "scheme" p.scheme
  check "authority" p.authority
  check "path" p.path
  check "query" (p.query.getD [])
  check "fragment" (p.fragment.getD [])
  settle p

/-- Path and query together. An empty path is that of a slash. -/
def target (a : Address) : List Char :=
  (if a.path = [] then ['/'] else a.path) ++ (a.query.map ('?' :: ·)).getD []

def withTarget (a : Address) (target : List Char) : Except AddressError Address :=
  let path := target.takeWhile (· ≠ '?')
  let query := if path.length < target.length then some (target.drop (path.length + 1)) else none
  ofParts { a.parts with path, query }

/-- The address of a service, to which requests are added behind a slash. -/
def ofService (s : List Char) : Except AddressError Address := do
  let a ← ofText s
  if a.target.getLast? = some '/' then return a else a.withTarget (a.target ++ ['/'])

/-- A token as a query, with a plus for each space. -/
def tokenQuery (token : List Char) : List Char :=
  let stands (c : Char) : Bool := c.isAlphanum || ['-', '.', '_', '~', ' '].contains c
  "auth=".toList ++ (escape stands token).map fun c => if c = ' ' then '+' else c

/-- The address of a request to a service. -/
def ofRequest (service : Address) (request : List Char) (token : Option (List Char)) :
    Except AddressError Address := do
  let r ← ofText request
  let a ← service.withTarget (service.target ++ r.target.dropWhile (· = '/'))
  match token with
  | none => return a
  | some t => ofParts { a.parts with query := some (tokenQuery t) }

/-- Whether a request can say which host it is for. -/
def checkHost (a : Address) : Except HostError Unit := do
  if HostName.isMarked a.host then (HostName.checkAscii a.host).mapError .name
  if a.host ≠ [] then
    match Charset.ascii.unencodable? (a.place.map .char) with
    | some e => throw (.unencodable e)
    | none => return ()

end Address

end CovertVault.Remote
