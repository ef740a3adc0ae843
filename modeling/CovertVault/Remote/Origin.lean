import CovertVault.Remote.Host
import CovertVault.Text.Quoted

namespace CovertVault.Remote
open Text

inductive OriginError where
  | noScheme (address : List Char)
  /-- Brackets that do not stand around a host. -/
  | brackets
  | futureAddress
  | noNumbers (host : List Char)
  | fourBytes
deriving Repr, DecidableEq

def OriginError.message : OriginError → String
  | .noScheme address => "unknown url type: " ++ quote address
  | .brackets => "Invalid IPv6 URL"
  | .futureAddress => "IPvFuture address is invalid"
  | .noNumbers host => quote host ++ " does not appear to be an IPv4 or IPv6 address"
  | .fourBytes => "An IPv4 address cannot be in brackets"

namespace Origin

/-- An address may call itself one. -/
def unwrap (address : List Char) : List Char :=
  if address.take 4 = "URL:".toList then address.drop 4 else address

/-- What stands before the last mark of a kind, and what stands behind it, if there is one. -/
def splitLast? (mark : Char) (s : List Char) : Option (List Char × List Char) :=
  if s.contains mark then
    let back := (s.reverse.takeWhile (· ≠ mark)).reverse
    some (s.take (s.length - back.length - 1), back)
  else none

/-- An address without its fragment, and with it. An empty one is none. -/
def trim (address : List Char) : List Char × List Char :=
  match splitLast? '#' address with
  | some (front, []) => (front, front)
  | some (front, _) => (front, address)
  | none => (address, address)

/-- Whether something that may be a scheme stands in front. -/
def hasScheme (s : List Char) : Bool :=
  let name := s.takeWhile fun c => c ≠ '/' && c ≠ ':'
  name ≠ [] && s[name.length]? = some ':'

/-- What follows the scheme. -/
def dropScheme (s : List Char) : List Char :=
  let name := s.takeWhile (· ≠ ':')
  let isPart (c : Char) : Bool := c.isAlphanum || ['+', '-', '.'].contains c
  if name.length < s.length ∧ name.head?.any Char.isAlpha ∧ name.all isPart then
    s.drop (name.length + 1)
  else s

/-- The authority behind a scheme. -/
def authority : List Char → List Char
  | '/' :: '/' :: r => r.takeWhile fun c => c ≠ '/' && c ≠ '?' && c ≠ '#'
  | _ => []

/-- An address of a kind to come: its version in hexadecimal digits, a point, and anything. -/
def isFuture (host : List Char) : Bool :=
  let version := host.tail.takeWhile (· ≠ '.')
  version ≠ [] && version.all (fun c => (hexValue? c).isSome) &&
    version.length + 2 < host.length

/-- A host that is taken to be in brackets. -/
def checkHost (host : List Char) : Except OriginError Unit :=
  if host.head? = some 'v' then if isFuture host then .ok () else .error .futureAddress
  else if Host.isFourBytes host then .error .fourBytes
  else if Host.isBracketed host then .ok ()
  else .error (.noNumbers host)

/-- Brackets stand around a whole host, which only a port may follow. They are looked for in the
whole authority, but the host in the part of it behind the user. -/
def checkAuthority (s : List Char) : Except OriginError Unit :=
  if s.contains '[' ≠ s.contains ']' then .error .brackets
  else if !s.contains '[' then .ok ()
  else
    let place := ((splitLast? '@' s).map (·.2)).getD s
    if place.contains '[' then
      let inside := (place.dropWhile (· ≠ '[')).tail
      let port := (inside.dropWhile (· ≠ ']')).tail
      if place.head? ≠ some '[' ∨ port ≠ [] ∧ port.head? ≠ some ':' then .error .brackets
      else checkHost (inside.takeWhile (· ≠ ']'))
    else checkHost (place.takeWhile (· ≠ ':'))

def check (address : List Char) : Except OriginError Unit :=
  let (front, whole) := trim (unwrap address)
  if hasScheme front then checkAuthority (authority (dropScheme whole))
  else .error (.noScheme whole)

end Origin

end CovertVault.Remote
