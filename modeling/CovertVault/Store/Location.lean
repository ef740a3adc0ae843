import CovertVault.Bytes
import CovertVault.Text.Digit
import CovertVault.Text.Pieces
import CovertVault.Text.Utf8

namespace CovertVault.Store
open Text

/-- Where the database of a path lies: nowhere, or in a file of the working directory. -/
inductive Location where
  /-- The database goes when it is closed. -/
  | unkept
  /-- The database locks its file, to find it as others have left it, unless it was told not to. -/
  | file (name : String) (locked : Bool)
deriving Repr, DecidableEq

/-- What an address allows, from the least to the most. -/
inductive Access where
  | read
  | write
  | create
  | memory
deriving Repr, DecidableEq

namespace Access

def rank : Access → Nat
  | .read => 0
  | .write => 1
  | .create => 2
  | .memory => 3

def ofName? (name : List Char) : Option Access :=
  match String.ofList name with
  | "ro" => some .read
  | "rw" => some .write
  | "rwc" => some .create
  | "memory" => some .memory
  | _ => none

/-- An option may narrow what is allowed, or ask for memory. -/
def narrow? (now : Access) (value : List Char) : Option Access := do
  let next ← ofName? value
  if next = .memory ∨ next.rank ≤ now.rank then some next else none

end Access

namespace Location

/-- How long the name of a file may be, and that of a database, which has a journal beside it. -/
def maxName : Nat := 255
def maxDatabaseName : Nat := maxName - "-journal".length

/-- The steps of a path, innermost first, from the working directory on. A step up takes the last
one back, and no step leads into a file. In a directory that is not there nothing is refused. -/
def walk (isFile : List Char → Bool) (steps : List (List Char)) :
    List (List Char) → Option (List (List Char))
  | [] => some steps
  | part :: rest =>
    if part = [] ∨ part = ['.'] then walk isFile steps rest
    else if part = ['.', '.'] then
      match steps with
      | [] => none
      | _ :: outer => walk isFile outer rest
    else
      let isRefused : Bool := match steps with
        | [] => maxName < part.length
        | [f] => isFile f
        | _ => false
      if isRefused then none else walk isFile (part :: steps) rest

/-- A text of bytes as it reads. -/
def ofBytes (s : List Char) : String :=
  String.ofList (decodeUtf8Replacing (s.map fun c => UInt8.ofNat c.toNat))

def toBytes (s : String) : List Char := (Bytes.ofString s).map fun b => Char.ofNat b.toNat

/-- The file that a path leads to. It must lie in the working directory. -/
def ofPath? (isFile : List Char → Bool) (locked : Bool) (path : List Char) : Option Location :=
  if path.head? = some '/' then none
  else match walk isFile [] (pieces '/' path) with
    | some [name] =>
      if maxDatabaseName < name.length then none else some (.file (ofBytes name) locked)
    | _ => none

/-- A part of an address with its escapes replaced. An escaped zero ends it. -/
def unescape : List Char → List Char
  | [] => []
  | '%' :: a :: b :: r =>
    match hexValue? a, hexValue? b with
    | some x, some y => if 16 * x + y = 0 then [] else Char.ofNat (16 * x + y) :: unescape r
    | _, _ => '%' :: unescape (a :: b :: r)
  | c :: r => c :: unescape r

/-- An option of an address and its value. One without a name does not count. -/
def option? (s : List Char) : Option (List Char × List Char) :=
  match unescape (s.takeWhile (· ≠ '=')) with
  | [] => none
  | name => some (name, unescape (s.dropWhile (· ≠ '=')).tail)

def access? (options : List (List Char × List Char)) : Option Access :=
  options.foldlM (fun now (name, value) =>
    if name = "mode".toList then now.narrow? value else some now) Access.create

def cacheOk (options : List (List Char × List Char)) : Bool :=
  options.all fun (name, value) =>
    name ≠ "cache".toList || ["shared".toList, "private".toList].contains value

/-- The way files are accessed; the last mention counts. -/
def fileSystem? (options : List (List Char × List Char)) : Option String :=
  match options.reverse.lookup "vfs".toList with
  | none => some "unix"
  | some value =>
    ["unix", "unix-none", "unix-dotfile", "unix-excl", "memdb"].find? (·.toList = value)

/-- A switch that is on: a word, or a number that is not zero in its lowest byte. -/
def isOn (value : List Char) : Bool :=
  if value.head?.any isAsciiDigit then decimalValue (value.takeWhile isAsciiDigit) % 256 ≠ 0
  else ["on", "yes", "true"].contains (String.ofList (value.map Char.toLower))

/-- Whether a path leads to a file of the working directory, to that directory or to one around
it. -/
def leads (isFile : List Char → Bool) (path : List Char) : Bool :=
  let isUp (part : List Char) : Bool := part = [] || part = ['.'] || part = ['.', '.']
  let parts := pieces '/' path
  match parts.dropWhile isUp with
  | [] => path ≠ []
  | [name] => path.head? ≠ some '/' && !parts.contains ['.', '.'] && isFile name
  | _ => false

/-- A new file may be given the mode of another one, which must be there. -/
def modeOk (isFile : List Char → Bool) (options : List (List Char × List Char)) : Bool :=
  (options.lookup "modeof".toList).all (leads isFile)

/-- The file of an address behind its `file:`. A file that is not there yet must be created, and a
new database is written to. -/
def ofAddress? (isFile : List Char → Bool) (s : List Char) : Option Location := do
  let s ← match s with
    | '/' :: '/' :: r =>
      let host := r.takeWhile (· ≠ '/')
      if host = [] ∨ host = "localhost".toList then some (r.dropWhile (· ≠ '/')) else none
    | s => some s
  let s := s.takeWhile (· ≠ '#')
  let path := unescape (s.takeWhile (· ≠ '?'))
  let options := (pieces '&' (s.dropWhile (· ≠ '?')).tail).filterMap option?
  let access ← access? options
  let system ← fileSystem? options
  if !cacheOk options ∨ access = .read then none
  else if access = .memory ∨ path = [] ∨ path = ":memory:".toList then some .unkept
  else if (options.lookup "immutable".toList).any isOn then none
  else if system = "memdb" then some .unkept
  else if access = .create ∧ modeOk isFile options then
    ofPath? isFile (!(options.lookup "nolock".toList).any isOn) path
  else none

/-- The place of the database of a path, where some names are those of files already. -/
def find? (isFile : String → Bool) (path : String) : Option Location :=
  let isFile (name : List Char) : Bool := isFile (ofBytes name)
  let s := toBytes path
  if s = [] ∨ s = ":memory:".toList then some .unkept
  else if s.take 5 = "file:".toList then ofAddress? isFile (s.drop 5)
  else ofPath? isFile true s

end Location

end CovertVault.Store
