import CovertVault.Files.MediaTable
import CovertVault.Text.Case

namespace CovertVault.Files

def defaultMediaType : String := "application/octet-stream"

/-- Short extensions of compressed archives, and what they stand for. -/
def archiveAliases : List (String × String) :=
  [(".svgz", ".svg.gz"), (".tgz", ".tar.gz"), (".taz", ".tar.gz"), (".tz", ".tar.gz"),
    (".tbz2", ".tar.bz2"), (".txz", ".tar.xz")]

def encodingExtensions : List String := [".gz", ".Z", ".bz2", ".xz", ".br"]

/-- Drops a scheme: a run of characters other than slashes and colons, and the colon behind it. -/
def dropScheme (s : List Char) : List Char :=
  match s.takeWhile (fun c => c ≠ '/' ∧ c ≠ ':'), s.dropWhile (fun c => c ≠ '/' ∧ c ≠ ':') with
  | _ :: _, ':' :: r => r
  | _, _ => s

/-- A location cut before the last point of its last component, points at that component's start
left aside. -/
def splitExtension (s : List Char) : List Char × List Char :=
  let last := (s.reverse.takeWhile (· ≠ '/')).reverse
  let dir := s.take (s.length - last.length)
  let points := last.takeWhile (· = '.')
  let body := last.dropWhile (· = '.')
  let ext := (body.reverse.takeWhile (· ≠ '.')).reverse
  if body.contains '.' then
    (dir ++ points ++ body.take (body.length - ext.length - 1), '.' :: ext)
  else (s, [])

/-- Follows the alias of an archive's extension. No alias leads to another. -/
def expandAlias (s : List Char) : List Char × List Char :=
  let (base, ext) := splitExtension s
  match archiveAliases.lookup (String.ofList ext) with
  | some long => splitExtension (base ++ long.toList)
  | none => (base, ext)

def lookupMedia (ext : List Char) : Option String :=
  match ext with
  | '.' :: e => (mediaTable.find? fun row => row.2.contains (String.ofList e)).map (·.1)
  | _ => none

/-- The media type of a file with this extension, in any case. -/
def mediaType (ext : String) : String :=
  if ext = "" then defaultMediaType
  else
    let (base, e) := expandAlias (dropScheme ("file.".toList ++ Text.lower ext.toList))
    let e := if encodingExtensions.contains (String.ofList e) then (splitExtension base).2 else e
    (lookupMedia (Text.lower e)).getD defaultMediaType

end CovertVault.Files
