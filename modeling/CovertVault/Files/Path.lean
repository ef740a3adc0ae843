import CovertVault.Text.Pieces

namespace CovertVault.Files

/-- Why a file cannot be read or written. -/
inductive FileError where
  /-- No path holds a NUL. -/
  | nul
  | missing
  | directory
  /-- A path that leads on from a file. -/
  | notDirectory
  | longName
deriving Repr, DecidableEq

structure Path where
  /-- Slashes in front: none for a path that starts in the working directory. -/
  root : String
  parts : List String
deriving Repr, DecidableEq

namespace Path

/-- Exactly two slashes in front are a root of their own, any other number is as good as one. -/
def rootOf : List Char → String
  | '/' :: '/' :: '/' :: _ => "/"
  | '/' :: '/' :: _ => "//"
  | '/' :: _ => "/"
  | _ => ""

def ofString (s : String) : Path :=
  ⟨rootOf s.toList, (Text.pieces '/' s.toList).filterMap fun p =>
    if p = [] ∨ p = ['.'] then none else some (String.ofList p)⟩

def text (p : Path) : String :=
  if p.root = "" ∧ p.parts = [] then "." else p.root ++ String.intercalate "/" p.parts

/-- The last part; empty when there is none. -/
def name (p : Path) : String := p.parts.getLast?.getD ""

/-- The most bytes that the name of a file takes. -/
def maxName : Nat := 255

/-- The name of a file right in the working directory, if the path leads to one. There are no
directories in it, and some names are those of files. -/
def plainName (isFile : String → Bool) (p : Path) : Except FileError String :=
  if p.parts.any fun part => part.toList.contains '\x00' then .error .nul
  else if p.root ≠ "" then .error .missing
  else match p.parts with
    | [] => .error .directory
    | name :: rest =>
      if maxName < name.utf8ByteSize then .error .longName
      else if rest ≠ [] then .error (if isFile name then .notDirectory else .missing)
      else if name = ".." then .error .directory
      else .ok name

end Path

end CovertVault.Files
