import CovertVault.Text.Case

namespace CovertVault.Files

/-- The text before the last point and the text behind it, if there is a point. -/
def splitLastPoint (name : List Char) : Option (List Char × List Char) :=
  let tail := name.reverse.takeWhile (· ≠ '.')
  match name.reverse.dropWhile (· ≠ '.') with
  | [] => none
  | _ :: r => some (r.reverse, tail.reverse)

/-- What stands behind the last point, in lower case; empty without a point. -/
def extension (name : String) : String :=
  match splitLastPoint name.toList with
  | none => ""
  | some (_, ext) => String.ofList (Text.lower ext)

/-- What stands before the last point; the whole name without one. -/
def stem (name : String) : String :=
  match splitLastPoint name.toList with
  | none => name
  | some (s, _) => String.ofList s

end CovertVault.Files
