import CovertVault.Remote.Label
import CovertVault.Text.Case
import CovertVault.Text.Pieces

namespace CovertVault.Remote.HostName
open Text

def isPoint (c : Char) : Bool := ['.', '。', '．', '｡'].contains c

/-- The labels between the points, and whether a point ends the name. -/
def labels (host : List Char) : List (List Char) × Bool :=
  let ls := pieces '.' (host.map fun c => if isPoint c then '.' else c)
  if ls.getLast? = some [] then (ls.dropLast, true) else (ls, false)

/-- The most characters of a name in ASCII, a point at its end not counted. -/
def maxLength : Nat := 253

/-- The name in ASCII. -/
def toAscii (host : List Char) : Except LabelError (List Char) := do
  let (ls, ended) := labels (lower host)
  if ls = [] then throw .empty
  let name := (['.'] : List Char).intercalate (← ls.mapM Label.toAscii)
  if maxLength < name.length then throw .longName
  return if ended then name ++ ['.'] else name

/-- Whether a name in ASCII stands for another one: its first label does. -/
def isMarked (host : List Char) : Bool := host.take Label.mark.length = Label.mark

/-- A name in ASCII, in lower case, that may stand for another one. -/
def checkAscii (host : List Char) : Except LabelError Unit :=
  if maxLength + 1 < host.length then .error .longName
  else (labels host).1.forM Label.checkAscii

end CovertVault.Remote.HostName
