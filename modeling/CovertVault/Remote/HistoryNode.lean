import CovertVault.Number.Grouped
import CovertVault.Record.Raw
import CovertVault.Remote.Error

namespace CovertVault.Remote
open Number Text

/-- Children with their keys. Keys that are small numbers in a row come back as places of an array,
with nothing in the unused ones. -/
def children? : Json → Option (List (String × Json))
  | .null => some []
  | .arr items =>
    some (items.zipIdx.filterMap fun (v, i) => match v with
      | .null => none
      | v => some (String.ofList (natText i), v))
  | .obj members => some members
  | _ => none

/-- The text of a member. -/
def textMember? (members : List (String × Json)) (key : String) : Option (List Point) :=
  match Json.field? members key with
  | some (.str s) => some (points s)
  | some (.broken s) => some s
  | _ => none

/-- A child as a calculation, if it is one. Its key is its id. -/
def readChild (key : String) : Json → Except Time.StampError (Option RawRecord)
  | .obj members =>
    match textMember? members "expression", textMember? members "result", looseInt? key.toList with
    | some expression, some result, some id => do
      let time ← Time.stampOfJson ((Json.field? members "calculated_at").getD .null)
      return some ⟨id, expression, result, time⟩
    | _, _, _ => return none
  | _ => return none

/-- Children that are no calculation are passed over. -/
def readChildren : List (String × Json) → Except Time.StampError (List RawRecord)
  | [] => return []
  | (key, v) :: r => do
    let first ← readChild key v
    return first.toList ++ (← readChildren r)

/-- Latest first; of one time, in the order of the node. -/
def latestFirst (records : List RawRecord) : List RawRecord :=
  records.mergeSort fun a b => pointsLe b.calculatedAt a.calculatedAt

def readHistory (node : Json) : Except Error (List RawRecord) :=
  match children? node with
  | none => .error .malformedHistory
  | some members => ((readChildren members).map latestFirst).mapError .time

end CovertVault.Remote
