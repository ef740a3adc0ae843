import CovertVault.Number.Decimal
import CovertVault.Text.Point

namespace CovertVault

/-- JSON values. Members of an object keep their order; numbers are exact. -/
inductive Json where
  | null
  | bool (b : Bool)
  | int (n : Int)
  /-- A number written with a point or an exponent. -/
  | decimal (d : Number.Decimal)
  | infinity (negative : Bool)
  | nan
  | str (s : String)
  /-- A string with halves of surrogate pairs in it. -/
  | broken (s : List Text.Point)
  | arr (items : List Json)
  | obj (members : List (String × Json))
deriving Repr, Inhabited

namespace Json

/-- Puts a member into an object. A key that is there keeps its place and changes its value. -/
def insert (key : String) (value : Json) : List (String × Json) → List (String × Json)
  | [] => [(key, value)]
  | (k, v) :: r => if k = key then (k, value) :: r else (k, v) :: insert key value r

/-- The string of points. -/
def ofPoints (s : List Text.Point) : Json :=
  match Text.ofPoints? s with
  | some t => .str t
  | none => .broken s

def field? (members : List (String × Json)) (key : String) : Option Json := members.lookup key

end Json

end CovertVault
