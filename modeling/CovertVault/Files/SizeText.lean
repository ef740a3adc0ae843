import CovertVault.Number.Decimal

namespace CovertVault.Files
open Number

/-- A finite value with one decimal and a unit. -/
def withUnit (v : Float) (unit : String) : String :=
  match ExactFloat.ofFloat? v with
  | some d => String.ofList (fixedText 1 d) ++ unit
  | none => unit

def sizeText (bytes : Int) : Except RangeError String :=
  (ofInt bytes).map fun v =>
    let kb := v / 1024.0
    if kb < 1024.0 then withUnit kb " KB" else withUnit (kb / 1024.0) " MB"

end CovertVault.Files
