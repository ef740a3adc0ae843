import CovertVault.Record.Basic
import CovertVault.Text.Unencodable

namespace CovertVault
open Text

/-- A calculation as it comes from outside. -/
structure RawRecord where
  id : Int
  expression : List Point
  result : List Point
  calculatedAt : List Point
deriving Repr, DecidableEq

namespace RawRecord

def ofRecord (h : HistoryRecord) : RawRecord :=
  ⟨h.id, points h.expression, points h.result, points h.calculatedAt⟩

def encode (r : RawRecord) : Except Unencodable HistoryRecord := do
  return ⟨r.id, ← encodable r.expression, ← encodable r.result, ← encodable r.calculatedAt⟩

end RawRecord

end CovertVault
