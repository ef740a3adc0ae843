import CovertVault.Store.Secret

namespace CovertVault.Store

/-- The time of a calculation: the present, unless another one is given. -/
def timeOr (at? : Option String) (now : Time.Present) : Except Error String :=
  match at?.filter (· ≠ "") with
  | some time => .ok time
  | none => now.mapError .time

/-- Adds a calculation and gives its id. A missing or empty time is replaced by the present. -/
def appendHistory (expression result : String) (at? : Option String) (now : Time.Present)
    (s : Store) : Except Error (Int × Store) := do
  s.guard .saveCalculation []
  let time ← timeOr at? now
  let id ← nextId .saveCalculation s.db.lastHistory
  s.allow .saveCalculation .history .insert unnumbered
  let row : HistoryRecord := ⟨id, expression, result, time⟩
  return (id, s.withDatabase { s.db with history := s.db.history ++ [row], lastHistory := id })

/-- All calculations, newest first. -/
def listHistory (s : Store) : Except Error (List HistoryRecord) := do
  s.guard .listHistory []
  return newestFirst (·.calculatedAt) (·.id) s.db.history

/-- Deletes a calculation; nothing when there is none. -/
def deleteHistory (id : Int) (s : Store) : Except Error Store := do
  s.guard .deleteCalculation [id]
  if s.db.history.any (·.id = id) then s.allow .deleteCalculation .history .delete id
  return s.withDatabase { s.db with history := s.db.history.filter (·.id ≠ id) }

def clearHistory (s : Store) : Except Error Store := do
  s.guard .clearHistory []
  s.db.history.forM fun r => s.allow .clearHistory .history .delete r.id
  return s.withDatabase { s.db with history := [] }

end CovertVault.Store
