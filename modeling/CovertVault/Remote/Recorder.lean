import CovertVault.Remote.Copy

namespace CovertVault.Remote

/-- How a recorder fails: in one of the ways that callers ignore, or in another. -/
inductive Breakdown where
  | ignorable
  | fatal
deriving Repr, DecidableEq

def Breakdown.message : Breakdown → String := fun _ => "mirror is down"

inductive Recorded where
  | send (k : Command)
  | fetchHistory
deriving Repr, DecidableEq

structure Recorder where
  /-- Newest first; a call is recorded before it fails. -/
  calls : List Recorded
  breakdown : Option Breakdown
  /-- What a fetch gives. -/
  history : List HistoryRecord
deriving Repr, DecidableEq

namespace Recorder

def record (c : Recorded) (r : Recorder) : Except Breakdown Unit × Recorder :=
  ((match r.breakdown with | none => .ok () | some e => .error e),
    { r with calls := c :: r.calls })

/-- The recorder as a copy; none when there is no recorder. -/
def copy : Copy (Option Recorder) Breakdown where
  send k
    | none => (.ok (), none)
    | some r =>
      let (result, r) := r.record (.send k)
      (result, some r)
  fetchHistory
    | none => (.ok [], none)
    | some r =>
      let (result, r) := r.record .fetchHistory
      (result.map fun _ => r.history.map .ofRecord, some r)
  ignorable e := e = .ignorable

end Recorder

end CovertVault.Remote
