import CovertVault.Record.Raw
import CovertVault.Store.History

namespace CovertVault.Store

/-- Appends the calculations that are not known yet, each as it comes, and counts them. -/
def appendUnknown (now : Time.Present) :
    List HistoryRecord → List (String × String × String) → Store → Except Error Nat × Store
  | [], _, s => (.ok 0, s)
  | h :: rest, known, s =>
    if known.contains h.mergeKey then appendUnknown now rest known s
    else match s.appendHistory h.expression h.result (some h.calculatedAt) now with
      | .error e => (.error e, s)
      | .ok (_, s) =>
        let (n, s) := appendUnknown now rest (h.mergeKey :: known) s
        (n.map (· + 1), s)

/-- Appends the calculations that the store does not hold; nothing of it is deleted. -/
def mergeHistory (remote : List HistoryRecord) (now : Time.Present) (s : Store) :
    Except Error Nat × Store :=
  if remote = [] then (.ok 0, s)
  else match s.listHistory with
    | .error e => (.error e, s)
    | .ok held => appendUnknown now remote (held.map (·.mergeKey)) s

inductive MergeError where
  | store (e : Error)
  | unencodable (e : Text.Unencodable)
deriving Repr, DecidableEq

def MergeError.message : MergeError → String
  | .store e => e.message
  | .unencodable e => e.message

/-- A calculation from outside that can be kept. One without a time needs a present to keep. -/
def keepable (now : Time.Present) (r : RawRecord) : Except MergeError HistoryRecord := do
  if r.calculatedAt = [] then discard (now.mapError fun e => .store (.time e))
  r.encode.mapError .unencodable

/-- The calculations in front of the first that cannot be kept, and why that one cannot. -/
def keepableFront (now : Time.Present) : List RawRecord → List HistoryRecord × Option MergeError
  | [] => ([], none)
  | r :: rest =>
    match keepable now r with
    | .error e => ([], some e)
    | .ok h =>
      let (hs, e) := keepableFront now rest
      (h :: hs, e)

/-- Appends calculations from outside, up to the first that cannot be kept. That one is met only
after the store was found to be open. -/
def mergeRaw (remote : List RawRecord) (now : Time.Present) (s : Store) :
    Except MergeError Nat × Store :=
  let (records, trouble) := keepableFront now remote
  match s.mergeHistory records now, trouble with
  | (.error e, s), _ => (.error (.store e), s)
  | (.ok n, s), none => (.ok n, s)
  | (.ok _, s), some e =>
    (.error (match s.listHistory with | .error e => .store e | .ok _ => e), s)

end CovertVault.Store
