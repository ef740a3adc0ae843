import CovertVault.Remote.Client

namespace CovertVault.Remote

/-- A copy with its state `ρ` and its failures `ε`. -/
structure Copy (ρ ε : Type) where
  send : Command → ρ → Except ε Unit × ρ
  fetchHistory : ρ → Except ε (List RawRecord) × ρ
  ignorable : ε → Bool

namespace Copy
variable {ρ ε : Type} (m : Copy ρ ε)

/-- Sends a change. An ignorable failure counts as success. -/
def attempt (k : Command) (r : ρ) : Except ε Unit × ρ :=
  match m.send k r with
  | (.error e, r) => (if m.ignorable e then .ok () else .error e, r)
  | done => done

/-- Sends changes one after another, up to the first failure that cannot be ignored. -/
def attemptAll : List Command → ρ → Except ε Unit × ρ
  | [], r => (.ok (), r)
  | k :: ks, r =>
    match m.attempt k r with
    | (.ok (), r) => attemptAll ks r
    | failed => failed

/-- The calculations of the copy; none at an ignorable failure. -/
def historyOrNone (r : ρ) : Except ε (List RawRecord) × ρ :=
  match m.fetchHistory r with
  | (.error e, r) => (if m.ignorable e then .ok [] else .error e, r)
  | done => done

/-- Carries out changes that waited, all of them, and gives the failure of each. -/
def flush : List Command → ρ → List (Option ε) × ρ
  | [], r => ([], r)
  | k :: ks, r =>
    let (first, r) := m.attempt k r
    let (others, r) := flush ks r
    ((match first with | .ok () => none | .error e => some e) :: others, r)

end Copy

variable {ω T : Type} [TimeScale T]

/-- The copy that a client keeps, over the connection that it has a number of. Without a client
there is none: changes do nothing. -/
def Client.copy (link : Nat → Link ω T) : Copy (Option (Client T × Nat) × ω) Error where
  send k := fun (client, w) =>
    match client with
    | none => (.ok (), none, w)
    | some (c, n) =>
      let (r, c, w) := c.send (link n) k w
      (r, some (c, n), w)
  fetchHistory := fun (client, w) =>
    match client with
    | none => (.ok [], none, w)
    | some (c, n) =>
      let (r, c, w) := c.fetchHistory (link n) w
      (r, some (c, n), w)
  ignorable := Error.ignorable

end CovertVault.Remote
