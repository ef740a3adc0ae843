namespace CovertVault.Text.Bootstring

def base : Nat := 36

/-- Letters are the digits below 26. -/
def digit (n : Nat) : Char :=
  if n < 26 then Char.ofNat ('a'.toNat + n) else Char.ofNat ('0'.toNat + (n - 26))

def digitValue? (c : Char) : Option Nat :=
  if 'a' ≤ c ∧ c ≤ 'z' then some (c.toNat - 'a'.toNat)
  else if '0' ≤ c ∧ c ≤ '9' then some (c.toNat - '0'.toNat + 26)
  else none

/-- Digits below the threshold of their place end a number. -/
def threshold (bias place : Nat) : Nat := min (max (place - bias) 1) 26

theorem threshold_pos (bias place : Nat) : 0 < threshold bias place := by
  unfold threshold
  omega

/-- The digits of a difference from a place on, the lowest first. -/
def digits (bias place n : Nat) : List Char :=
  let t := threshold bias place
  if n < t then [digit n]
  else digit (t + (n - t) % (base - t)) :: digits bias (place + base) ((n - t) / (base - t))
termination_by n
decreasing_by
  have h := threshold_pos bias place
  exact Nat.lt_of_le_of_lt (Nat.div_le_self ..) (by omega)

/-- The bias that suits differences of a size. -/
def biasFor (n : Nat) : Nat :=
  if 455 < n then biasFor (n / 35) + base else base * n / (n + 38)

def firstBias : Nat := 72

/-- The bias behind a difference, where `written` characters are written by then. -/
def nextBias (first : Bool) (written n : Nat) : Nat :=
  let n := n / (if first then 700 else 2)
  biasFor (n + n / written)

/-- The end of ASCII. -/
def firstCode : Nat := 0x80

def mark : Char := '-'

structure State where
  /-- Steps that were passed since the last character was written. -/
  passed : Nat
  bias : Nat
  /-- How many characters are written. -/
  written : Nat
  /-- The digits that tell where. -/
  text : List Char

/-- Passes a character, or writes it if it is the one that is due. -/
def State.visit (basic due : Nat) (s : State) (n : Nat) : State :=
  if n < due then { s with passed := s.passed + 1 }
  else if n = due then
    ⟨0, nextBias (s.written = basic) (s.written + 1) s.passed, s.written + 1,
      s.text ++ digits s.bias base s.passed⟩
  else s

/-- Goes once over a name for each code beyond ASCII, from the lowest to the highest. -/
def State.run (basic : Nat) (name : List Nat) : Nat → List Nat → State → State
  | _, [], s => s
  | next, due :: rest, s =>
    let s := { s with passed := s.passed + (due - next) * (s.written + 1) }
    let s := name.foldl (visit basic due) s
    run basic name (due + 1) rest { s with passed := s.passed + 1 }

def encode (name : List Nat) : List Char :=
  let (low, high) := name.partition (· < firstCode)
  let s := State.run low.length name firstCode high.mergeSort.eraseDups
    ⟨0, firstBias, low.length, []⟩
  low.map Char.ofNat ++ (if low = [] then [] else [mark]) ++ s.text

/-- A difference, in digits from a place on that count `weight` each, and what follows it. -/
def readDigits? (bias place weight : Nat) : List Char → Option (Nat × List Char)
  | [] => none
  | c :: r => do
    let d ← digitValue? c
    let t := threshold bias place
    if d < t then return (d * weight, r)
    let (n, r) ← readDigits? bias (place + base) (weight * (base - t)) r
    return (d * weight + n, r)

theorem length_readDigits? {bias place weight n : Nat} {s r : List Char}
    (h : readDigits? bias place weight s = some (n, r)) : r.length < s.length := by
  induction s generalizing place weight n with
  | nil => simp [readDigits?] at h
  | cons c s ih =>
    rw [readDigits?] at h
    cases hd : digitValue? c with
    | none => simp [hd] at h
    | some d =>
      simp only [hd, Option.bind_eq_bind, Option.bind_some] at h
      split at h
      · simp_all
      · cases hr : readDigits? bias (place + base) (weight * (base - threshold bias place)) s with
        | none => simp [hr] at h
        | some p =>
          obtain ⟨m, q⟩ := p
          simp only [hr, Option.bind_some, Option.some.injEq, Prod.mk.injEq, Option.pure_def] at h
          obtain ⟨-, rfl⟩ := h
          have := ih hr
          simp only [List.length_cons]
          omega

/-- The largest code that a text may hold. -/
def lastCode : Nat := 0x10ffff

/-- Puts the characters into a name that differences tell of, where `code` was the last and `place`
comes after it. -/
def insertAll? (first : Bool) (bias code place : Nat) (name : List Nat) (s : List Char) :
    Option (List Nat) :=
  if s = [] then some name
  else match h : readDigits? bias base 1 s with
    | none => none
    | some (n, r) =>
      let written := name.length + 1
      let code := code + (place + n) / written
      let place := (place + n) % written
      if lastCode < code then none
      else
        insertAll? false (nextBias first written n) code (place + 1) (name.insertIdx place code) r
termination_by s.length
decreasing_by exact length_readDigits? h

/-- What stands before the last mark, and what stands behind it. A mark in front is none. -/
def splitLast (s : List Char) : List Char × List Char :=
  let back := (s.reverse.takeWhile (· ≠ mark)).reverse
  let front := (s.take (s.length - back.length)).dropLast
  if front = [] then ([], s) else (front, back)

def decode? (s : List Char) : Option (List Nat) :=
  let (low, high) := splitLast s
  insertAll? true firstBias firstCode 0 (low.map Char.toNat) high

end CovertVault.Text.Bootstring
