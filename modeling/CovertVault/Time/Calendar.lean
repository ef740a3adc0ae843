import CovertVault.Number.Decimal

namespace CovertVault.Time
open Number

/-- Days from the first day of year 1 to the first day of a year. -/
def yearStart (y : Int) : Int := 365 * (y - 1) + (y - 1) / 4 - (y - 1) / 100 + (y - 1) / 400

/-- The year that holds a day counted from the first day of year 1. The mean length of a year
gives it up to one. -/
def yearOf (day : Int) : Int :=
  let y := 400 * day / 146097 + 1
  if day < yearStart y then y - 1
  else if yearStart (y + 1) ≤ day then y + 1
  else y

def isLeap (y : Int) : Bool := yearStart (y + 1) - yearStart y = 366

def monthLengths (y : Int) : List Nat :=
  [31, if isLeap y then 29 else 28, 31, 30, 31, 30, 31, 31, 30, 31, 30, 31]

/-- Month and day of the month, both from one, of a day of the year counted from zero. -/
def monthDay : List Nat → Nat → Nat → Nat × Nat
  | [], month, day => (month, day + 1)
  | n :: rest, month, day =>
    if day < n then (month, day + 1) else monthDay rest (month + 1) (day - n)

structure DateTime where
  year : Int
  month : Nat
  day : Nat
  hour : Nat
  minute : Nat
  second : Nat
deriving Repr, DecidableEq

def secondsPerDay : Int := 86400

/-- Days from the first day of year 1 to the first day of 1970. -/
def epochDay : Int := 719162

def dateTime (seconds : Int) : DateTime :=
  let day := seconds / secondsPerDay + epochDay
  let rest := (seconds % secondsPerDay).toNat
  let year := yearOf day
  let (month, monthDay) := monthDay (monthLengths year) 1 (day - yearStart year).toNat
  ⟨year, month, monthDay, rest / 3600, rest / 60 % 60, rest % 60⟩

/-- `2024-01-31 08:05:09`: all parts but the year take two digits. -/
def DateTime.text (t : DateTime) : String :=
  String.ofList <| intText t.year ++ '-' :: paddedText 2 t.month ++ '-' :: paddedText 2 t.day
    ++ ' ' :: paddedText 2 t.hour ++ ':' :: paddedText 2 t.minute ++ ':' :: paddedText 2 t.second

end CovertVault.Time
