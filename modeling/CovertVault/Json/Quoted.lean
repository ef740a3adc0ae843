import CovertVault.Text.Encoded
import CovertVault.Text.Quoted

namespace CovertVault.Json
open Text

def escapeUnit (n : Nat) : List Char := '\\' :: 'u' :: hex 4 n

/-- One character between the quotes. Characters beyond 16 bits take a pair of escapes. -/
def writeChar (c : Char) : List Char :=
  if c = '"' then ['\\', '"']
  else if c = '\\' then ['\\', '\\']
  else if c = '\n' then ['\\', 'n']
  else if c = '\r' then ['\\', 'r']
  else if c = '\t' then ['\\', 't']
  else if c = '\x08' then ['\\', 'b']
  else if c = '\x0c' then ['\\', 'f']
  else if 0x20 ≤ c.toNat ∧ c.toNat < 0x7f then [c]
  else if c.toNat < 0x10000 then escapeUnit c.toNat
  else
    let n := c.toNat - 0x10000
    escapeUnit (0xD800 + n / 0x400) ++ escapeUnit (0xDC00 + n % 0x400)

def writeString (s : List Char) : List Char := '"' :: s.flatMap writeChar ++ ['"']

/-- Half of a surrogate pair is written like one half of a pair of escapes. -/
def writePoint : Point → List Char
  | .char c => writeChar c
  | .half n => escapeUnit n

/-- A piece of a string: a point as it stands, or a 16-bit unit by its code. -/
inductive Piece where
  | point (p : Point)
  | unit (n : Nat)
deriving Repr, DecidableEq

def shortEscape? : Char → Option Char
  | '"' => some '"'
  | '\\' => some '\\'
  | '/' => some '/'
  | 'b' => some '\x08'
  | 'f' => some '\x0c'
  | 'n' => some '\n'
  | 'r' => some '\r'
  | 't' => some '\t'
  | _ => none

/-- The number that four hexadecimal digits write. -/
def unitValue? (a b c d : Char) : Option Nat := do
  return ((16 * (← hexValue? a) + (← hexValue? b)) * 16 + (← hexValue? c)) * 16 + (← hexValue? d)

/-- Pieces up to the closing quote, and what follows it. -/
def scanPieces : List Point → Option (List Piece × List Point)
  | [] => none
  | .char '"' :: r => some ([], r)
  | .char '\\' :: .char 'u' :: .char a :: .char b :: .char c :: .char d :: r => do
    let n ← unitValue? a b c d
    let (ps, rest) ← scanPieces r
    return (.unit n :: ps, rest)
  | .char '\\' :: .char e :: r => do
    let c ← shortEscape? e
    let (ps, rest) ← scanPieces r
    return (.point (.char c) :: ps, rest)
  | p :: r =>
    if p.code < 0x20 ∨ p = .char '\\' then none
    else do
      let (ps, rest) ← scanPieces r
      return (.point p :: ps, rest)

/-- The points of pieces. Two units that are the halves of a pair make one character. -/
def joinPieces : List Piece → List Point
  | [] => []
  | .point p :: r => p :: joinPieces r
  | .unit n :: .unit m :: r =>
    if isHighSurrogate n && isLowSurrogate m then .ofCode (joinSurrogates n m) :: joinPieces r
    else .ofCode n :: joinPieces (.unit m :: r)
  | .unit n :: r => .ofCode n :: joinPieces r

theorem length_scanPieces {s : List Point} {ps : List Piece} {r : List Point}
    (h : scanPieces s = some (ps, r)) : r.length < s.length := by
  fun_induction scanPieces s generalizing ps r with
  | case1 => simp at h
  | case2 => simp_all
  | case3 a b c d r' ih =>
    obtain ⟨n, -, h⟩ := Option.bind_eq_some_iff.1 h
    obtain ⟨⟨qs, rest⟩, h', he⟩ := Option.bind_eq_some_iff.1 h
    simp only [Option.pure_def, Option.some.injEq, Prod.mk.injEq] at he
    obtain ⟨-, rfl⟩ := he
    have := ih h'
    simp only [List.length_cons]
    omega
  | case4 e r' _ ih =>
    obtain ⟨n, -, h⟩ := Option.bind_eq_some_iff.1 h
    obtain ⟨⟨qs, rest⟩, h', he⟩ := Option.bind_eq_some_iff.1 h
    simp only [Option.pure_def, Option.some.injEq, Prod.mk.injEq] at he
    obtain ⟨-, rfl⟩ := he
    have := ih h'
    simp only [List.length_cons]
    omega
  | case5 => simp at h
  | case6 c r' _ _ _ _ ih =>
    obtain ⟨⟨qs, rest⟩, h', he⟩ := Option.bind_eq_some_iff.1 h
    simp only [Option.pure_def, Option.some.injEq, Prod.mk.injEq] at he
    obtain ⟨-, rfl⟩ := he
    have := ih h'
    simp only [List.length_cons]
    omega

end CovertVault.Json
