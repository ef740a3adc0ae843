import CovertVault.Bytes
import CovertVault.Cipher.SBox

namespace CovertVault.Cipher.Aes

structure Column where
  (a b c d : UInt8)
deriving Repr, DecidableEq

/-- Sixteen bytes, as a square of four columns. -/
structure Block where
  (w x y z : Column)
deriving Repr, DecidableEq

/-- Sixteen bytes from the start of a byte string, and what follows. -/
def Block.take? : Bytes → Option (Block × Bytes)
  | a :: b :: c :: d :: e :: f :: g :: h :: i :: j :: k :: l :: m :: n :: o :: p :: r =>
    some (⟨⟨a, b, c, d⟩, ⟨e, f, g, h⟩, ⟨i, j, k, l⟩, ⟨m, n, o, p⟩⟩, r)
  | _ => none

/-- Exactly sixteen bytes as a block. -/
def Block.ofBytes? (bs : Bytes) : Option Block :=
  match Block.take? bs with
  | some (b, []) => some b
  | _ => none

def Column.toBytes (k : Column) : Bytes := [k.a, k.b, k.c, k.d]

def Block.toBytes (b : Block) : Bytes := b.w.toBytes ++ b.x.toBytes ++ b.y.toBytes ++ b.z.toBytes

def Column.map (f : UInt8 → UInt8) (k : Column) : Column := ⟨f k.a, f k.b, f k.c, f k.d⟩
def Column.add (k l : Column) : Column := ⟨k.a ^^^ l.a, k.b ^^^ l.b, k.c ^^^ l.c, k.d ^^^ l.d⟩

def Block.mapColumns (f : Column → Column) (b : Block) : Block := ⟨f b.w, f b.x, f b.y, f b.z⟩

def Block.add (s t : Block) : Block := ⟨s.w.add t.w, s.x.add t.x, s.y.add t.y, s.z.add t.z⟩

def substitute (b : UInt8) : UInt8 := substitutions.getD b.toNat 0
def restore (b : UInt8) : UInt8 := restorations.getD b.toNat 0

/-- Each row moves left by its number. -/
def shiftRows : Block → Block
  | ⟨w, x, y, z⟩ =>
    ⟨⟨w.a, x.b, y.c, z.d⟩, ⟨x.a, y.b, z.c, w.d⟩, ⟨y.a, z.b, w.c, x.d⟩, ⟨z.a, w.b, x.c, y.d⟩⟩

def unshiftRows : Block → Block
  | ⟨w, x, y, z⟩ =>
    ⟨⟨w.a, z.b, y.c, x.d⟩, ⟨x.a, w.b, z.c, y.d⟩, ⟨y.a, x.b, w.c, z.d⟩, ⟨z.a, y.b, x.c, w.d⟩⟩

/-- Multiplication by `x` in the field of 256 elements. -/
def double (b : UInt8) : UInt8 := (b <<< 1) ^^^ (if b < 0x80 then 0 else 0x1b)

def triple (b : UInt8) : UInt8 := double b ^^^ b

/-- A column times the matrix with rows `2 3 1 1`, rotated. -/
def mixColumn (k : Column) : Column :=
  ⟨double k.a ^^^ triple k.b ^^^ k.c ^^^ k.d, k.a ^^^ double k.b ^^^ triple k.c ^^^ k.d,
    k.a ^^^ k.b ^^^ double k.c ^^^ triple k.d, triple k.a ^^^ k.b ^^^ k.c ^^^ double k.d⟩

/-- The matrix has order four, so mixing three times more undoes it. -/
def unmixColumn (k : Column) : Column := mixColumn (mixColumn (mixColumn k))

def nextKey (k : Block) (constant : UInt8) : Block :=
  let t := Column.map substitute ⟨k.z.b, k.z.c, k.z.d, k.z.a⟩
  let w := (k.w.add t).add ⟨constant, 0, 0, 0⟩
  let x := k.x.add w
  let y := k.y.add x
  ⟨w, x, y, k.z.add y⟩

/-- The key that goes before the rounds, those of the nine full rounds, and that of the last. -/
structure Schedule where
  first : Block
  inner : List Block
  last : Block

def innerConstants : List UInt8 := [0x01, 0x02, 0x04, 0x08, 0x10, 0x20, 0x40, 0x80, 0x1b]
def lastConstant : UInt8 := 0x36

def roundKeys (k : Block) : List UInt8 → List Block
  | [] => []
  | c :: r => nextKey k c :: roundKeys (nextKey k c) r

def schedule (key : Block) : Schedule :=
  let inner := roundKeys key innerConstants
  ⟨key, inner, nextKey (inner.getLastD key) lastConstant⟩

def substituteBlock (b : Block) : Block := b.mapColumns (Column.map substitute)
def restoreBlock (b : Block) : Block := b.mapColumns (Column.map restore)

def round (b key : Block) : Block :=
  ((shiftRows (substituteBlock b)).mapColumns mixColumn).add key

def unround (b key : Block) : Block :=
  restoreBlock (unshiftRows ((b.add key).mapColumns unmixColumn))

/-- Ten rounds, the last of which does not mix the columns. -/
def encrypt (s : Schedule) (b : Block) : Block :=
  (shiftRows (substituteBlock (s.inner.foldl round (b.add s.first)))).add s.last

def decrypt (s : Schedule) (b : Block) : Block :=
  (s.inner.reverse.foldl unround (restoreBlock (unshiftRows (b.add s.last)))).add s.first

end CovertVault.Cipher.Aes
