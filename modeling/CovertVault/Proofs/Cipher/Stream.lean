import CovertVault.Cipher.Stream
import Mathlib.Data.List.GetD
import Mathlib.Data.Stream.Init

namespace CovertVault

namespace Bytes

/-- Different texts have different bytes. -/
theorem ofString_injective : Function.Injective ofString := by
  intro s t h
  have hb (s : String) : (ofString s).toByteArray = s.toByteArray := String.utf8Encode_toList
  rw [← String.toByteArray_inj, ← hb s, ← hb t, h]

end Bytes

namespace Cipher

/-- The bytes of a key over and over; zeros for the empty key. -/
def keyStream (key : Bytes) : Stream' UInt8 :=
  if h : key = [] then .const 0 else .cycle key h

theorem get_keyStream (key : Bytes) (i : ℕ) : (keyStream key).get i = streamByte key i := by
  unfold keyStream
  split
  · next h =>
    subst h
    rfl
  next h =>
  have hpos := List.length_pos_iff.2 h
  -- The first round is the key itself, and a byte behind it stands one round earlier, too.
  induction i using Nat.strongRecOn with
  | ind i ih =>
    rw [Stream'.cycle_eq]
    obtain hlt | hge := Nat.lt_or_ge i key.length
    · rw [Stream'.get_append_left i key _ hlt, streamByte, Nat.mod_eq_of_lt hlt,
        List.getD_eq_getElem _ _ hlt]
    · obtain ⟨j, rfl⟩ := Nat.exists_eq_add_of_le hge
      rw [Stream'.get_append_right, ih j (by omega), streamByte, streamByte, Nat.add_mod_left]

/-- A stream begins with its key. -/
theorem take_keyStream (key : Bytes) : (keyStream key).take key.length = key := by
  apply List.ext_getElem
  · exact Stream'.length_take _ _
  · intro i hi hi'
    rw [Stream'.take_get, get_keyStream, streamByte, Nat.mod_eq_of_lt hi', List.getD_eq_getElem]

/-- Keys of one length are told apart by as many bytes of their streams. -/
theorem eq_of_take_keyStream {k k' : Bytes} {n : ℕ} (hl : k.length = k'.length) (hn : k.length ≤ n)
    (h : (keyStream k).take n = (keyStream k').take n) : k = k' := by
  have ht := congrArg (List.take k.length) h
  rw [Stream'.take_take, Stream'.take_take, Nat.min_eq_right hn] at ht
  rw [← take_keyStream k, ht, hl, take_keyStream]

theorem length_xorStream (key data : Bytes) : (xorStream key data).length = data.length := by
  simp [xorStream]

theorem xorStream_xorStream (key data : Bytes) : xorStream key (xorStream key data) = data := by
  apply List.ext_getElem
  · simp only [length_xorStream]
  · intro i hi hi'
    simp only [xorStream, List.getElem_mapIdx, UInt8.xor_assoc, UInt8.xor_self, UInt8.xor_zero]

theorem xorStream_eq_zipWith (key data : Bytes) :
    xorStream key data = List.zipWith (· ^^^ ·) data ((keyStream key).take data.length) := by
  apply List.ext_getElem
  · simp [xorStream]
  · intro i hi hi'
    simp [xorStream, get_keyStream]

/-- Data shows of two keys how far their streams agree, and nothing beyond its length. -/
theorem xorStream_eq_iff {k k' data : Bytes} : xorStream k data = xorStream k' data ↔
    (keyStream k).take data.length = (keyStream k').take data.length := by
  constructor
  · intro h
    apply List.ext_getElem
    · simp
    · intro i hi hi'
      have hd : i < data.length := by simpa using hi
      have hx := congrArg (·[i]?) h
      simpa [xorStream, get_keyStream, hd] using hx
  · intro h
    rw [xorStream_eq_zipWith, h, ← xorStream_eq_zipWith]

/-- Data under a PIN, as it is stored; and stored data laid open. -/
def underPin (pin : String) (data : Bytes) : Bytes := xorStream (Bytes.ofString pin) data

@[simp] theorem length_underPin (pin : String) (data : Bytes) :
    (underPin pin data).length = data.length :=
  length_xorStream _ _

@[simp] theorem underPin_underPin (pin : String) (data : Bytes) :
    underPin pin (underPin pin data) = data :=
  xorStream_xorStream _ _

/-- Texts of one length hide data differently if it is at least as long. -/
theorem underPin_eq_iff {p q : String} {data : Bytes}
    (hl : (Bytes.ofString p).length = (Bytes.ofString q).length)
    (hn : (Bytes.ofString p).length ≤ data.length) :
    underPin p data = underPin q data ↔ p = q := by
  constructor
  · intro h
    exact Bytes.ofString_injective (eq_of_take_keyStream hl hn (xorStream_eq_iff.1 h))
  · rintro rfl
    rfl

theorem apply_eq_map (d : Option Bytes) (k : String) : apply d (some k) = d.map (underPin k) := rfl

theorem apply_apply (d : Option Bytes) (k : String) : apply (apply d (some k)) (some k) = d := by
  cases d with
  | none => rfl
  | some x => exact congrArg some (underPin_underPin k x)

theorem apply_empty (d : Option Bytes) : apply d (some "") = d := by
  cases d with
  | none => rfl
  | some x =>
    refine congrArg some (List.ext_getElem (length_underPin _ _) fun i _ _ => ?_)
    simp [xorStream, streamByte, Bytes.ofString, Bytes.utf8]

/-- A key hides each byte of the data with the next byte of its stream, and going from key to key
depends on the first and the last one only: a key undoes itself, the empty one does nothing, and
data taken from one key to another is the data under the other, by whatever keys it goes. Missing
data stays missing, and no data gets longer or shorter. -/
theorem keys_compose (d : Option Bytes) (a b c : String) :
    apply d (some a) = d.map (fun x =>
      List.zipWith (· ^^^ ·) x ((keyStream (Bytes.ofString a)).take x.length)) ∧
    apply (apply d (some a)) (some a) = d ∧ apply d (some "") = d ∧
    (apply d (some a)).map List.length = d.map List.length ∧
    rekey (encrypt d (some a)) a b = encrypt d (some b) ∧
    rekey (rekey d a b) b c = rekey d a c ∧ rekey (rekey d a b) b a = d := by
  refine ⟨?_, apply_apply d a, apply_empty d, ?_, ?_, ?_, ?_⟩
  · rw [apply_eq_map]
    exact Option.map_congr fun x _ => xorStream_eq_zipWith _ x
  · rw [apply_eq_map, Option.map_map]
    exact Option.map_congr fun x _ => length_underPin a x
  · rw [rekey, encrypt, apply_apply, encrypt]
  · rw [rekey, rekey, apply_apply, rekey]
  · rw [rekey, rekey, apply_apply, apply_apply]

end Cipher

end CovertVault
