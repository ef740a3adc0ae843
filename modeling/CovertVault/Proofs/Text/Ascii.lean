import CovertVault.Text.Encoded
import CovertVault.Proofs.Number.Digits

namespace CovertVault

namespace Bytes

@[simp] theorem utf8_nil : utf8 [] = [] := rfl

/-- A character of ASCII is one byte. -/
theorem utf8_cons_of_lt {c : Char} (s : List Char) (h : c.toNat < 128) :
    utf8 (c :: s) = UInt8.ofNat c.toNat :: utf8 s := by
  have hc : c.val.toNat ≤ 0x7f := Nat.le_of_lt_succ h
  rw [utf8, List.flatMap_cons, String.utf8EncodeChar, if_pos hc]
  rfl

end Bytes

namespace Text

def Ascii (s : List Char) : Prop := ∀ c ∈ s, c.toNat < 128

@[simp] theorem ascii_nil : Ascii [] := by simp [Ascii]

@[simp] theorem ascii_cons {c : Char} {s : List Char} :
    Ascii (c :: s) ↔ c.toNat < 128 ∧ Ascii s := by
  simp [Ascii]

@[simp] theorem ascii_append {s t : List Char} : Ascii (s ++ t) ↔ Ascii s ∧ Ascii t := by
  simp only [Ascii, List.mem_append]
  exact ⟨fun h => ⟨fun c hc => h c (.inl hc), fun c hc => h c (.inr hc)⟩,
    fun h c hc => hc.elim (h.1 c) (h.2 c)⟩

theorem ascii_flatMap {α : Type} {f : α → List Char} {l : List α} (h : ∀ a, Ascii (f a)) :
    Ascii (l.flatMap f) := by
  intro c hc
  obtain ⟨a, -, ha⟩ := List.mem_flatMap.1 hc
  exact h a c ha

theorem ascii_natText (n : Nat) : Ascii (Number.natText n) := by
  intro c hc
  have hd := Number.isAsciiDigit_iff.1 (Number.isAsciiDigit_of_mem_natText hc)
  omega

theorem ascii_intText (n : Int) : Ascii (Number.intText n) := by
  unfold Number.intText
  split
  · exact ascii_cons.2 ⟨by decide, ascii_natText _⟩
  · exact ascii_natText _

/-- ASCII takes one byte a character. -/
theorem length_utf8 {s : List Char} (h : Ascii s) : (Bytes.utf8 s).length = s.length := by
  induction s with
  | nil => rfl
  | cons c s ih =>
    obtain ⟨hc, hs⟩ := ascii_cons.1 h
    rw [Bytes.utf8_cons_of_lt s hc, List.length_cons, List.length_cons, ih hs]

theorem toNat_range (c : Char) : c.toNat < 0xD800 ∨ 0xE000 ≤ c.toNat ∧ c.toNat < 0x110000 := by
  have h := c.valid
  simp only [UInt32.isValidChar, Nat.isValidChar] at h
  show c.val.toNat < _ ∨ _ ≤ c.val.toNat ∧ c.val.toNat < _
  omega

theorem hexValue?_hexDigit {n : Nat} (h : n < 16) : hexValue? (hexDigit n) = some n := by
  have hd : ∀ n : Fin 16, hexValue? (hexDigit n) = some n.val := by decide
  exact hd ⟨n, h⟩

theorem ascii_hex (width n : Nat) : Ascii (hex width n) := by
  have hd : ∀ n : Fin 16, (hexDigit n).toNat < 128 := by decide
  induction width with
  | zero => exact ascii_nil
  | succ width ih => exact ascii_cons.2 ⟨hd ⟨_, Nat.mod_lt _ (by decide)⟩, ih⟩

theorem utf8Head_of_lt {b : UInt8} (surrogates : Bool) (r : Bytes) (h : b.toNat < 128) :
    utf8Head surrogates b r = (some b.toNat, r) := by
  have hb : b < 0x80 := UInt8.lt_iff_toNat_lt.2 h
  rw [utf8Head, utf8Lead, if_pos hb]
  rfl

theorem ofCode_toNat (c : Char) : Point.ofCode c.toNat = .char c := by
  have h : c.toNat.isValidChar := c.valid
  rw [Point.ofCode, dif_pos h]
  congr 1

theorem mapM_char? (s : List Char) : (s.map Point.char).mapM Point.char? = some s := by
  rw [List.mapM_map]
  exact (List.mapM_pure (f := id)).trans (congrArg some (List.map_id s))

theorem ofPoints?_chars (s : List Char) : ofPoints? (s.map .char) = some (String.ofList s) := by
  rw [ofPoints?, mapM_char?, Option.map_some]

theorem utf8Points_utf8 (surrogates : Bool) {s : List Char} (h : Ascii s) :
    utf8Points surrogates (Bytes.utf8 s) = s.map fun c => some (.char c) := by
  induction s with
  | nil => rw [Bytes.utf8_nil, utf8Points]; rfl
  | cons c s ih =>
    obtain ⟨hc, hs⟩ := ascii_cons.1 h
    have hn : (UInt8.ofNat c.toNat).toNat = c.toNat := by
      rw [UInt8.toNat_ofNat']
      omega
    have hh (r : Bytes) : utf8Head surrogates (UInt8.ofNat c.toNat) r = (some c.toNat, r) := by
      rw [utf8Head_of_lt _ _ (by omega), hn]
    rw [Bytes.utf8_cons_of_lt s hc, utf8Points, hh, ih hs]
    simp [ofCode_toNat]

theorem decodeUtf8?_utf8 {s : List Char} (h : Ascii s) : decodeUtf8? (Bytes.utf8 s) = some s := by
  rw [decodeUtf8?, utf8Points_utf8 false h, ← mapM_char? s, List.mapM_map, List.mapM_map]
  rfl

theorem decodeLoneUtf8?_utf8 {s : List Char} (h : Ascii s) :
    decodeLoneUtf8? (Bytes.utf8 s) = some (s.map .char) := by
  rw [decodeLoneUtf8?, utf8Points_utf8 true h, List.mapM_map]
  exact List.mapM_pure

end Text

end CovertVault
