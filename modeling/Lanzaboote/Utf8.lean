import Lanzaboote.Basic

/-!
# Text round trip: UTF-8 from `lzbt` to the stub

Every text `lzbt` writes into a section is a Rust `String`, so UTF-8; at boot the stub reads it
back with `pe_section_as_string`, which is `core::str::from_utf8` of the section's bytes. The
decoder reads back every encoding exactly (`fromUtf8_utf8Encode`): one character's bytes followed
by anything decode to that character followed by what the rest decodes to
(`utf8Decode_utf8EncodeChar_append`), and the whole text follows by induction over it. Only the
empty text has no bytes (`utf8Encode_eq_nil_iff`), which decides whether its section survives
`objcopy`.
-/

/-! ## Byte arithmetic -/

/-- A number below 256 is kept by the conversion to a byte. -/
theorem toNat_toUInt8_of_lt {k : Nat} (h : k < 256) : k.toUInt8.toNat = k := Nat.mod_eq_of_lt h

/-- A byte `10xxxxxx` gives back its six payload bits. -/
@[simp] theorem contBits_cont (k : Nat) :
    contBits (0x80 + k % 0x40).toUInt8 = some (k % 0x40) := by
  rw [contBits, toNat_toUInt8_of_lt (by omega), if_pos (by omega)]
  congr 1
  omega

/-- A character's code point is below U+110000. -/
theorem Char.toNat_lt_0x110000 (c : Char) : c.toNat < 0x110000 := by
  have := c.valid
  simp only [UInt32.isValidChar, Nat.isValidChar] at this
  simp only [Char.toNat]
  omega

/-- The code point of a character is the character, for every least code point below it. -/
theorem utf8Char_toNat {c : Char} {lo : Nat} (h : lo ≤ c.toNat) :
    utf8Char lo c.toNat = some c := by
  rw [utf8Char, if_pos ⟨h, c.valid⟩, Char.ofNat_toNat]

/-! ## Decoding what was encoded -/

/-- **One character decodes back.** Its one to four bytes, whatever follows them, are read as the
character and then what follows. -/
theorem utf8Decode_utf8EncodeChar_append (c : Char) (bs : Bytes) :
    utf8Decode 0 0 0 (utf8EncodeChar c ++ bs) = (c :: ·) <$> utf8Decode 0 0 0 bs := by
  have hlt := c.toNat_lt_0x110000
  simp only [utf8EncodeChar]
  split_ifs with h₁ h₂ h₃
  · -- one byte
    rw [List.singleton_append, utf8Decode, toNat_toUInt8_of_lt (by omega), if_pos h₁,
      Char.ofNat_toNat]
  · -- two bytes
    have hv : (0xC0 + c.toNat / 0x40) % 0x20 * 0x40 + c.toNat % 0x40 = c.toNat := by omega
    simp only [List.cons_append, List.nil_append, utf8Decode,
      toNat_toUInt8_of_lt (by omega : 0xC0 + c.toNat / 0x40 < 256)]
    rw [if_neg (by omega), if_pos (by omega)]
    simp only [contBits_cont, Option.some_bind, if_true, hv,
      utf8Char_toNat (by omega : 0x80 ≤ c.toNat)]
    rfl
  · -- three bytes
    have hv : ((0xE0 + c.toNat / 0x1000) % 0x10 * 0x40 + c.toNat / 0x40 % 0x40) * 0x40
        + c.toNat % 0x40 = c.toNat := by omega
    simp only [List.cons_append, List.nil_append, utf8Decode,
      toNat_toUInt8_of_lt (by omega : 0xE0 + c.toNat / 0x1000 < 256)]
    rw [if_neg (by omega), if_neg (by omega), if_pos (by omega)]
    simp only [contBits_cont, Option.some_bind, Nat.one_ne_zero, if_false, if_true, hv,
      utf8Char_toNat (by omega : 0x800 ≤ c.toNat)]
    rfl
  · -- four bytes
    have hv : (((0xF0 + c.toNat / 0x40000) % 0x8 * 0x40 + c.toNat / 0x1000 % 0x40) * 0x40
        + c.toNat / 0x40 % 0x40) * 0x40 + c.toNat % 0x40 = c.toNat := by omega
    simp only [List.cons_append, List.nil_append, utf8Decode,
      toNat_toUInt8_of_lt (by omega : 0xF0 + c.toNat / 0x40000 < 256)]
    rw [if_neg (by omega), if_neg (by omega), if_neg (by omega), if_pos (by omega)]
    simp only [contBits_cont, Option.some_bind, Nat.one_ne_zero, Nat.succ_ne_zero, if_false,
      if_true, hv, utf8Char_toNat (by omega : 0x10000 ≤ c.toNat)]
    rfl

/-- **UTF-8 round trip.** `core::str::from_utf8` reads back every text `lzbt` writes. -/
theorem fromUtf8_utf8Encode (s : List Char) : fromUtf8 (utf8Encode s) = some s := by
  induction s with
  | nil => rfl
  | cons c s ih =>
    rw [fromUtf8, utf8Encode, List.flatMap_cons, utf8Decode_utf8EncodeChar_append]
    rw [fromUtf8, utf8Encode] at ih
    rw [ih]
    rfl

example : fromUtf8 [0xC3, 0xA9, 0xC0, 0x80] = none := by decide

/-! ## Empty texts -/

/-- Every character takes at least one byte. -/
theorem utf8EncodeChar_ne_nil (c : Char) : utf8EncodeChar c ≠ [] := by
  unfold utf8EncodeChar
  dsimp only
  split_ifs <;> simp

/-- A text's UTF-8 is empty exactly when the text is: the sections `lzbt` fills with an empty
text are the sections of size zero. -/
theorem utf8Encode_eq_nil_iff {s : List Char} : utf8Encode s = [] ↔ s = [] := by
  cases s with
  | nil => exact iff_of_true rfl rfl
  | cons c s => simp [utf8Encode, utf8EncodeChar_ne_nil]
