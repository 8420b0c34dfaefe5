import Mathlib.Algebra.Order.GroupWithZero.Canonical
import Mathlib.Algebra.Order.Ring.Nat
import Mathlib.Data.List.Basic

/-!
# Bytes, statuses, panics and the firmware's strings

The data both halves of lanzaboote share. The build tool (`lzbt`) writes text and bytes into
sections of a PE image; the stub reads them back at boot, turns the text into the firmware's
UCS-2 strings (`CString16`), and compares what it reads from disk with SHA-256 digests (`Hash`).

Two kinds of failure are kept apart, as the Rust code keeps them apart. A `Status` is a value:
a `uefi::Result` carries one, `?` passes it on, and `main` hands one back to the firmware. A
`Panic` is not a value: `unwrap` and `expect` stop the stub, and nothing after them runs.

Text is UTF-8 on the build host and in the PE sections (`utf8Encode`, `fromUtf8`), and UCS-2 once
the stub has read it (`CString16.tryFrom`). Each of these types carries its own well-formedness:
a `Hash` has 32 bytes and a `CString16` holds no NUL and no surrogate, so neither can be built
otherwise.
-/

/-- Results compare by what they carry, so that a run can be evaluated and tested. -/
instance instDecidableEqExcept {ε α : Type} [DecidableEq ε] [DecidableEq α] :
    DecidableEq (Except ε α)
  | .error a, .error b => decidable_of_iff (a = b) ⟨congrArg _, Except.error.inj⟩
  | .ok a, .ok b => decidable_of_iff (a = b) ⟨congrArg _, Except.ok.inj⟩
  | .error _, .ok _ => isFalse fun h => Except.noConfusion h
  | .ok _, .error _ => isFalse fun h => Except.noConfusion h

/-- A byte string: a file's content, a section's data, a buffer in memory. -/
abbrev Bytes := List UInt8

/-- **A UEFI status** (`uefi::Status`): the firmware's `usize` status code. -/
structure Status where
  /-- The code; errors have the top bit set. -/
  code : UInt64
  deriving DecidableEq, Repr

namespace Status

/-- `Status::SUCCESS`. -/
def success : Status := ⟨0⟩

/-- `Status::INVALID_PARAMETER`. -/
def invalidParameter : Status := ⟨0x8000000000000002⟩

/-- `Status::into` for a `uefi::Result<()>`: success is `Ok`, every other status an error. -/
def intoResult (s : Status) : Except Status Unit :=
  if s = success then .ok () else .error s

end Status

/-- `uefi::ResultExt::status`: the status a result carries, `SUCCESS` for `Ok`. -/
def Except.status {α : Type} : Except Status α → Status
  | .ok _ => .success
  | .error s => s

/-- `Option::ok_or`: the value, or the given error. -/
def Option.okOr {α ε : Type} : Option α → ε → Except ε α
  | some a, _ => .ok a
  | none, e => .error e

/-- `ok_or` of a value is that value. -/
@[simp] theorem Option.okOr_some {α ε : Type} (a : α) (e : ε) : (some a).okOr e = .ok a := rfl
/-- `ok_or` of nothing is the error. -/
@[simp] theorem Option.okOr_none {α ε : Type} (e : ε) :
    (none : Option α).okOr e = .error e := rfl

/-- `pure` in `Result` is `Ok`. -/
@[simp] theorem Except.pure_eq_ok {ε α : Type} (a : α) : (pure a : Except ε α) = .ok a := rfl

/-- A computation ends in `ok b` exactly when its first part does and the rest runs to `b`. -/
@[simp] theorem Except.bind_eq_ok {ε α β : Type} {x : Except ε α} {f : α → Except ε β} {b : β} :
    x >>= f = .ok b ↔ ∃ a, x = .ok a ∧ f a = .ok b := by
  cases x <;> simp [bind, Except.bind]

/-- **`e₀` is the only error `x` can end in.** -/
def Except.FailsOnlyWith {ε α : Type} (e₀ : ε) (x : Except ε α) : Prop :=
  ∀ e, x = .error e → e = e₀

/-- Two steps that fail only with `e₀` make a computation that fails only with `e₀`. -/
theorem Except.failsOnlyWith_bind {ε α β : Type} {e₀ : ε} {x : Except ε α} {f : α → Except ε β}
    (hx : x.FailsOnlyWith e₀) (hf : ∀ a, (f a).FailsOnlyWith e₀) :
    (x >>= f).FailsOnlyWith e₀ := by
  intro e h
  cases x with
  | error e' => cases h; exact hx e rfl
  | ok a => exact hf a e h

/-- `pure` never fails. -/
theorem Except.failsOnlyWith_pure {ε α : Type} (e₀ : ε) (a : α) :
    (pure a : Except ε α).FailsOnlyWith e₀ := by
  intro e h; cases h

/-- `ok_or e₀` fails only with `e₀`. -/
theorem Option.failsOnlyWith_okOr {ε α : Type} (e₀ : ε) (o : Option α) :
    (o.okOr e₀).FailsOnlyWith e₀ := by
  intro e h; cases o <;> cases h; rfl

/-- Turning a status into a result and back gives the status itself. -/
@[simp] theorem Status.intoResult_status (s : Status) : s.intoResult.status = s := by
  unfold Status.intoResult
  split <;> simp_all [Except.status]

/-- **A Rust panic**: the message of the `expect` that failed, a failed `unwrap`, or an index or
a range out of bounds, with the message of `core`. -/
inductive Panic where
  | expect (message : String)
  | unwrap
  | outOfBounds (message : String)
  deriving DecidableEq, Repr

/-! ## Digests -/

/-- **A SHA-256 digest** (`sha2::digest::Output<Sha256>`): exactly 32 bytes. -/
structure Hash where
  /-- The digest's bytes. -/
  bytes : Bytes
  length_eq : bytes.length = 32
  deriving DecidableEq

/-- `<[u8; 32]>::try_from` on a slice: the slice as a digest when it has 32 bytes. -/
def Hash.tryFrom (b : Bytes) : Option Hash :=
  if h : b.length = 32 then some ⟨b, h⟩ else none

/-- A digest is refused exactly when it is not 32 bytes long. -/
@[simp] theorem Hash.tryFrom_eq_none (b : Bytes) : Hash.tryFrom b = none ↔ b.length ≠ 32 := by
  unfold Hash.tryFrom
  split <;> simp_all

/-! ## UCS-2 strings -/

/-- A code unit `Char16` accepts: not NUL, and not a UTF-16 surrogate. -/
def Char16.Valid (u : UInt16) : Prop :=
  u ≠ 0 ∧ ¬(0xD800 ≤ u.toNat ∧ u.toNat < 0xE000)

/-- **A UCS-2 string** (`uefi::CString16`) without its terminating NUL: every unit is a valid
`Char16`, so the string holds no NUL before its end. -/
structure CString16 where
  /-- The code units, in order. -/
  units : List UInt16
  valid : ∀ u ∈ units, Char16.Valid u
  deriving DecidableEq

/-- A character `CString16::try_from` keeps: one UTF-16 unit (so no surrogate pair), not NUL. -/
def Char.IsUcs2 (c : Char) : Prop := c.toNat < 0x10000 ∧ c.toNat ≠ 0

instance : DecidablePred Char.IsUcs2 := fun _ => inferInstanceAs (Decidable (_ ∧ _))

/-- A character's UCS-2 unit is valid: a `Char` is never a surrogate. -/
theorem Char.valid_toUInt16 {c : Char} (h : c.IsUcs2) : Char16.Valid c.toNat.toUInt16 := by
  have hc := c.valid
  simp only [UInt32.isValidChar, Nat.isValidChar] at hc
  have hn : c.toNat.toUInt16.toNat = c.toNat := by
    simp only [Nat.toUInt16, UInt16.toNat, UInt16.ofNat, Fin.ofNat]
    exact Nat.mod_eq_of_lt (by unfold IsUcs2 at h; omega)
  refine ⟨fun h0 => h.2 ?_, ?_⟩
  · rw [← hn, h0]; rfl
  · rw [hn]; simp only [Char.toNat] at *; omega

/-- **`CString16::try_from(&str)`**: the string in UCS-2, or nothing when it holds a NUL or a
character outside the Basic Multilingual Plane. -/
def CString16.tryFrom (s : List Char) : Option CString16 :=
  if h : ∀ c ∈ s, c.IsUcs2 then
    some ⟨s.map (fun c => c.toNat.toUInt16), by
      simp only [List.mem_map]
      rintro _ ⟨c, hc, rfl⟩
      exact Char.valid_toUInt16 (h c hc)⟩
  else none

/-- `CStr16::num_bytes`: the string's size in bytes, its terminating NUL included. -/
def CString16.numBytes (s : CString16) : Nat := (s.units.length + 1) * 2

/-! ## UTF-8 -/

/-- The UTF-8 bytes of one character (what `str::as_bytes` holds for it). -/
def utf8EncodeChar (c : Char) : Bytes :=
  let n := c.toNat
  if n < 0x80 then [n.toUInt8]
  else if n < 0x800 then [(0xC0 + n / 0x40).toUInt8, (0x80 + n % 0x40).toUInt8]
  else if n < 0x10000 then
    [(0xE0 + n / 0x1000).toUInt8, (0x80 + n / 0x40 % 0x40).toUInt8, (0x80 + n % 0x40).toUInt8]
  else
    [(0xF0 + n / 0x40000).toUInt8, (0x80 + n / 0x1000 % 0x40).toUInt8,
      (0x80 + n / 0x40 % 0x40).toUInt8, (0x80 + n % 0x40).toUInt8]

/-- The UTF-8 bytes of a text: what a Rust `String` holds, and what `write_all` writes. -/
def utf8Encode (s : List Char) : Bytes := s.flatMap utf8EncodeChar

/-- The six payload bits of a continuation byte `10xxxxxx`. -/
def contBits (b : UInt8) : Option Nat :=
  if b.toNat / 0x40 = 2 then some (b.toNat % 0x40) else none

/-- The character of code point `n`, when it is one and its encoding was the shortest: `lo` is
the least code point of that encoding's length. -/
def utf8Char (lo n : Nat) : Option Char :=
  if lo ≤ n ∧ n.isValidChar then some (Char.ofNat n) else none

/-- The decoder of `core::str::from_utf8`, reading one byte at a time: `owed` continuation bytes
are still to come for a character whose bits so far are `bits` and whose code point may not be
below `least` (the least code point of its encoding's length, so that no overlong form passes). -/
def utf8Decode : (owed bits least : Nat) → Bytes → Option (List Char)
  | 0, _, _, [] => some []
  | _ + 1, _, _, [] => none
  | 0, _, _, b :: bs =>
    if b.toNat < 0x80 then (Char.ofNat b.toNat :: ·) <$> utf8Decode 0 0 0 bs
    else if b.toNat / 0x20 = 6 then utf8Decode 1 (b.toNat % 0x20) 0x80 bs
    else if b.toNat / 0x10 = 0xE then utf8Decode 2 (b.toNat % 0x10) 0x800 bs
    else if b.toNat / 0x8 = 0x1E then utf8Decode 3 (b.toNat % 0x8) 0x10000 bs
    else none
  | k + 1, bits, least, b :: bs =>
    (contBits b).bind fun c =>
      if k = 0 then
        (utf8Char least (bits * 0x40 + c)).bind fun ch => (ch :: ·) <$> utf8Decode 0 0 0 bs
      else utf8Decode k (bits * 0x40 + c) least bs

/-- **`core::str::from_utf8`**: the characters the bytes encode, when they are well-formed UTF-8
(no overlong form, no surrogate, nothing past U+10FFFF, no truncated sequence). -/
def fromUtf8 (bytes : Bytes) : Option (List Char) := utf8Decode 0 0 0 bytes
