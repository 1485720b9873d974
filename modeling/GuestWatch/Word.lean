set_option relaxedAutoImplicit false
set_option autoImplicit false

/-!
# Words of the guest machine

The guest is a 32-bit little-endian machine. This module holds the three facts about its words
that everything else uses: how a number is laid out in bytes, how bytes compose into a number,
and how a 32-bit counter saturates.

## Main definitions

* `GuestWatch.ofLittleEndian`, `GuestWatch.toLittleEndian` — bytes to number and back, least
  significant byte first.
* `GuestWatch.Word.ofBytes`, `GuestWatch.Word.bytes` — the same for the four bytes of a word.
* `GuestWatch.Word.satAdd` — addition that stops at the largest word.

## Main results

* `GuestWatch.Word.toNat_satAdd` — saturating addition is exact addition clamped to `2 ^ 32 - 1`.
-/

namespace GuestWatch

/-! ## Little-endian layout -/

/-- The number whose little-endian bytes are given. -/
def ofLittleEndian : List UInt8 → Nat
  | [] => 0
  | b :: rest => b.toNat + 256 * ofLittleEndian rest

/-- The `width` low bytes of a number, least significant first. -/
def toLittleEndian : Nat → Nat → List UInt8
  | 0, _ => []
  | width + 1, n => UInt8.ofNat n :: toLittleEndian width (n / 256)

@[simp] theorem length_toLittleEndian (width n : Nat) :
    (toLittleEndian width n).length = width := by
  induction width generalizing n with
  | zero => rfl
  | succ width ih => simp [toLittleEndian, ih]

/-! ## Words and double words -/

namespace Word

/-- The word with the given bytes, least significant first. -/
def ofBytes (b₀ b₁ b₂ b₃ : UInt8) : UInt32 := UInt32.ofNat (ofLittleEndian [b₀, b₁, b₂, b₃])

/-- The four bytes of a word, least significant first. -/
def bytes (word : UInt32) : List UInt8 := toLittleEndian 4 word.toNat

@[simp] theorem length_bytes (word : UInt32) : (bytes word).length = 4 :=
  length_toLittleEndian 4 _

/-- The greatest word, `2 ^ 32 - 1`. -/
def greatest : UInt32 := 0xffffffff

/-- Addition that stays at the greatest word instead of wrapping. -/
def satAdd (a b : UInt32) : UInt32 :=
  if a.toNat + b.toNat < UInt32.size then a + b else greatest

/-- Saturating addition is exact addition clamped to the greatest word. -/
theorem toNat_satAdd (a b : UInt32) :
    (satAdd a b).toNat = min (UInt32.size - 1) (a.toNat + b.toNat) := by
  have hsize : UInt32.size = 4294967296 := rfl
  unfold satAdd
  split
  · rename_i h
    rw [UInt32.toNat_add, Nat.mod_eq_of_lt h]
    omega
  · simp only [greatest, UInt32.reduceToNat]
    omega

end Word

/-- The double word with the given low and high word. -/
def Double.ofWords (low high : UInt32) : UInt64 :=
  UInt64.ofNat (low.toNat + UInt32.size * high.toNat)

/-- The low word of a double word. -/
def Double.low (double : UInt64) : UInt32 := UInt32.ofNat double.toNat

end GuestWatch
