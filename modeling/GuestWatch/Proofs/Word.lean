import GuestWatch.Word
import Mathlib.Algebra.Ring.Nat
import Mathlib.Tactic.Lemma

set_option relaxedAutoImplicit false
set_option autoImplicit false

/-!
# Little-endian bytes and numbers

Numbers and their little-endian bytes determine each other, up to what fits in the bytes. The bits of
a word under a mask are told one by one.

## Main results

* `GuestWatch.ofLittleEndian_toLittleEndian` — a number below `256 ^ w` survives the round trip
  through `w` bytes.
* `GuestWatch.toLittleEndian_ofLittleEndian` — bytes survive the round trip through their number.
* `GuestWatch.eq_of_ofLittleEndian` — equally many bytes are determined by their number.
* `GuestWatch.ofLittleEndian_take`, `GuestWatch.ofLittleEndian_drop` — the numbers of a part of the
  bytes.
* `GuestWatch.Word.and_eq_mask_iff`, `GuestWatch.Word.and_ne_zero_iff` — when a word has all bits of
  a mask, and when it has one of them.
-/

namespace GuestWatch

/-- Bytes compose into a number that fits in as many bytes. -/
theorem ofLittleEndian_lt (bytes : List UInt8) : ofLittleEndian bytes < 256 ^ bytes.length := by
  induction bytes with
  | nil => simp [ofLittleEndian]
  | cons b rest ih =>
    have hb : b.toNat < 256 := b.toNat_lt
    simp only [ofLittleEndian, List.length_cons, Nat.pow_succ]
    omega

/-- Bytes before other bytes compose into the sum of both numbers, each at its place. -/
theorem ofLittleEndian_append (first rest : List UInt8) :
    ofLittleEndian (first ++ rest) =
      ofLittleEndian first + 256 ^ first.length * ofLittleEndian rest := by
  induction first with
  | nil => simp [ofLittleEndian]
  | cons b bytes ih =>
    rw [List.cons_append, ofLittleEndian, ofLittleEndian, ih, List.length_cons, Nat.pow_succ',
      Nat.mul_add, Nat.mul_assoc, Nat.add_assoc]

/-- Writing a number in `width` bytes keeps it modulo `256 ^ width`. -/
theorem ofLittleEndian_toLittleEndian (width n : Nat) :
    ofLittleEndian (toLittleEndian width n) = n % 256 ^ width := by
  induction width generalizing n with
  | zero => simp [toLittleEndian, ofLittleEndian, Nat.mod_one]
  | succ width ih =>
    rw [toLittleEndian, ofLittleEndian, ih, Nat.pow_succ, Nat.mul_comm (256 ^ width) 256,
      Nat.mod_mul, UInt8.toNat_ofNat']

/-- Reading bytes and writing them again gives the same bytes. -/
theorem toLittleEndian_ofLittleEndian (bytes : List UInt8) :
    toLittleEndian bytes.length (ofLittleEndian bytes) = bytes := by
  induction bytes with
  | nil => rfl
  | cons b rest ih =>
    have hb : b.toNat < 256 := b.toNat_lt
    have hdiv : (b.toNat + 256 * ofLittleEndian rest) / 256 = ofLittleEndian rest := by omega
    have hmod : UInt8.ofNat (b.toNat + 256 * ofLittleEndian rest) = b := by
      apply UInt8.toNat_inj.mp
      rw [UInt8.toNat_ofNat']
      omega
    simp only [ofLittleEndian, List.length_cons, toLittleEndian, hdiv, hmod, ih]

/-- Equally many bytes that make the same number are the same. -/
theorem eq_of_ofLittleEndian {first second : List UInt8} (hlength : first.length = second.length)
    (h : ofLittleEndian first = ofLittleEndian second) : first = second := by
  calc first = toLittleEndian first.length (ofLittleEndian first) :=
        (toLittleEndian_ofLittleEndian first).symm
    _ = toLittleEndian second.length (ofLittleEndian second) := by rw [hlength, h]
    _ = second := toLittleEndian_ofLittleEndian second

/-- The first bytes of some make the low part of their number. -/
lemma ofLittleEndian_take (bytes : List UInt8) (count : Nat) :
    ofLittleEndian (bytes.take count) = ofLittleEndian bytes % 256 ^ count := by
  induction count generalizing bytes with
  | zero => simp [ofLittleEndian, Nat.mod_one]
  | succ count ih =>
    cases bytes with
    | nil => simp [ofLittleEndian]
    | cons b rest =>
      have hb : b.toNat < 256 := b.toNat_lt
      have hlow : (b.toNat + 256 * ofLittleEndian rest) % 256 = b.toNat := by omega
      have hhigh : (b.toNat + 256 * ofLittleEndian rest) / 256 = ofLittleEndian rest := by omega
      rw [List.take_succ_cons, ofLittleEndian, ih, ofLittleEndian, Nat.pow_succ', Nat.mod_mul, hlow,
        hhigh]

/-- The bytes after the first ones make what is left of their number. -/
lemma ofLittleEndian_drop (bytes : List UInt8) (count : Nat) :
    ofLittleEndian (bytes.drop count) = ofLittleEndian bytes / 256 ^ count := by
  induction count generalizing bytes with
  | zero => simp
  | succ count ih =>
    cases bytes with
    | nil => simp [ofLittleEndian]
    | cons b rest =>
      have hb : b.toNat < 256 := b.toNat_lt
      have hhigh : (b.toNat + 256 * ofLittleEndian rest) / 256 = ofLittleEndian rest := by omega
      rw [List.drop_succ_cons, ih, ofLittleEndian, Nat.pow_succ', ← Nat.div_div_eq_div_mul, hhigh]

namespace Word

/-- The bytes of a word make its number. -/
lemma ofLittleEndian_bytes (word : UInt32) : ofLittleEndian (bytes word) = word.toNat := by
  rw [bytes, ofLittleEndian_toLittleEndian]
  exact Nat.mod_eq_of_lt word.toNat_lt

/-! ## Order -/

/-- The test whether a word is at most another one is the negation of the test the other way. -/
lemma decide_le (a b : UInt32) : decide (a ≤ b) = !decide (b < a) := by
  rw [← decide_not]
  exact decide_eq_decide.mpr UInt32.not_lt.symm

/-! ## Bits under a mask -/

/-- Words with the same bits are the same. -/
lemma eq_of_testBit {a b : UInt32} (h : ∀ i, a.toNat.testBit i = b.toNat.testBit i) : a = b :=
  UInt32.toNat_inj.mp (Nat.eq_of_testBit_eq h)

/-- A bit is set in both of two words when it is set in each. -/
lemma testBit_and (a b : UInt32) (i : Nat) :
    (a &&& b).toNat.testBit i = (a.toNat.testBit i && b.toNat.testBit i) := by
  rw [UInt32.toNat_and, Nat.testBit_and]

/-- A word has all bits of a mask exactly when nothing of the mask is lost under it. -/
theorem and_eq_mask_iff {word mask : UInt32} :
    word &&& mask = mask ↔
      ∀ i, mask.toNat.testBit i = true → word.toNat.testBit i = true := by
  constructor
  · intro h i hi
    rw [← h, testBit_and, Bool.and_eq_true] at hi
    exact hi.1
  · intro h
    refine eq_of_testBit fun i => ?_
    rw [testBit_and]
    cases hi : mask.toNat.testBit i with
    | false => exact Bool.and_false _
    | true => rw [h i hi, Bool.and_true]

/-- A word has some bit of a mask exactly when something of the word is left under it. -/
theorem and_ne_zero_iff {word mask : UInt32} :
    word &&& mask ≠ 0 ↔
      ∃ i, mask.toNat.testBit i = true ∧ word.toNat.testBit i = true := by
  constructor
  · intro h
    have hnumber : (word &&& mask).toNat ≠ 0 := fun hzero => h (UInt32.toNat_inj.mp hzero)
    obtain ⟨i, hi⟩ := Nat.exists_testBit_of_ne_zero hnumber
    rw [testBit_and, Bool.and_eq_true] at hi
    exact ⟨i, hi.2, hi.1⟩
  · rintro ⟨i, hmask, hword⟩ hzero
    have hclear := testBit_and word mask i
    rw [hzero, hmask, hword] at hclear
    simp at hclear

end Word

end GuestWatch
