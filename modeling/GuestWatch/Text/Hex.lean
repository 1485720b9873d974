set_option relaxedAutoImplicit false
set_option autoImplicit false

/-!
# Hexadecimal numbers in messages

Messages write addresses with at least eight lower-case digits and sizes or bit masks with as many
digits as they need; both carry the mark `0x`.

## Main definitions

* `GuestWatch.Hex.short` — `0x` and the digits, no padding.
* `GuestWatch.Hex.padded` — `0x` and at least eight digits.
-/

namespace GuestWatch.Hex

/-- The lower-case digits of a number in base sixteen, most significant first. -/
def digits (n : Nat) : List Char := Nat.toDigits 16 n

/-- A size or a mask: the mark and the digits. -/
def short (n : Nat) : String := "0x" ++ String.ofList (digits n)

/-- An address: the mark, then zeros up to eight digits. -/
def padded (n : Nat) : String :=
  "0x" ++ String.ofList (List.replicate (8 - (digits n).length) '0' ++ digits n)

/-- The padded text of a 32-bit address. -/
def address (a : UInt32) : String := padded a.toNat

/-- The short text of a 32-bit size. -/
def size (n : UInt32) : String := short n.toNat

end GuestWatch.Hex
