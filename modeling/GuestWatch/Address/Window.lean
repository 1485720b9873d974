set_option relaxedAutoImplicit false
set_option autoImplicit false

/-!
# Observable windows

The guest has two stretches of memory that may be observed: main memory and the scratchpad. An
address belongs to at most one of them, and a range may be observed only when one window holds it
whole.

Ends of ranges are natural numbers: a range that reaches past the last address compares as it is,
without wrapping.

## Main definitions

* `GuestWatch.Window` — the two windows, with `start`, `size` and `stop`.
* `GuestWatch.Window.of?` — the window that owns an address.
* `GuestWatch.rangesOverlap` — whether two half-open ranges intersect.

## Main results

* `GuestWatch.Window.of?_eq_some_iff` — an address is owned by exactly the window containing it.
-/

namespace GuestWatch

/-- A stretch of guest memory that may be observed. -/
inductive Window where
  /-- Main memory, 32 MiB from address zero. -/
  | ram
  /-- The scratchpad, 16 KiB from `0x70000000`. -/
  | scratchpad
  deriving DecidableEq, Repr

namespace Window

/-- The first address of a window. -/
def start : Window → UInt32
  | ram => 0
  | scratchpad => 0x70000000

/-- The length of a window in bytes. -/
def size : Window → UInt32
  | ram => 0x02000000
  | scratchpad => 0x4000

/-- The first address past a window. -/
def stop (w : Window) : Nat := w.start.toNat + w.size.toNat

/-- The name of a window. -/
def name : Window → String
  | ram => "Ram"
  | scratchpad => "Scratchpad"

/-- The windows in ascending order of address. -/
def all : List Window := [ram, scratchpad]

/-- Whether an address belongs to a window. -/
def contains (w : Window) (address : UInt32) : Bool :=
  w.start.toNat ≤ address.toNat && address.toNat < w.stop

/-- Whether `[address, address + size)` starts in or after a window and ends inside it. -/
def containsRange (w : Window) (address size : UInt32) : Bool :=
  w.start.toNat ≤ address.toNat && address.toNat + size.toNat ≤ w.stop

/-- The window that owns an address. -/
def of? (address : UInt32) : Option Window :=
  if ram.contains address then some ram
  else if scratchpad.contains address then some scratchpad
  else none

/-- A window contains exactly the addresses from its start up to its stop. -/
theorem contains_iff {w : Window} {address : UInt32} :
    w.contains address = true ↔ w.start.toNat ≤ address.toNat ∧ address.toNat < w.stop := by
  simp [contains]

/-- The two windows share no address. -/
theorem not_contains_scratchpad {address : UInt32} (h : ram.contains address = true) :
    scratchpad.contains address = false := by
  rw [Bool.eq_false_iff]
  intro h'
  rw [contains_iff] at h h'
  simp only [stop, start, size, UInt32.reduceToNat] at h h'
  omega

/-- An address is owned by exactly the window that contains it. -/
theorem of?_eq_some_iff {w : Window} {address : UInt32} :
    of? address = some w ↔ w.contains address = true := by
  unfold of?
  cases w with
  | ram =>
    by_cases h : ram.contains address <;> simp [h]
  | scratchpad =>
    by_cases h : ram.contains address
    · simp [h, not_contains_scratchpad h]
    · simp [h]

end Window

/-- Whether `[a, a + aSize)` and `[b, b + bSize)` intersect: each starts before the other ends. -/
def rangesOverlap (a aSize b bSize : UInt32) : Bool :=
  a.toNat < b.toNat + bSize.toNat && b.toNat < a.toNat + aSize.toNat

/-- Ranges overlap when each starts before the other ends. -/
theorem rangesOverlap_iff {a aSize b bSize : UInt32} :
    rangesOverlap a aSize b bSize = true ↔
      a.toNat < b.toNat + bSize.toNat ∧ b.toNat < a.toNat + aSize.toNat := by
  simp [rangesOverlap]

end GuestWatch
