import GuestWatch.Fault.Basic

set_option relaxedAutoImplicit false
set_option autoImplicit false

/-!
# What is asked of a memory

The memory of the guest belongs to the host. This module says what is asked of it: raw little-endian
reads of a byte, an aligned half-word and an aligned word, a check of its own contents, and a switch
for its write protection. A raw read may change the memory's own bookkeeping and may fail.

## Main definitions

* `GuestWatch.GuestMemory` — the class of memories.
-/

namespace GuestWatch

/-- A memory that can be read without running intercepts. -/
class GuestMemory (β : Type) where
  /-- Reads one byte. -/
  readByte : UInt32 → EStateM AccessError β UInt8
  /-- Reads an aligned half-word. -/
  readHalf : UInt32 → EStateM AccessError β UInt16
  /-- Reads an aligned word. -/
  readWord : UInt32 → EStateM AccessError β UInt32
  /-- Checks the contents from one address up to another. -/
  checkContents : UInt32 → UInt32 → β → Bool × β
  /-- Switches write protection. -/
  setProtection : Bool → β → β

end GuestWatch
