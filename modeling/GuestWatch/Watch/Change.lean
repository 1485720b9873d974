set_option relaxedAutoImplicit false
set_option autoImplicit false

/-!
# Changes of a watched value

## Main definitions

* `GuestWatch.Change` — what the callback of a watch is told.
* `GuestWatch.FrameReport` — what one poll of the watches did.
-/

namespace GuestWatch

/-- A watched value changed. -/
structure Change where
  /-- The watched address. -/
  address : UInt32
  /-- The watched width in bytes. -/
  size : UInt32
  /-- The value seen before. -/
  oldValue : UInt32
  /-- The value seen now. -/
  newValue : UInt32
  deriving DecidableEq, Repr

/-- What one poll of the watches did. -/
structure FrameReport where
  /-- How many inactive watches were dropped before the poll. -/
  pruned : Nat := 0
  /-- How many watches had changed. -/
  fired : Nat := 0
  /-- How many watches were given up. -/
  deactivated : Nat := 0
  deriving DecidableEq, Repr

end GuestWatch
