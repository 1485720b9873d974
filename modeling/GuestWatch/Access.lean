import GuestWatch.Address.Window
import GuestWatch.Text.Record

set_option relaxedAutoImplicit false
set_option autoImplicit false

/-!
# Accesses

An access is one read or write of the guest, as an intercept reports it. Accesses are
kept with the time they were noticed.

## Main definitions

* `GuestWatch.Direction` — reads and writes.
* `GuestWatch.Access` — a reported access.
* `GuestWatch.StampedAccess` — an access with the time it was recorded.
-/

namespace GuestWatch

/-- The direction of an access. -/
inductive Direction where
  /-- The value was read. -/
  | read
  /-- The value was written. -/
  | write
  deriving DecidableEq, Repr

/-- The name of a direction. -/
def Direction.name : Direction → String
  | .read => "Read"
  | .write => "Write"

/-- Both directions. -/
def Direction.all : List Direction := [.read, .write]

/-- One access of the guest. -/
structure Access where
  /-- The first address touched. -/
  address : UInt32
  /-- The number of bytes touched. -/
  size : UInt32
  /-- The value read or written. -/
  value : UInt32
  /-- The direction. -/
  kind : Direction
  deriving DecidableEq, Repr

/-- An access on one line. -/
def Access.text (access : Access) : String :=
  Text.record "ObservedAccess" [("address", Text.word access.address),
    ("size", Text.word access.size), ("value", Text.word access.value),
    ("kind", access.kind.name)]

/-- An access with the time it was recorded. -/
structure StampedAccess extends Access where
  /-- The reading of the clock. -/
  timestamp : UInt64
  deriving DecidableEq, Repr

/-- Whether a stamped access touches `[address, address + size)`. -/
def StampedAccess.overlaps (r : StampedAccess) (address size : UInt32) : Bool :=
  rangesOverlap r.address r.size address size

end GuestWatch
