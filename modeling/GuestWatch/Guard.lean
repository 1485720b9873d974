import GuestWatch.Address.Range

set_option relaxedAutoImplicit false
set_option autoImplicit false

/-!
# Protected regions

A guard holds regions that do not intersect: a region that is added evicts the ones it intersects.
Addresses in a region are protected while the guard is switched on.

## Main definitions

* `GuestWatch.Region` — a half-open range of addresses.
* `GuestWatch.Guard` — the regions and the switch, with `add` and `isProtected`.
-/

namespace GuestWatch

/-- The range `[start, start + size)`. -/
structure Region where
  /-- The first address. -/
  start : UInt32
  /-- The number of bytes. -/
  size : UInt32
  deriving DecidableEq, Repr

namespace Region

/-- The first address past a region. -/
def stop (r : Region) : Nat := r.start.toNat + r.size.toNat

/-- Whether an address lies in a region. -/
def contains (r : Region) (address : UInt32) : Bool := rangesOverlap r.start r.size address 1

/-- Whether two regions intersect. -/
def overlaps (r other : Region) : Bool := rangesOverlap r.start r.size other.start other.size

/-- A region on one line. -/
def text (r : Region) : String :=
  Text.record "ProtectedRegion" [("start", Text.word r.start), ("size", Text.word r.size)]

end Region

/-- Regions that do not intersect, and the switch of their protection. -/
structure Guard where
  /-- The regions, oldest first. -/
  regions : List Region := []
  /-- Whether the regions are protected. -/
  enabled : Bool := false
  deriving DecidableEq, Repr

namespace Guard

/-- Adds a region with a legal range and evicts the ones it intersects. The value is the number of
evicted regions and the guard afterwards. -/
def add (guard : Guard) (r : Region) : Except Fault (Nat × Guard) :=
  match checkRange r.start r.size with
  | .error fault => .error fault
  | .ok _ =>
    .ok (guard.regions.countP fun other => other.overlaps r,
      { guard with regions := (guard.regions.filter fun other => !other.overlaps r) ++ [r] })

/-- Removes every region. -/
def clear (guard : Guard) : Guard := { guard with regions := [] }

/-- Whether an address is protected now. -/
def isProtected (guard : Guard) (address : UInt32) : Bool :=
  guard.enabled && guard.regions.any fun r => r.contains address

/-- A guard on one line. -/
def text (guard : Guard) : String :=
  Text.record "ProtectionGuard" [("regions", Text.list (guard.regions.map Region.text)),
    ("enabled", Text.flag guard.enabled)]

end Guard

end GuestWatch
