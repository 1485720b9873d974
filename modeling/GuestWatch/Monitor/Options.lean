import GuestWatch.Ledger

set_option relaxedAutoImplicit false
set_option autoImplicit false

/-!
# Options of a monitor

## Main definitions

* `GuestWatch.Options` — the settings a monitor is made with.
-/

namespace GuestWatch

/-- The priority of the monitor's intercepts when nobody gives one. -/
def Options.usualPriority : UInt32 := 0

/-- The capacity of the queue of intercepted accesses when nobody gives one. -/
def Options.usualCapacity : Nat := 4096

/-- The settings a monitor is made with. -/
structure Options where
  /-- The limit of the access ledger. -/
  historyLimit : Nat := Ledger.usualLimit
  /-- Whether accesses are recorded from the start. -/
  trackingEnabled : Bool := true
  /-- Whether hardcore mode is switched on when the monitor starts. -/
  hardcoreOnStart : Bool := false
  /-- The priority of the monitor's intercepts. -/
  interceptPriority : UInt32 := Options.usualPriority
  /-- Whether guest loads are reported to the monitor as well. -/
  trackReads : Bool := false
  /-- The capacity of the queue of intercepted accesses; it holds at least one. -/
  pendingCapacity : Nat := Options.usualCapacity
  deriving DecidableEq, Repr

/-- Options on one line. -/
def Options.text (options : Options) : String :=
  Text.record "EngineConfig" [("history_limit", Nat.repr options.historyLimit),
    ("tracking_enabled", Text.flag options.trackingEnabled),
    ("hardcore_on_start", Text.flag options.hardcoreOnStart),
    ("intercept_priority", Text.word options.interceptPriority),
    ("track_reads", Text.flag options.trackReads),
    ("pending_capacity", Nat.repr options.pendingCapacity)]

end GuestWatch
