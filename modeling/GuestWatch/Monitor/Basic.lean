import GuestWatch.Condition.Set
import GuestWatch.Hardcore
import GuestWatch.Memory.Ram
import GuestWatch.Monitor.Options
import GuestWatch.Watch.List

set_option relaxedAutoImplicit false
set_option autoImplicit false

/-!
# The state of the monitor

The monitor owns a memory and the lists that observe it. Two queues connect them: accesses that
intercepts reported wait in one until the monitor applies them, and commands that callbacks asked
for wait in the other until the operation at hand is done.

## Main definitions

* `GuestWatch.Monitor` — the state.
* `GuestWatch.Monitor.make` — the state of a new monitor.
* `GuestWatch.Monitor.memoryStep` — an operation of the host or the guest on the memory; what an
  intercept reports joins the queue when there is room.
-/

namespace GuestWatch

/-- The state of a monitor. -/
structure Monitor where
  /-- The memory. -/
  ram : Ram := {}
  /-- What it was made with. -/
  options : Options := {}
  /-- The watches. -/
  watches : WatchList := {}
  /-- The conditions. -/
  conditions : ConditionSet := {}
  /-- The access ledger. -/
  ledger : Ledger := {}
  /-- Hardcore mode. -/
  hardcore : Hardcore := {}
  /-- The fault counters. -/
  tally : Tally := {}
  /-- The commands that wait, in the order they were asked for. -/
  followUps : List Command := []
  /-- The intercepted accesses that wait, oldest first. -/
  pending : List Access := []
  /-- Whether the monitor has been started and not shut down since. -/
  active : Bool := false
  /-- Whether the intercepts are installed. -/
  intercepting : Bool := false
  /-- The loaded game. -/
  game : Option String := none

namespace Monitor

/-- A new monitor. Its clock reads `now`. -/
def make (options : Options) (now : UInt64) : Monitor where
  options := options
  ledger :=
    (({ now } : Ledger).setLimit options.historyLimit).enableTracking options.trackingEnabled

/-- How many intercepted accesses may wait. -/
def capacity (m : Monitor) : Nat := max 1 m.options.pendingCapacity

/-- The memory and the fault counters. -/
def probe (m : Monitor) : Probe Ram := ⟨m.ram, m.tally⟩

/-- The monitor after reads through its probe. -/
def withProbe (m : Monitor) (probe : Probe Ram) : Monitor :=
  { m with ram := probe.memory, tally := probe.tally }

/-- The monitor with commands added to the ones that wait. -/
def enqueue (m : Monitor) (commands : List Command) : Monitor :=
  { m with followUps := m.followUps ++ commands }

/-- Counts a fault. -/
def record (m : Monitor) (fault : Fault) : Monitor :=
  { m with tally := m.tally.record fault }

/-! ## Memory operations -/

/-- Adds a reported access to the ones that wait, or drops it when there is no room. -/
def accept (m : Monitor) : Option Access → Outcome Monitor Unit
  | none => ⟨(), m, {}⟩
  | some access =>
    if m.pending.length < m.capacity then ⟨(), { m with pending := m.pending ++ [access] }, {}⟩
    else ⟨(), m, Journal.note (.accessDropped access)⟩

/-- Carries out an operation of the host or the guest on the memory. -/
def memoryStep (m : Monitor) (op : MemoryOp) : Outcome Monitor MemoryReply :=
  let reaction := m.ram.step op
  let accepted := { m with ram := reaction.ram }.accept reaction.captured
  ⟨reaction.value, accepted.state, { events := reaction.events } ++ accepted.journal⟩

/-! ## Text -/

/-- A monitor on one line. -/
def text (m : Monitor) : String :=
  Text.openRecord "Engine" [("backend", m.ram.text), ("config", m.options.text),
    ("watches", Nat.repr m.watches.size), ("hardcore", m.hardcore.text),
    ("initialized", Text.flag m.active), ("handlers_installed", Text.flag m.intercepting),
    ("game", Text.option (m.game.map Text.quoted))]

end Monitor

end GuestWatch
