import GuestWatch.Ledger
import GuestWatch.Watch.Basic

set_option relaxedAutoImplicit false
set_option autoImplicit false

/-!
# The watch list

The list holds one watch for each address, in the order in which the addresses were first added. A
write notice refreshes the active watches it overlaps; a poll drops the watches that ended before
and refreshes all others.

## Main definitions

* `GuestWatch.WatchList` — the watches.
* `GuestWatch.WatchList.add` — adds a watch whose value has been read once.
* `GuestWatch.WatchList.notify` — handles a write notice.
* `GuestWatch.WatchList.poll` — reads every watch again and records the changes in a
  ledger.
-/

namespace GuestWatch

/-- The watches, one for each address. -/
structure WatchList where
  /-- The watches in the order of their addresses' first addition. -/
  watches : List Watch := []

namespace WatchList

variable {β : Type} [GuestMemory β]

/-- Puts a watch in the place of the one at its address, or at the end. -/
def place (w : Watch) : List Watch → List Watch
  | [] => [w]
  | other :: rest => if other.address = w.address then w :: rest else other :: place w rest

/-- Adds a watch. The range must be legal and the width a watch's; the value is then read once, and
a watch whose value cannot be read is not added. -/
def add (ws : WatchList) (probe : Probe β) (address size : UInt32)
    (callback : Option (Callback Change)) : Outcome (WatchList × Probe β) (Except Fault Unit) :=
  match checkRange address size with
  | .error fault => ⟨.error fault, (ws, probe), {}⟩
  | .ok _ =>
    if Watch.widths.contains size then
      let tried := probe.attempt address size
      match tried.value with
      | .error fault => ⟨.error fault, (ws, tried.state), tried.journal⟩
      | .ok value =>
        let watch : Watch := { address, size, lastValue := value, callback }
        ⟨.ok (), (⟨place watch ws.watches⟩, tried.state), tried.journal⟩
    else ⟨.error (.configuration address .watchWidth size), (ws, probe), {}⟩

/-- Removes the watch at an address. -/
def remove (ws : WatchList) (address : UInt32) : WatchList :=
  ⟨ws.watches.filter fun w => w.address != address⟩

/-- Whether there is a watch at an address. -/
def contains (ws : WatchList) (address : UInt32) : Bool :=
  ws.watches.any fun w => w.address == address

/-- The watch at an address. -/
def get? (ws : WatchList) (address : UInt32) : Option Watch :=
  ws.watches.find? fun w => w.address == address

/-- Removes every watch. -/
def clear (_ : WatchList) : WatchList := {}

/-- The number of watches, active or not. -/
def size (ws : WatchList) : Nat := ws.watches.length

/-! ## Write notices -/

/-- Whether a write to `[address, address + size)` makes a watch be read again. -/
def isNotified (address size : UInt32) (w : Watch) : Bool :=
  w.active && rangesOverlap w.address w.size address size

/-- Handles a write notice watch by watch, counting the changes. -/
def notifyWatches (address size : UInt32) :
    List Watch → Probe β → Outcome (List Watch × Probe β) Nat
  | [], probe => ⟨0, ([], probe), {}⟩
  | w :: rest, probe =>
    if isNotified address size w then
      let head := w.refresh probe
      let tail := notifyWatches address size rest head.state.2
      let fired := match head.value with
        | .changed _ => 1
        | _ => 0
      ⟨fired + tail.value, (head.state.1 :: tail.state.1, tail.state.2),
        head.journal ++ tail.journal⟩
    else
      let tail := notifyWatches address size rest probe
      ⟨tail.value, (w :: tail.state.1, tail.state.2), tail.journal⟩

/-- Refreshes every active watch that a write to `[address, address + size)` overlaps. The value is
the number of changes found. -/
def notify (ws : WatchList) (probe : Probe β) (address size : UInt32) :
    Outcome (WatchList × Probe β) Nat :=
  let told := notifyWatches address size ws.watches probe
  ⟨told.value, (⟨told.state.1⟩, told.state.2), told.journal⟩

/-! ## Polls -/

/-- What a poll carries from watch to watch. -/
structure Polling (β : Type) where
  /-- The watches that were polled. -/
  watches : List Watch
  /-- The memory and the fault counters. -/
  probe : Probe β
  /-- The ledger that records the changes. -/
  ledger : Ledger

/-- Polls one watch. Its range is checked again, its value is read again, and a change is recorded
as a write after the callback was told. -/
def pollWatch (w : Watch) (probe : Probe β) (ledger : Ledger) :
    Outcome (Watch × Probe β × Ledger) FrameReport :=
  match checkRange w.address w.size with
  | .error fault =>
    let ended := w.deactivate probe fault
    ⟨{ deactivated := 1 }, (ended.state.1, ended.state.2, ledger), ended.journal⟩
  | .ok _ =>
    let seen := w.refresh probe
    match seen.value with
    | .steady => ⟨{}, (seen.state.1, seen.state.2, ledger), seen.journal⟩
    | .failed _ => ⟨{ deactivated := 1 }, (seen.state.1, seen.state.2, ledger), seen.journal⟩
    | .changed change =>
      let kept := ledger.track ⟨change.address, change.size, change.newValue, .write⟩
      ⟨{ fired := 1 }, (seen.state.1, seen.state.2, kept.state), seen.journal ++ kept.journal⟩

/-- Polls watches one after the other. -/
def pollWatches : List Watch → Probe β → Ledger → Outcome (Polling β) FrameReport
  | [], probe, ledger => ⟨{}, ⟨[], probe, ledger⟩, {}⟩
  | w :: rest, probe, ledger =>
    let head := pollWatch w probe ledger
    let tail := pollWatches rest head.state.2.1 head.state.2.2
    ⟨{ fired := head.value.fired + tail.value.fired
       deactivated := head.value.deactivated + tail.value.deactivated },
      { tail.state with watches := head.state.1 :: tail.state.watches },
      head.journal ++ tail.journal⟩

/-- The watches that are still active. -/
def activeWatches (ws : WatchList) : List Watch := ws.watches.filter Watch.active

/-- How many watches ended since the last poll. -/
def inactiveCount (ws : WatchList) : Nat := ws.watches.countP fun w => !w.active

/-- What dropping the ended watches notes. -/
def pruneJournal (ws : WatchList) : Journal :=
  if ws.inactiveCount = 0 then {} else Journal.note (.watchesPruned ws.inactiveCount)

/-- Polls the watches: drops the watches that ended before, then reads every other one again and
records its change, if any, in the ledger. -/
def poll (ws : WatchList) (probe : Probe β) (ledger : Ledger) :
    Outcome (WatchList × Probe β × Ledger) FrameReport :=
  let polled := pollWatches ws.activeWatches probe ledger
  ⟨{ polled.value with pruned := ws.inactiveCount },
    (⟨polled.state.watches⟩, polled.state.probe, polled.state.ledger),
    ws.pruneJournal ++ polled.journal⟩

/-- A watch list on one line. -/
def text (ws : WatchList) : String :=
  Text.record "WatchTable" [("watches", Text.list (ws.watches.map Watch.text))]

end WatchList

end GuestWatch
