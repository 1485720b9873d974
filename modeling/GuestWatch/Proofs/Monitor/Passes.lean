import GuestWatch.Monitor.Step
import GuestWatch.Proofs.Watch.Refresh

set_option relaxedAutoImplicit false
set_option autoImplicit false

/-!
# The passes of the monitor

Two moves of the monitor read watches again: the notice of a write and the poll. Each is a pass over
the list of watches and leaves the contents of memory alone.

## Main results

* `GuestWatch.Monitor.notify_pass` — the notice of a write is a pass over the active watches that
  the write overlaps.
* `GuestWatch.Monitor.poll_pass` — a poll is a pass over all active watches.
-/

namespace GuestWatch

namespace Monitor

/-- The notice of a write is a pass over the watches that are told of it. -/
theorem notify_pass (m : Monitor) (address size : UInt32) :
    WatchList.Pass m.ram.look (WatchList.isNotified address size) m.watches.watches
      (m.notify address size).state.watches.watches (m.notify address size).journal :=
  WatchList.notifyWatches_pass address size m.watches.watches m.probe

/-- The notice of a write only counts. -/
lemma recounted_notify (m : Monitor) (address size : UInt32) :
    (m.notify address size).state.ram.Recounted m.ram :=
  WatchList.notifyWatches_recounted address size m.watches.watches m.probe

/-- The notice of a write leaves the memory alike. -/
lemma alike_notify (m : Monitor) (address size : UInt32) :
    (m.notify address size).state.ram.Alike m.ram :=
  (recounted_notify m address size).alike

/-- A poll is a pass over all active watches. -/
theorem poll_pass (m : Monitor) :
    WatchList.Pass m.ram.look (fun _ => true) m.watches.activeWatches
      m.poll.state.watches.watches m.poll.journal :=
  (WatchList.pollWatches_pass m.watches.activeWatches m.probe m.ledger).prepend
    m.watches.quiet_pruneJournal

/-- A poll only counts. -/
lemma recounted_poll (m : Monitor) : m.poll.state.ram.Recounted m.ram :=
  WatchList.pollWatches_recounted m.watches.activeWatches m.probe m.ledger

/-- A poll leaves the memory alike. -/
lemma alike_poll (m : Monitor) : m.poll.state.ram.Alike m.ram := (recounted_poll m).alike

end Monitor

end GuestWatch
