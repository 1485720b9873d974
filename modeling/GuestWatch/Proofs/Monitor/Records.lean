import GuestWatch.Proofs.Monitor.Announcements
import GuestWatch.Proofs.Watch.Verdicts

set_option relaxedAutoImplicit false
set_option autoImplicit false

/-!
# What the ledger tells its callbacks

Only two things are recorded in the ledger: the accesses that are applied, and the changes that a
poll finds. While recording is switched on and the range of what is recorded is a legal one, each
callback of the ledger is told once. Nothing else that the monitor does tells them anything.

## Main definitions

* `GuestWatch.Journal.recorded` — the accesses told to callbacks of the ledger.
* `GuestWatch.Journal.refusals` — the accesses the ledger refused to record, by their faults.
* `GuestWatch.Watch.found` — the change a poll finds, as an access.

## Main results

* `GuestWatch.Ledger.recorded_track` — what recording one access tells.
* `GuestWatch.WatchList.records_pollWatches` — what a poll tells, where all ranges are legal.
* `GuestWatch.Monitor.recorded_observeAll` — what applying accesses tells.
* `GuestWatch.Monitor.recorded_drain` — carrying out commands tells nothing.
-/

namespace GuestWatch

/-- The access whose recording an event tells, with the name of the callback. -/
def Event.recorded? : Event → Option (String × Access)
  | .recorded name entry => some (name, entry.toAccess)
  | _ => none

/-- The fault for which an access was not recorded. -/
def Note.refusal? : Note → Option Fault
  | .accessRefused fault => some fault
  | _ => none

namespace Journal

/-- The accesses told to callbacks of the ledger, with the names of the callbacks. -/
def recorded (j : Journal) : List (String × Access) := j.events.filterMap Event.recorded?

/-- The faults for which accesses were not recorded. -/
def refusals (j : Journal) : List Fault := j.notes.filterMap Note.refusal?

@[simp] lemma recorded_append (a b : Journal) : (a ++ b).recorded = a.recorded ++ b.recorded :=
  List.filterMap_append

@[simp] lemma refusals_append (a b : Journal) : (a ++ b).refusals = a.refusals ++ b.refusals :=
  List.filterMap_append

/-- What is recorded is reported. -/
lemma recorded_of_reports_nil {j : Journal} (h : j.reports = []) : j.recorded = [] := by
  refine List.filterMap_eq_nil_iff.mpr fun e he => ?_
  have hmode := List.filter_eq_nil_iff.mp h e he
  cases e <;> first | rfl | exact absurd rfl hmode

end Journal

/-! ## The ledger -/

namespace Ledger

/-- What the callbacks of a ledger are told of an access that is recorded. -/
def tellings (ledger : Ledger) (access : Access) : List (String × Access) :=
  ledger.callbacks.map fun name => (name, access)

/-- Recording changes neither the switch nor the callbacks. -/
lemma track_keeps (ledger : Ledger) (access : Access) :
    (ledger.track access).state.tracking = ledger.tracking ∧
      (ledger.track access).state.callbacks = ledger.callbacks := by
  unfold track
  split
  · split <;> exact ⟨rfl, rfl⟩
  · exact ⟨rfl, rfl⟩

/-- **What recording an access tells**: each callback once, when recording is switched on and the
range is a legal one. -/
theorem recorded_track {ledger : Ledger} (htracking : ledger.tracking = true) {access : Access}
    {w : Window} (hrange : checkRange access.address access.size = .ok w) :
    (ledger.track access).journal.recorded = ledger.tellings access := by
  have htrack : (ledger.track access).journal.recorded =
      (ledger.callbacks.map fun name =>
        Event.recorded name { access with timestamp := ledger.stamp }).filterMap
          Event.recorded? := by
    simp only [track, htracking, if_true, hrange, Journal.recorded]
  rw [htrack, List.filterMap_map]
  exact congrFun List.filterMap_eq_map _

/-- An access with a legal range is not refused. -/
lemma refusals_track (ledger : Ledger) {access : Access} {w : Window}
    (hrange : checkRange access.address access.size = .ok w) :
    (ledger.track access).journal.refusals = [] := by
  cases htracking : ledger.tracking with
  | false =>
    simp only [track, htracking, Bool.false_eq_true, if_false]
    rfl
  | true =>
    simp only [track, htracking, if_true, hrange]
    rfl

end Ledger

/-! ## Watches -/

/-- A refresh tells the callback of the watch, and no callback of the ledger. -/
lemma Watch.recorded_refresh (w : Watch) (probe : Probe Ram) :
    (w.refresh probe).journal.recorded = [] := by
  simp only [refresh]
  split
  · rfl
  · split
    · rfl
    · cases w.callback <;> rfl

/-- Neither does a write notice. -/
lemma WatchList.recorded_notifyWatches (address size : UInt32) (ws : List Watch)
    (probe : Probe Ram) : (notifyWatches address size ws probe).journal.recorded = [] := by
  induction ws generalizing probe with
  | nil => rfl
  | cons w rest ih =>
    unfold notifyWatches
    split
    · have hhead := w.recorded_refresh probe
      have htail := ih (w.refresh probe).state.2
      simp only [Journal.recorded_append, hhead, htail, List.append_nil]
    · exact ih probe

/-- The change a watch shows when it is read again, as the access by which the ledger records it. -/
def Watch.found (look : Look) (w : Watch) : List Access :=
  match look w.address w.size with
  | .error _ => []
  | .ok value => if value = w.lastValue then [] else [⟨w.address, w.size, value, .write⟩]

/-- A refresh finds the value steady, or that it cannot be read, or the change that the watch shows.
-/
lemma Watch.refresh_cases (w : Watch) (probe : Probe Ram) :
    ((w.refresh probe).value = .steady ∧ w.found probe.memory.look = []) ∨
    (∃ fault, (w.refresh probe).value = .failed fault ∧ w.found probe.memory.look = []) ∨
    ∃ value, (w.refresh probe).value = .changed (w.changeTo value) ∧
      w.found probe.memory.look = [⟨w.address, w.size, value, .write⟩] := by
  rw [refresh_value, found]
  cases probe.memory.look w.address w.size with
  | error fault => exact Or.inr (Or.inl ⟨fault, rfl, rfl⟩)
  | ok value =>
    by_cases hsame : value = w.lastValue
    · simp only [hsame, if_true]
      exact Or.inl ⟨trivial, trivial⟩
    · simp only [hsame, if_false]
      exact Or.inr (Or.inr ⟨value, rfl, rfl⟩)

/-- No access is refused in a refresh. -/
lemma Watch.refusals_refresh (w : Watch) (probe : Probe Ram) :
    (w.refresh probe).journal.refusals = [] := by
  have hattempt : (probe.attempt w.address w.size).journal.refusals = [] := by
    simp only [Probe.attempt, Probe.readNotes, Journal.refusals]
    split
    · split <;> rfl
    · rfl
  simp only [refresh]
  split
  · simp only [Journal.refusals_append, hattempt]
    rfl
  · split
    · exact hattempt
    · simp only [Journal.refusals_append, hattempt]
      cases w.callback <;> rfl

/-- What polling records, from one ledger to another: no access is refused, each access that was
found is told to the callbacks while recording is switched on, and the switch and the callbacks stay
as they are. -/
structure WatchList.Records (ledger ledger' : Ledger) (found : List Access) (j : Journal) :
    Prop where
  /-- No access is refused. -/
  refusals : j.refusals = []
  /-- Each access that was found is told to each callback. -/
  recorded : ledger.tracking = true → j.recorded = found.flatMap ledger.tellings
  /-- The switch stays. -/
  tracking : ledger'.tracking = ledger.tracking
  /-- The callbacks stay. -/
  callbacks : ledger'.callbacks = ledger.callbacks

namespace WatchList

/-- **Polling a watch with a legal range** records the change it finds, if any. -/
lemma records_pollWatch {w : Watch} {v : Window} (hrange : checkRange w.address w.size = .ok v)
    (probe : Probe Ram) (ledger : Ledger) :
    Records ledger (pollWatch w probe ledger).state.2.2 (w.found probe.memory.look)
      (pollWatch w probe ledger).journal := by
  have hrefusals := w.refusals_refresh probe
  have hrecorded := w.recorded_refresh probe
  unfold pollWatch
  rcases w.refresh_cases probe with ⟨hvalue, hfound⟩ | ⟨fault, hvalue, hfound⟩ |
    ⟨value, hvalue, hfound⟩
  · simp only [hrange, hvalue, hfound]
    exact ⟨hrefusals, fun _ => hrecorded, rfl, rfl⟩
  · simp only [hrange, hvalue, hfound]
    exact ⟨hrefusals, fun _ => hrecorded, rfl, rfl⟩
  · simp only [hrange, hvalue, hfound, Watch.changeTo]
    obtain ⟨hswitch, hcallbacks⟩ := ledger.track_keeps ⟨w.address, w.size, value, .write⟩
    refine ⟨?_, fun htracking => ?_, hswitch, hcallbacks⟩
    · have htrack := @Ledger.refusals_track ledger ⟨w.address, w.size, value, .write⟩ v hrange
      simp only [Journal.refusals_append, hrefusals, htrack, List.append_nil]
    · have htrack := @Ledger.recorded_track ledger htracking
        ⟨w.address, w.size, value, .write⟩ v hrange
      simp only [Journal.recorded_append, hrecorded, htrack, List.nil_append,
        List.flatMap_singleton]

/-- **Polling watches with legal ranges** records the changes it finds, and none is refused.

**Proof sketch.** By induction on the list. The poll of the first watch leaves the memory alike, so
the watches after it show the same changes as before. -/
theorem records_pollWatches {ws : List Watch}
    (hranges : ∀ w ∈ ws, ∃ v, checkRange w.address w.size = .ok v) (probe : Probe Ram)
    (ledger : Ledger) :
    Records ledger (pollWatches ws probe ledger).state.ledger
      (ws.flatMap (Watch.found probe.memory.look)) (pollWatches ws probe ledger).journal := by
  induction ws generalizing probe ledger with
  | nil => exact ⟨rfl, fun _ => rfl, rfl, rfl⟩
  | cons w rest ih =>
    obtain ⟨v, hrange⟩ := hranges w List.mem_cons_self
    have hhead := records_pollWatch hrange probe ledger
    have htail := ih (fun u hu => hranges u (List.mem_cons_of_mem w hu))
      (pollWatch w probe ledger).state.2.1 (pollWatch w probe ledger).state.2.2
    rw [(pollWatch_recounted w probe ledger).alike.look_eq] at htail
    refine ⟨?_, fun htracking => ?_, htail.tracking.trans hhead.tracking,
      htail.callbacks.trans hhead.callbacks⟩
    · simp only [pollWatches, Journal.refusals_append, hhead.refusals, htail.refusals,
        List.append_nil]
    · have htellings : (pollWatch w probe ledger).state.2.2.tellings = ledger.tellings := by
        funext access
        simp only [Ledger.tellings, hhead.callbacks]
      have htold := htail.recorded (hhead.tracking.trans htracking)
      rw [htellings] at htold
      simp only [pollWatches, Journal.recorded_append, hhead.recorded htracking, htold,
        List.flatMap_cons, List.flatMap_append]

end WatchList

namespace Monitor

/-- A poll of watches with legal ranges records the changes it finds, and none is refused. -/
lemma records_poll {m : Monitor}
    (hranges : ∀ w ∈ m.watches.activeWatches, ∃ v, checkRange w.address w.size = .ok v) :
    WatchList.Records m.ledger m.poll.state.ledger
      (m.watches.activeWatches.flatMap (Watch.found m.ram.look)) m.poll.journal := by
  have hpolled := WatchList.records_pollWatches hranges m.probe m.ledger
  have hpruned : m.watches.pruneJournal.refusals = [] ∧ m.watches.pruneJournal.recorded = [] := by
    unfold WatchList.pruneJournal
    split <;> exact ⟨rfl, rfl⟩
  refine ⟨?_, fun htracking => ?_, hpolled.tracking, hpolled.callbacks⟩
  · simp only [poll, WatchList.poll, Journal.refusals_append, hpruned.1, hpolled.refusals,
      List.append_nil]
  · simp only [poll, WatchList.poll, Journal.recorded_append, hpruned.2, List.nil_append]
    exact hpolled.recorded htracking

/-- A write notice tells no callback of the ledger. -/
lemma recorded_notify (m : Monitor) (address size : UInt32) :
    (m.notify address size).journal.recorded = [] :=
  WatchList.recorded_notifyWatches address size m.watches.watches m.probe

/-! ## Accesses -/

/-- What applying an access tells is what recording it tells. -/
lemma recorded_observe (m : Monitor) (access : Access) :
    (m.observe access).journal.recorded = (m.ledger.track access).journal.recorded ∧
      (m.observe access).state.ledger = (m.ledger.track access).state := by
  unfold observe
  cases access.kind with
  | read => exact ⟨rfl, rfl⟩
  | write =>
    have htold := recorded_notify (m.track access).state access.address access.size
    refine ⟨?_, rfl⟩
    simp only [Journal.recorded_append, htold, List.append_nil]
    rfl

/-- **What applying accesses tells**: one record of each access to each callback of the ledger, while
recording is switched on and the ranges are legal ones. -/
theorem recorded_observeAll {accesses : List Access} {m : Monitor}
    (htracking : m.ledger.tracking = true)
    (hranges : ∀ access ∈ accesses, ∃ w, checkRange access.address access.size = .ok w) :
    (observeAll accesses m).journal.recorded = accesses.flatMap m.ledger.tellings := by
  induction accesses generalizing m with
  | nil => rfl
  | cons access rest ih =>
    obtain ⟨w, hrange⟩ := hranges access List.mem_cons_self
    obtain ⟨hrecorded, hledger⟩ := recorded_observe m access
    obtain ⟨hswitch, hcallbacks⟩ := m.ledger.track_keeps access
    rw [← hledger] at hswitch hcallbacks
    have htail := ih (hswitch.trans htracking) fun other hother =>
      hranges other (List.mem_cons_of_mem access hother)
    have hsame : (m.observe access).state.ledger.tellings = m.ledger.tellings := by
      funext other
      simp only [Ledger.tellings, hcallbacks]
    rw [hsame] at htail
    simp only [observeAll, Journal.recorded_append, hrecorded, htail,
      Ledger.recorded_track htracking hrange, List.flatMap_cons]

/-! ## Commands -/

/-- **Carrying out commands tells no callback of the ledger.** -/
theorem recorded_drain (m : Monitor) : m.drain.journal.recorded = [] :=
  Journal.recorded_of_reports_nil (reports_drain m)

/-- What an operation that settles tells is what it told before it carried out commands. -/
lemma recorded_settle {α : Type} (outcome : Outcome Monitor α) :
    (settle outcome).journal.recorded = outcome.journal.recorded := by
  simp only [settle, Journal.recorded_append, recorded_drain, List.append_nil]

end Monitor

end GuestWatch
