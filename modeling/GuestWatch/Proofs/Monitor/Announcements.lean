import GuestWatch.Proofs.Monitor.Quiet

set_option relaxedAutoImplicit false
set_option autoImplicit false

/-!
# What observers of hardcore mode are told

Two things are announced to the observers of hardcore mode: a switch of the mode, and that
achievements are disabled. Each is noted in the journal when it happens, and the calls of the
observers are events. Whatever else the monitor does announces nothing and calls no observer.

## Main definitions

* `GuestWatch.Journal.switches` — the switches of the mode, in order.
* `GuestWatch.Journal.announced` — all that is announced to observers.
* `GuestWatch.Journal.modes` — the calls of observers.
* `GuestWatch.Journal.reports` — all other calls, which report of watches, conditions and accesses.
* `GuestWatch.Journal.Modeless` — a journal in which nothing is announced and no observer is called.

## Main results

* `GuestWatch.Journal.Plain.modeless` — a plain journal announces nothing.
* `GuestWatch.Monitor.modeless_notify`, `GuestWatch.Monitor.modeless_poll`,
  `GuestWatch.Monitor.modeless_afterCheck` — neither do passes over the watches and checks of
  conditions.
* `GuestWatch.Monitor.reports_drain` — carrying out commands reports nothing.
-/

namespace GuestWatch

/-- The call of an observer, by its name, with what it is told. -/
def Event.mode? : Event → Option (String × Bool)
  | .mode name on => some (name, on)
  | _ => none

/-- The mode that hardcore mode was switched to. -/
def Note.switched? : Note → Option Bool
  | .hardcoreSwitched on => some on
  | _ => none

/-- What a note announces to observers: the mode after a switch, or that the mode counts as off
because achievements are disabled. -/
def Note.announced? : Note → Option Bool
  | .hardcoreSwitched on => some on
  | .achievementsDisabled => some false
  | _ => none

namespace Journal

/-- The calls of observers, with what they are told. -/
def modes (j : Journal) : List (String × Bool) := j.events.filterMap Event.mode?

/-- What is reported of watches, conditions and accesses: all calls but those of observers. -/
def reports (j : Journal) : List Event := j.events.filter fun e => e.mode?.isNone

/-- The modes that hardcore mode was switched to, one after the other. -/
def switches (j : Journal) : List Bool := j.notes.filterMap Note.switched?

/-- What was announced to observers. -/
def announced (j : Journal) : List Bool := j.notes.filterMap Note.announced?

@[simp] lemma modes_append (a b : Journal) : (a ++ b).modes = a.modes ++ b.modes :=
  List.filterMap_append

@[simp] lemma reports_append (a b : Journal) : (a ++ b).reports = a.reports ++ b.reports :=
  List.filter_append _ _

@[simp] lemma switches_append (a b : Journal) : (a ++ b).switches = a.switches ++ b.switches :=
  List.filterMap_append

@[simp] lemma announced_append (a b : Journal) : (a ++ b).announced = a.announced ++ b.announced :=
  List.filterMap_append

/-- A journal in which nothing is announced and no observer is called. -/
structure Modeless (j : Journal) : Prop where
  /-- No observer is called. -/
  modes : j.modes = []
  /-- Nothing is announced. -/
  announced : j.announced = []

/-- The empty journal is modeless. -/
lemma Modeless.empty : ({} : Journal).Modeless := ⟨rfl, rfl⟩

/-- A note that announces nothing is modeless. -/
lemma Modeless.note {n : Note} (h : n.announced? = none) : (Journal.note n).Modeless := by
  refine ⟨rfl, ?_⟩
  simp [Journal.announced, Journal.note, h]

/-- Two modeless journals make a modeless one. -/
lemma Modeless.append {a b : Journal} (ha : a.Modeless) (hb : b.Modeless) :
    (a ++ b).Modeless := by
  refine ⟨?_, ?_⟩
  · rw [modes_append, ha.modes, hb.modes, List.append_nil]
  · rw [announced_append, ha.announced, hb.announced, List.append_nil]

/-- Where nothing is announced, the mode is not switched. -/
lemma Modeless.switches {j : Journal} (h : j.Modeless) : j.switches = [] := by
  refine List.filterMap_eq_nil_iff.mpr fun n hn => ?_
  have hnone := List.filterMap_eq_nil_iff.mp h.announced n hn
  cases n <;> first | rfl | cases hnone

/-- A plain journal is modeless. -/
lemma Plain.modeless {j : Journal} (h : j.Plain) : j.Modeless := by
  refine ⟨?_, ?_⟩
  · refine List.filterMap_eq_nil_iff.mpr fun e he => ?_
    have hplain := h.events e he
    cases e <;> first | rfl | cases hplain
  · refine List.filterMap_eq_nil_iff.mpr fun n hn => ?_
    have hplain := h.notes n hn
    cases n <;> first | rfl | cases hplain

end Journal

/-! ## Watches -/

namespace WatchList

/-- A refresh tells the callback of the watch, and no observer. -/
lemma modeless_refresh (w : Watch) (probe : Probe Ram) : (w.refresh probe).journal.Modeless := by
  have hattempt := (Watch.plain_attempt probe w.address w.size).modeless
  simp only [Watch.refresh]
  split
  · exact hattempt.append (Journal.Modeless.note rfl)
  · split
    · exact hattempt
    · refine hattempt.append ?_
      cases w.callback <;> exact ⟨rfl, rfl⟩

/-- Neither does the notice of a write. -/
lemma modeless_notifyWatches (address size : UInt32) (ws : List Watch) (probe : Probe Ram) :
    (notifyWatches address size ws probe).journal.Modeless := by
  induction ws generalizing probe with
  | nil => exact Journal.Modeless.empty
  | cons w rest ih =>
    unfold notifyWatches
    split
    · exact (modeless_refresh w probe).append (ih _)
    · exact ih probe

lemma modeless_pollWatch (w : Watch) (probe : Probe Ram) (ledger : Ledger) :
    (pollWatch w probe ledger).journal.Modeless := by
  have hrefresh := modeless_refresh w probe
  unfold pollWatch
  split
  · exact Journal.Modeless.note rfl
  · simp only
    split
    · exact hrefresh
    · exact hrefresh
    · exact hrefresh.append (plain_track _ _).modeless

/-- Neither does a poll. -/
lemma modeless_pollWatches (ws : List Watch) (probe : Probe Ram) (ledger : Ledger) :
    (pollWatches ws probe ledger).journal.Modeless := by
  induction ws generalizing probe ledger with
  | nil => exact Journal.Modeless.empty
  | cons w rest ih => exact (modeless_pollWatch w probe ledger).append (ih _ _)

end WatchList

namespace Monitor

/-! ## Passes and checks -/

lemma modeless_notify (m : Monitor) (address size : UInt32) :
    (m.notify address size).journal.Modeless :=
  WatchList.modeless_notifyWatches address size m.watches.watches m.probe

lemma modeless_poll (m : Monitor) : m.poll.journal.Modeless := by
  refine Journal.Modeless.append ?_ (WatchList.modeless_pollWatches _ m.probe m.ledger)
  unfold WatchList.pruneJournal
  split
  · exact Journal.Modeless.empty
  · exact Journal.Modeless.note rfl

/-- Evaluating conditions tells the callbacks of the conditions, and no observer. -/
lemma modeless_evaluate (observed : Condition → UInt32) (conditions : List Condition)
    (callbacks : List ConditionCallback) :
    (ConditionSet.evaluate observed conditions callbacks).journal.Modeless := by
  have htell : ∀ (outcome : Condition × Bool) (callbacks : List ConditionCallback),
      (Callback.tellAll ConditionSet.outcomeEvent outcome callbacks).journal.Modeless := by
    intro outcome callbacks
    induction callbacks with
    | nil => exact Journal.Modeless.empty
    | cons c rest ih => exact Journal.Modeless.append ⟨rfl, rfl⟩ ih
  induction conditions generalizing callbacks with
  | nil => exact Journal.Modeless.empty
  | cons c rest ih => exact (htell _ callbacks).append (ih _)

lemma modeless_afterCheck (m : Monitor) (selects : Condition → Bool)
    (observed : Condition → UInt32) :
    (m.afterCheck (m.conditions.check selects observed)).journal.Modeless :=
  modeless_evaluate observed _ _

/-! ## Reports of commands -/

lemma reports_tellAll (on : Bool) (observers : List (Callback Bool)) :
    (Callback.tellAll Event.mode on observers).journal.reports = [] := by
  induction observers with
  | nil => rfl
  | cons c rest ih => exact ih

lemma reports_unloadGame (m : Monitor) : m.unloadGame.journal.reports = [] := by
  unfold unloadGame
  split <;> rfl

/-- When a command is carried out, only observers are called. -/
lemma reports_carryOut (m : Monitor) (command : Command) :
    (m.carryOut command).journal.reports = [] := by
  cases command with
  | setHardcore on =>
    simp only [carryOut, switchHardcore, Hardcore.setEnabled]
    split
    · rfl
    · exact reports_tellAll on m.hardcore.observers
  | unloadGame => exact reports_unloadGame m
  | disableAchievements =>
    have htold := reports_tellAll false m.hardcore.observers
    simp only [carryOut, endSession, Journal.reports_append, reports_unloadGame, List.append_nil]
    exact htold
  | _ => rfl

/-- When the commands that wait are carried out, only observers are called. -/
lemma reports_drain (m : Monitor) : m.drain.journal.reports = [] := by
  fun_induction drain m with
  | case1 m h => rfl
  | case2 m command rest h done drained ih =>
    have hdone : done.journal.reports = [] := reports_carryOut { m with followUps := rest } command
    rw [Journal.reports_append, Journal.reports_append, hdone, ih]
    rfl

end Monitor

end GuestWatch
