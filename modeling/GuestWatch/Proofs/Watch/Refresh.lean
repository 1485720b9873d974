import GuestWatch.Proofs.Journal
import GuestWatch.Proofs.Memory.Reads
import GuestWatch.Watch.List
import Mathlib.Data.List.Basic

set_option relaxedAutoImplicit false
set_option autoImplicit false

/-!
# What a refresh does to a watch

Refreshing a watch of the reference memory depends on the watch and on what its own read answers. A
write notice and a poll are passes over the list: each refreshes some of the watches, one after the
other, and because a read keeps the memory alike, all of them see the same.

## Main definitions

* `GuestWatch.Look` — what reads of ranges answer.
* `GuestWatch.Watch.reread`, `GuestWatch.Watch.report`, `GuestWatch.Watch.ending`,
  `GuestWatch.Watch.asks` — a watch after a refresh, the change it reports, the end it comes to, and
  the commands its callback asks for.
* `GuestWatch.WatchList.Pass` — a pass that refreshes the watches it hits.

## Main results

* `GuestWatch.Watch.refresh_rereads` — a refresh does what is said by these functions.
* `GuestWatch.WatchList.notifyWatches_pass`, `GuestWatch.WatchList.pollWatches_pass` — write notices
  and polls are passes.
-/

namespace GuestWatch

/-- What reads of ranges answer, by address and width. -/
abbrev Look := UInt32 → UInt32 → Except Fault UInt32

namespace Watch

/-! ## One watch -/

/-- The watch after it was read again: it ends when the read fails, and remembers a new value. -/
def reread (look : Look) (w : Watch) : Watch :=
  match look w.address w.size with
  | .error _ => { w with active := false }
  | .ok value =>
    if value = w.lastValue then w
    else
      { w with
        lastValue := value
        callback := w.callback.map fun c => (c.call (w.changeTo value)).2 }

/-- The change a watch reports when it is read again, with the name of its callback. -/
def report (look : Look) (w : Watch) : List (String × Change) :=
  match look w.address w.size with
  | .error _ => []
  | .ok value =>
    if value = w.lastValue then []
    else (w.callback.map fun c => (c.name, w.changeTo value)).toList

/-- The end a watch comes to when it is read again, with the fault. -/
def ending (look : Look) (w : Watch) : List (UInt32 × Fault) :=
  match look w.address w.size with
  | .error fault => [(w.address, fault)]
  | .ok _ => []

/-- The commands the callback of a watch asks for when the watch is read again. -/
def asks (look : Look) (w : Watch) : List Command :=
  match look w.address w.size with
  | .error _ => []
  | .ok value =>
    if value = w.lastValue then []
    else
      match w.callback with
      | none => []
      | some c => (c.call (w.changeTo value)).1

/-- A watch becomes another by being read again, and a journal tells what that leads to. -/
structure Rereads (look : Look) (w w' : Watch) (j : Journal) : Prop where
  /-- The watch afterwards. -/
  watch : w' = w.reread look
  /-- The change that is reported. -/
  changes : j.changes = w.report look
  /-- The end it comes to. -/
  endings : j.endings = w.ending look
  /-- The commands asked for. -/
  commands : j.commands = w.asks look
  /-- No command is carried out. -/
  applied : j.applied = []

/-- The notes of a checked read are plain. -/
lemma plain_readNotes (address size : UInt32) :
    ({ notes := Probe.readNotes address size } : Journal).Plain := by
  unfold Probe.readNotes
  split
  · split
    · exact Journal.Plain.empty
    · exact Journal.Plain.note rfl
  · exact Journal.Plain.empty

/-- An attempt through a probe is plain. -/
lemma plain_attempt (probe : Probe Ram) (address size : UInt32) :
    (probe.attempt address size).journal.Plain := plain_readNotes address size

/-- Giving up a watch does what a read does that fails. -/
lemma deactivate_rereads {look : Look} {w : Watch} {fault : Fault} (probe : Probe Ram)
    (h : look w.address w.size = .error fault) :
    Rereads look w (w.deactivate probe fault).state.1 (w.deactivate probe fault).journal := by
  constructor
  · simp only [reread, h, deactivate]
  · simp only [report, h, deactivate, Journal.changes_note]
  · simp only [ending, h]
    rfl
  · simp only [asks, h]
    rfl
  · rfl

/-- Something quiet may come before a reread. -/
lemma Rereads.prepend {look : Look} {w w' : Watch} {j j' : Journal} (hj : j.Quiet)
    (h : Rereads look w w' j') : Rereads look w w' (j ++ j') := by
  constructor
  · exact h.watch
  · rw [Journal.changes_append, hj.changes, h.changes, List.nil_append]
  · rw [Journal.endings_append, hj.endings, h.endings, List.nil_append]
  · rw [Journal.commands_append, hj.commands, h.commands, List.nil_append]
  · rw [Journal.applied_append, hj.applied, h.applied, List.nil_append]

/-- Something quiet may come after a reread. -/
lemma Rereads.append {look : Look} {w w' : Watch} {j j' : Journal}
    (h : Rereads look w w' j) (hj : j'.Quiet) : Rereads look w w' (j ++ j') := by
  constructor
  · exact h.watch
  · rw [Journal.changes_append, hj.changes, h.changes, List.append_nil]
  · rw [Journal.endings_append, hj.endings, h.endings, List.append_nil]
  · rw [Journal.commands_append, hj.commands, h.commands, List.append_nil]
  · rw [Journal.applied_append, hj.applied, h.applied, List.append_nil]

/-- A refresh rereads the watch.

**Proof sketch.** By cases on what the read answers. When it fails, the watch is given up. When it
yields the value seen last, nothing happens. Otherwise the callback, if there is one, is told the
change, and the journal holds that one call. -/
theorem refresh_rereads (w : Watch) (probe : Probe Ram) :
    Rereads probe.memory.look w (w.refresh probe).state.1 (w.refresh probe).journal := by
  have hquiet := (plain_attempt probe w.address w.size).quiet
  simp only [refresh, Probe.attempt_value]
  cases hlook : probe.memory.look w.address w.size with
  | error fault => exact (deactivate_rereads _ hlook).prepend hquiet
  | ok value =>
    by_cases hsame : value = w.lastValue
    · simp only [hsame, if_true]
      rw [hsame] at hlook
      constructor
      · simp only [reread, hlook, if_true]
      · simp only [report, hlook, if_true, hquiet.changes]
      · simp only [ending, hlook, hquiet.endings]
      · simp only [asks, hlook, if_true, hquiet.commands]
      · exact hquiet.applied
    · simp only [hsame, if_false]
      refine Rereads.prepend hquiet ?_
      constructor
      · simp only [reread, hlook, hsame, if_false]
        cases w.callback <;> rfl
      · simp only [report, hlook, hsame, if_false]
        cases w.callback <;> rfl
      · simp only [ending, hlook]
        cases w.callback <;> rfl
      · simp only [asks, hlook, hsame, if_false]
        cases w.callback <;> rfl
      · cases w.callback <;> rfl

/-- A refresh only counts. -/
lemma refresh_recounted (w : Watch) (probe : Probe Ram) :
    (w.refresh probe).state.2.memory.Recounted probe.memory := by
  have hcount := probe.attempt_recounted w.address w.size
  simp only [refresh]
  cases (probe.attempt w.address w.size).value with
  | error fault => exact hcount
  | ok value =>
    by_cases hsame : value = w.lastValue <;> simp only [hsame, if_true, if_false] <;> exact hcount

/-! ## Reading a watch twice -/

@[simp] lemma reread_address (look : Look) (w : Watch) : (w.reread look).address = w.address := by
  unfold reread
  split
  · rfl
  · split <;> rfl

@[simp] lemma reread_size (look : Look) (w : Watch) : (w.reread look).size = w.size := by
  unfold reread
  split
  · rfl
  · split <;> rfl

/-- A read that yields the value seen last changes nothing. -/
lemma reread_of_same {look : Look} {w : Watch} (h : look w.address w.size = .ok w.lastValue) :
    w.reread look = w ∧ w.report look = [] ∧ w.ending look = [] ∧ w.asks look = [] := by
  refine ⟨?_, ?_, ?_, ?_⟩
  · simp only [reread, h, if_true]
  · simp only [report, h, if_true]
  · simp only [ending, h]
  · simp only [asks, h, if_true]

/-- A watch that stays active when it is read again has seen what the read answers. -/
lemma look_reread {look : Look} {w : Watch} (h : (w.reread look).active = true) :
    look (w.reread look).address (w.reread look).size = .ok (w.reread look).lastValue := by
  rw [reread_address, reread_size]
  unfold reread at h ⊢
  cases hlook : look w.address w.size with
  | error fault =>
    rw [hlook] at h
    cases h
  | ok value =>
    by_cases hsame : value = w.lastValue <;> simp only [hsame, if_true, if_false]

/-- A watch that is read again in a first pass, in a later one or in both, is read again once, as
long as the later pass hits active watches only. -/
lemma reread_twice {look : Look} {first later : Watch → Bool}
    (hlater : ∀ w, later w = true → w.active = true) (w : Watch) :
    (if later (if first w then w.reread look else w)
      then (if first w then w.reread look else w).reread look
      else if first w then w.reread look else w) =
      if first w || later w then w.reread look else w := by
  by_cases hfirst : first w = true
  · simp only [hfirst, if_true, Bool.true_or]
    split
    · rename_i hagain
      exact (reread_of_same (look_reread (hlater _ hagain))).1
    · rfl
  · simp only [hfirst, Bool.false_or, Bool.false_eq_true, if_false]

end Watch

namespace WatchList

open Watch

/-! ## Passes over the list -/

/-- A list of watches becomes another by rereading those it hits, in their order, and a journal
tells what that leads to. -/
structure Pass (look : Look) (hit : Watch → Bool) (ws ws' : List Watch) (j : Journal) : Prop where
  /-- The watches afterwards. -/
  watches : ws' = ws.map fun w => if hit w then w.reread look else w
  /-- The changes that are reported. -/
  changes : j.changes = ws.flatMap fun w => if hit w then w.report look else []
  /-- The watches that end. -/
  endings : j.endings = ws.flatMap fun w => if hit w then w.ending look else []
  /-- The commands asked for. -/
  commands : j.commands = ws.flatMap fun w => if hit w then w.asks look else []
  /-- No command is carried out. -/
  applied : j.applied = []

variable {look : Look} {hit : Watch → Bool}

/-- A pass over no watches. -/
lemma Pass.nil : Pass look hit [] [] {} := ⟨rfl, rfl, rfl, rfl, rfl⟩

/-- A pass may leave out the first watch. -/
lemma Pass.miss {w : Watch} {ws ws' : List Watch} {j : Journal} (hw : hit w = false)
    (h : Pass look hit ws ws' j) : Pass look hit (w :: ws) (w :: ws') j := by
  constructor
  · simp [hw, h.watches]
  · simp [hw, h.changes]
  · simp [hw, h.endings]
  · simp [hw, h.commands]
  · exact h.applied

/-- A pass may reread the first watch and go on. -/
lemma Pass.cons {w w' : Watch} {ws ws' : List Watch} {j j' : Journal} (hw : hit w = true)
    (hhead : Rereads look w w' j) (htail : Pass look hit ws ws' j') :
    Pass look hit (w :: ws) (w' :: ws') (j ++ j') := by
  constructor
  · simp [hw, hhead.watch, htail.watches]
  · simp [hw, hhead.changes, htail.changes]
  · simp [hw, hhead.endings, htail.endings]
  · simp [hw, hhead.commands, htail.commands]
  · simp [hhead.applied, htail.applied]

/-- Something quiet may come before a pass. -/
lemma Pass.prepend {ws ws' : List Watch} {j j' : Journal} (h : Pass look hit ws ws' j')
    (hj : j.Quiet) : Pass look hit ws ws' (j ++ j') := by
  constructor
  · exact h.watches
  · rw [Journal.changes_append, hj.changes, h.changes, List.nil_append]
  · rw [Journal.endings_append, hj.endings, h.endings, List.nil_append]
  · rw [Journal.commands_append, hj.commands, h.commands, List.nil_append]
  · rw [Journal.applied_append, hj.applied, h.applied, List.nil_append]

/-- Of what a pass hits, only the watches in the list matter. -/
lemma Pass.congr {hit' : Watch → Bool} {ws ws' : List Watch} {j : Journal}
    (h : Pass look hit ws ws' j) (hhit : ∀ w ∈ ws, hit w = hit' w) : Pass look hit' ws ws' j := by
  have htold : ∀ {α : Type} (told : Watch → List α),
      (ws.flatMap fun w => if hit w then told w else []) =
        ws.flatMap fun w => if hit' w then told w else [] :=
    fun told => List.flatMap_congr fun w hw => by rw [hhit w hw]
  refine ⟨h.watches.trans (List.map_congr_left fun w hw => ?_), h.changes.trans (htold _),
    h.endings.trans (htold _), h.commands.trans (htold _), h.applied⟩
  rw [hhit w hw]

/-- A pass that misses only watches that have seen what memory holds is as good as one over all. -/
lemma Pass.widen {ws ws' : List Watch} {j : Journal} (h : Pass look hit ws ws' j)
    (hmissed : ∀ w ∈ ws, hit w = false → look w.address w.size = .ok w.lastValue) :
    Pass look (fun _ => true) ws ws' j := by
  have hsame : ∀ w ∈ ws, hit w = false → w.reread look = w ∧ w.report look = [] ∧
      w.ending look = [] ∧ w.asks look = [] :=
    fun w hw hmiss => reread_of_same (hmissed w hw hmiss)
  -- what comes of a watch is the same whether it is hit or has nothing new to show
  have hwide : ∀ {α : Type} (told : Watch → List α),
      (∀ w ∈ ws, hit w = false → told w = []) →
      (ws.flatMap fun w => if hit w then told w else []) =
        ws.flatMap fun w => if true then told w else [] := by
    intro α told hnone
    refine List.flatMap_congr fun w hw => ?_
    cases hhit : hit w with
    | true => rfl
    | false => exact (hnone w hw hhit).symm
  refine ⟨h.watches.trans (List.map_congr_left fun w hw => ?_), h.changes.trans (hwide _ ?_),
    h.endings.trans (hwide _ ?_), h.commands.trans (hwide _ ?_), h.applied⟩
  · cases hhit : hit w with
    | true => rfl
    | false => exact (hsame w hw hhit).1.symm
  · exact fun w hw hmiss => (hsame w hw hmiss).2.1
  · exact fun w hw hmiss => (hsame w hw hmiss).2.2.1
  · exact fun w hw hmiss => (hsame w hw hmiss).2.2.2

/-- Only active watches are told of a write. -/
lemma active_of_isNotified {address size : UInt32} {w : Watch}
    (h : isNotified address size w = true) : w.active = true := by
  rw [isNotified, Bool.and_eq_true] at h
  exact h.1

/-- A write notice only counts. -/
lemma notifyWatches_recounted (address size : UInt32) (ws : List Watch) (probe : Probe Ram) :
    (notifyWatches address size ws probe).state.2.memory.Recounted probe.memory := by
  induction ws generalizing probe with
  | nil => exact Ram.Recounted.refl _
  | cons w rest ih =>
    unfold notifyWatches
    split
    · exact (ih _).trans (refresh_recounted w probe)
    · exact ih probe

/-- A write notice is a pass over the active watches that it overlaps.

**Proof sketch.** By induction on the list. The refresh of the first watch leaves the memory alike,
so the watches after it see what it saw. -/
theorem notifyWatches_pass (address size : UInt32) (ws : List Watch) (probe : Probe Ram) :
    Pass probe.memory.look (isNotified address size) ws
      (notifyWatches address size ws probe).state.1
      (notifyWatches address size ws probe).journal := by
  induction ws generalizing probe with
  | nil => exact Pass.nil
  | cons w rest ih =>
    by_cases hw : isNotified address size w = true
    · simp only [notifyWatches, hw, if_true]
      refine Pass.cons hw (refresh_rereads w probe) ?_
      rw [← (refresh_recounted w probe).alike.look_eq]
      exact ih _
    · simp only [notifyWatches, hw, Bool.false_eq_true, if_false]
      exact Pass.miss (by simpa using hw) (ih probe)

/-- A poll of one watch only counts. -/
lemma pollWatch_recounted (w : Watch) (probe : Probe Ram) (ledger : Ledger) :
    (pollWatch w probe ledger).state.2.1.memory.Recounted probe.memory := by
  have hcount := refresh_recounted w probe
  unfold pollWatch
  split
  · exact Ram.Recounted.refl _
  · simp only
    split <;> exact hcount

/-- Recording an access in the ledger is plain. -/
lemma plain_track (ledger : Ledger) (access : Access) : (ledger.track access).journal.Plain := by
  unfold Ledger.track
  split
  · split
    · exact Journal.Plain.note rfl
    · refine ⟨rfl, ?_, ?_⟩
      · exact List.forall_mem_map.mpr fun _ _ => rfl
      · exact List.forall_mem_singleton.mpr rfl
  · exact Journal.Plain.empty

/-- A poll rereads the watch, also when it refuses its range at once. -/
lemma pollWatch_rereads (w : Watch) (probe : Probe Ram) (ledger : Ledger) :
    Rereads probe.memory.look w (pollWatch w probe ledger).state.1
      (pollWatch w probe ledger).journal := by
  have hrefresh := refresh_rereads w probe
  unfold pollWatch
  split
  · rename_i fault hrange
    exact deactivate_rereads probe (Ram.look_of_refused hrange)
  · simp only
    split
    · exact hrefresh
    · exact hrefresh
    · exact hrefresh.append (plain_track _ _).quiet

/-- A poll only counts. -/
lemma pollWatches_recounted (ws : List Watch) (probe : Probe Ram) (ledger : Ledger) :
    (pollWatches ws probe ledger).state.probe.memory.Recounted probe.memory := by
  induction ws generalizing probe ledger with
  | nil => exact Ram.Recounted.refl _
  | cons w rest ih => exact (ih _ _).trans (pollWatch_recounted w probe ledger)

/-- A poll is a pass over all watches that are polled. -/
theorem pollWatches_pass (ws : List Watch) (probe : Probe Ram) (ledger : Ledger) :
    Pass probe.memory.look (fun _ => true) ws (pollWatches ws probe ledger).state.watches
      (pollWatches ws probe ledger).journal := by
  induction ws generalizing probe ledger with
  | nil => exact Pass.nil
  | cons w rest ih =>
    refine Pass.cons rfl (pollWatch_rereads w probe ledger) ?_
    rw [← (pollWatch_recounted w probe ledger).alike.look_eq]
    exact ih _ _

/-- Dropping the watches that ended is quiet. -/
lemma quiet_pruneJournal (ws : WatchList) : ws.pruneJournal.Quiet := by
  unfold pruneJournal
  split
  · exact Journal.Quiet.empty
  · exact Journal.Quiet.note rfl rfl

end WatchList

end GuestWatch
