import GuestWatch.Proofs.Monitor.Watches
import GuestWatch.Proofs.Watch.Due

set_option relaxedAutoImplicit false
set_option autoImplicit false

/-!
# What a frame comes to

A frame applies the accesses that wait, which reads some watches again, and then polls all of them.
When the callbacks ask for no commands, what the frame comes to does not depend on the accesses that
waited: whatever the fast path reports the poll does not report again, and whatever it misses the
poll reports.

## Main definitions

* `GuestWatch.Callback.Mute` — a callback that never asks for a command.
* `GuestWatch.Monitor.Hushed` — no command waits, and none will be asked for by a watch.
* `GuestWatch.Monitor.Balances` — the balance of what watches report, between two states.
* `GuestWatch.Monitor.Settles` — a frame that reports all that was due when it began, and nothing
  else.

## Main results

* `GuestWatch.Monitor.balances_applyPending` — applying the accesses that wait keeps the balance.
* `GuestWatch.Monitor.settles_frame` — a frame settles what was due.
* `GuestWatch.Monitor.frame_agrees` — frames with different accesses waiting come to the same.
-/

namespace GuestWatch

/-- A callback that never asks for a command. -/
def Callback.Mute {α : Type} (c : Callback α) : Prop := ∀ history, c.answer history = []

namespace Monitor

open Watch

/-! ## Balance -/

/-- No command waits, and no change that may be due makes the callback of a watch ask for one. -/
structure Hushed (m : Monitor) : Prop where
  /-- No command waits. -/
  followUps : m.followUps = []
  /-- No active watch asks for a command when it is read again. -/
  asks : ∀ w ∈ m.watches.watches, w.active = true → w.asks m.ram.look = []

/-- Watches whose callbacks are mute ask for nothing. -/
lemma Hushed.of_mute {m : Monitor} (hfollow : m.followUps = [])
    (hmute : ∀ w ∈ m.watches.watches, ∀ c ∈ w.callback, c.Mute) : m.Hushed := by
  refine ⟨hfollow, fun w hw _ => ?_⟩
  unfold Watch.asks
  split
  · rfl
  · split
    · rfl
    · split
      · rfl
      · rename_i c hcallback
        exact hmute w hw c hcallback _

/-- From one state to another, what watches reported and what is still due make up what was due at
first, reads see the same, and nobody asked for a command. -/
structure Balances (m : Monitor) (j : Journal) (m' : Monitor) : Prop where
  /-- What was reported and what is still due. -/
  balanced : Balanced m.ram.look m.watches.watches j.changes j.endings m'.watches.watches
  /-- Bytes and failures stay. -/
  alike : m'.ram.Alike m.ram
  /-- Nobody asked for a command, and nobody will. -/
  hushed : m'.Hushed

lemma Balances.trans {m m' m'' : Monitor} {j j' : Journal} (h : Balances m j m')
    (h' : Balances m' j' m'') : Balances m (j ++ j') m'' := by
  refine ⟨?_, h'.alike.trans h.alike, h'.hushed⟩
  have hbalanced := h'.balanced
  rw [h.alike.look_eq] at hbalanced
  rw [Journal.changes_append, Journal.endings_append]
  exact h.balanced.trans hbalanced

/-- What leaves the watches, the queue of commands and the contents of memory alone keeps the
balance. -/
lemma Balances.of_calm {m m' : Monitor} {j : Journal} (h : m.Hushed) (hcalm : j.Calm)
    (hwatches : m'.watches = m.watches) (hfollow : m'.followUps = m.followUps)
    (halike : m'.ram.Alike m.ram) : Balances m j m' := by
  refine ⟨?_, halike, ?_, ?_⟩
  · rw [hcalm.changes, hcalm.endings, hwatches]
    exact Balanced.refl _ _
  · rw [hfollow, h.followUps]
  · rw [hwatches, halike.look_eq]
    exact h.asks

/-- A write notice keeps the balance.

**Proof sketch.** It is a pass over active watches. Those it hits have nothing more to report, so
they have nothing more to ask for. -/
lemma balances_notify {m : Monitor} (h : m.Hushed) (address size : UInt32) :
    Balances m (m.notify address size).journal (m.notify address size).state := by
  have hpass := notify_pass m address size
  have halike := alike_notify m address size
  have hactive : ∀ w ∈ m.watches.watches,
      WatchList.isNotified address size w = true → w.active = true :=
    fun _ _ => WatchList.active_of_isNotified
  refine ⟨hpass.balanced hactive, halike, ?_, ?_⟩
  · have hcommands : (m.notify address size).journal.commands = [] := by
      refine hpass.commands.trans (List.flatMap_eq_nil_iff.mpr fun w hw => ?_)
      by_cases hhit : WatchList.isNotified address size w = true
      · rw [if_pos hhit]
        exact h.asks w hw (hactive w hw hhit)
      · rw [if_neg hhit]
    simp only [notify, enqueue] at hcommands ⊢
    rw [hcommands, List.append_nil]
    exact h.followUps
  · intro w' hw' hactive'
    rw [halike.look_eq]
    have hmem : w' ∈ m.watches.watches.map fun w =>
        if WatchList.isNotified address size w then w.reread m.ram.look else w :=
      hpass.watches ▸ hw'
    obtain ⟨w, hw, rfl⟩ := List.mem_map.mp hmem
    split at hactive'
    · rename_i hhit
      rw [if_pos hhit]
      exact (reread_of_same (look_reread hactive')).2.2.2
    · rename_i hhit
      rw [if_neg hhit]
      exact h.asks w hw hactive'

/-- Applying an access keeps the balance. -/
lemma balances_observe {m : Monitor} (h : m.Hushed) (access : Access) :
    Balances m (m.observe access).journal (m.observe access).state := by
  have htracked : Balances m (m.track access).journal (m.track access).state :=
    Balances.of_calm h (WatchList.plain_track m.ledger access).quiet.toCalm rfl rfl (Ram.Alike.refl _)
  unfold observe
  cases access.kind with
  | read => exact htracked
  | write => exact htracked.trans (balances_notify htracked.hushed access.address access.size)

/-- Applying accesses one after the other keeps the balance. -/
lemma balances_observeAll (accesses : List Access) {m : Monitor} (h : m.Hushed) :
    Balances m (observeAll accesses m).journal (observeAll accesses m).state := by
  induction accesses generalizing m with
  | nil => exact Balances.of_calm h Journal.Quiet.empty.toCalm rfl rfl (Ram.Alike.refl _)
  | cons access rest ih =>
    have hhead := balances_observe h access
    exact hhead.trans (ih hhead.hushed)

/-- Carrying out the commands that came up, of which there are none, keeps the balance. -/
lemma Balances.settle {α : Type} {m : Monitor} {outcome : Outcome Monitor α}
    (h : Balances m outcome.journal outcome.state) :
    Balances m (Monitor.settle outcome).journal (Monitor.settle outcome).state := by
  rw [settle_of_nil h.hushed.followUps]
  exact h

/-- Applying the accesses that wait keeps the balance. -/
theorem balances_applyPending {m : Monitor} (h : m.Hushed) :
    Balances m m.applyPending.journal m.applyPending.state := by
  have htaken : Balances m {} { m with pending := [] } :=
    Balances.of_calm h Journal.Quiet.empty.toCalm rfl rfl (Ram.Alike.refl _)
  unfold applyPending
  split
  · refine Balances.settle ?_
    have hboth := htaken.trans (balances_observeAll m.pending htaken.hushed)
    rwa [Journal.empty_append] at hboth
  · exact htaken.settle

/-! ## Frames -/

/-- An outcome reports all that was due before, and nothing else. -/
structure Settles (m : Monitor) (outcome : Outcome Monitor FrameReport) : Prop where
  /-- Each active watch whose value differs reports that, and none reports anything else. -/
  changes : outcome.journal.changes.Perm (m.watches.watches.flatMap (due m.ram.look))
  /-- Each active watch that cannot be read ends, and no other. -/
  endings : outcome.journal.endings.Perm (m.watches.watches.flatMap (doomed m.ram.look))
  /-- The watches that are still active are the settled ones. -/
  watches : outcome.state.watches.activeWatches =
    (m.watches.watches.map (settled m.ram.look)).filter Watch.active
  /-- They remember what memory holds. -/
  fresh : ∀ w ∈ outcome.state.watches.activeWatches,
    outcome.state.ram.look w.address w.size = .ok w.lastValue

/-- A poll of a hushed monitor settles what is due, and nobody asks for a command. -/
lemma settles_poll {m : Monitor} (h : m.Hushed) :
    Settles m m.poll ∧ Monitor.settle m.poll = m.poll := by
  obtain ⟨hchanges, hendings, hwatches, hfresh⟩ := (poll_pass m).settles
  have hcommands : m.poll.journal.commands = [] := by
    refine (poll_pass m).commands.trans (List.flatMap_eq_nil_iff.mpr fun w hw => ?_)
    obtain ⟨hmem, hactive⟩ := List.mem_filter.mp hw
    exact h.asks w hmem hactive
  have hqueue : m.poll.state.followUps = [] := by
    have heq : m.poll.state.followUps = m.followUps ++ m.poll.journal.commands := rfl
    rw [heq, h.followUps, hcommands, List.append_nil]
  refine ⟨⟨List.Perm.of_eq hchanges, List.Perm.of_eq hendings, hwatches, ?_⟩,
    settle_of_nil hqueue⟩
  rw [(alike_poll m).look_eq]
  exact hfresh

/-- What is settled after a balanced stretch was due before it. -/
lemma Settles.of_balances {m m' : Monitor} {j : Journal} {outcome : Outcome Monitor FrameReport}
    (h : Balances m j m') (h' : Settles m' outcome) :
    Settles m ⟨outcome.value, outcome.state, j ++ outcome.journal⟩ := by
  have hlook := h.alike.look_eq
  obtain ⟨hchanges, hendings, hwatches, hfresh⟩ := h'
  rw [hlook] at hchanges hendings hwatches
  refine ⟨?_, ?_, ?_, hfresh⟩
  · rw [Journal.changes_append]
    exact (hchanges.append_left j.changes).trans h.balanced.changes
  · rw [Journal.endings_append]
    exact (hendings.append_left j.endings).trans h.balanced.endings
  · rw [hwatches, h.balanced.settled]

/-- Installing intercepts keeps the balance. -/
lemma balances_installIntercepts {m : Monitor} (h : m.Hushed) :
    Balances m m.installIntercepts.journal m.installIntercepts.state := by
  have hcalm := (plain_installIntercepts m).quiet.toCalm
  have halike := alike_installIntercepts m
  obtain ⟨reads, writes, installed, hstate⟩ := m.installIntercepts_frame
  rw [hstate] at halike ⊢
  exact Balances.of_calm h hcalm rfl rfl halike

/-- **A frame settles what was due when it began**, whatever accesses wait.

**Proof sketch.** Applying the accesses keeps the balance: what it reports and what is due after it
make up what was due. The poll then reports what is still due. -/
theorem settles_frame {m : Monitor} (h : m.Hushed) (hactive : m.active = true) :
    Settles m m.frame := by
  have hinstalled := balances_installIntercepts h
  have happlied := balances_applyPending hinstalled.hushed
  obtain ⟨hsettles, hdone⟩ := settles_poll happlied.hushed
  have hframe : m.frame = ⟨m.installIntercepts.state.applyPending.state.poll.value,
      m.installIntercepts.state.applyPending.state.poll.state,
      m.installIntercepts.journal ++ (m.installIntercepts.state.applyPending.journal ++
        m.installIntercepts.state.applyPending.state.poll.journal)⟩ := by
    simp only [frame, hactive, if_true, hdone]
  rw [hframe]
  exact Settles.of_balances hinstalled (Settles.of_balances happlied hsettles)

/-- The frame of a monitor in which other accesses wait. -/
def frameOver (m : Monitor) (pending : List Access) : Outcome Monitor FrameReport :=
  { m with pending := pending }.frame

/-- **The fast path and the poll agree.** In a started monitor whose watches have callbacks that ask
for no commands, a frame comes to the same whichever accesses wait when it begins. It tells one
change to the callback of each active watch whose value can be read and differs, and tells nothing
else; each active watch that cannot be read ends, once; and the watches that are still active
remember what memory holds.

**Proof sketch.** Both frames settle what was due in the state that they share. What is due is one
change at most for each watch, and no two watches share an address. -/
theorem frame_agrees {m : Monitor} (hreach : Reachable m) (hactive : m.active = true)
    (hmute : ∀ w ∈ m.watches.watches, ∀ c ∈ w.callback, c.Mute) (first second : List Access) :
    Settles m (m.frameOver first) ∧ Settles m (m.frameOver second) ∧
      (m.frameOver first).journal.changes.Perm (m.frameOver second).journal.changes ∧
      (m.frameOver first).journal.endings.Perm (m.frameOver second).journal.endings ∧
      (m.frameOver first).state.watches.activeWatches =
        (m.frameOver second).state.watches.activeWatches ∧
      ((m.frameOver first).journal.changes.map fun told => told.2.address).Nodup ∧
      ((m.frameOver first).journal.endings.map Prod.fst).Nodup := by
  have hsettles : ∀ pending, Settles m (m.frameOver pending) := by
    intro pending
    have hhushed : { m with pending := pending }.Hushed :=
      Hushed.of_mute hreach.followUps_eq_nil hmute
    have hframe := settles_frame hhushed hactive
    exact ⟨hframe.changes, hframe.endings, hframe.watches, hframe.fresh⟩
  have hfirst := hsettles first
  have hsecond := hsettles second
  refine ⟨hfirst, hsecond, hfirst.changes.trans hsecond.changes.symm,
    hfirst.endings.trans hsecond.endings.symm, hfirst.watches.trans hsecond.watches.symm, ?_, ?_⟩
  · rw [(hfirst.changes.map _).nodup_iff]
    exact nodup_owed (due_sublist m.ram.look) hreach.distinct
  · rw [(hfirst.endings.map _).nodup_iff]
    exact nodup_owed (doomed_sublist m.ram.look) hreach.distinct

/-- A callback that records what it is told. -/
def recorder : Callback Change := (Callback.script "recorder" [] 0 fun _ => false).silence

/-- A started monitor with a watch whose value has changed and one that cannot be read any more. -/
def stirred : Monitor :=
  (run [.start, .addWatch 0x1000 4 (some recorder), .addWatch 0x2000 1 none,
    .memory (.setWord 0x1000 7), .memory (.failAt 0x2000)] (make {} 0)).state

/-- Writes that wait make no difference to what the frame reports. -/
theorem frame_agrees_stirred :
    Reachable stirred ∧ stirred.active = true ∧
      (stirred.frameOver [⟨0x1000, 4, 7, .write⟩, ⟨0x2000, 1, 0, .write⟩]).journal.changes =
        [("recorder", ⟨0x1000, 4, 0, 7⟩)] ∧
      (stirred.frameOver []).journal.changes = [("recorder", ⟨0x1000, 4, 0, 7⟩)] := by
  have hreach : Reachable stirred := (Reachable.make {} 0).run _
  have hmute : ∀ w ∈ stirred.watches.watches, ∀ c ∈ w.callback, c.Mute := by
    have hwatches : stirred.watches.watches =
        [⟨0x1000, 4, 0, true, some recorder⟩, ⟨0x2000, 1, 0, true, none⟩] := rfl
    intro w hw c hc history
    rw [hwatches] at hw
    rcases List.mem_cons.mp hw with rfl | hrest
    · cases hc
      rfl
    · obtain rfl := List.mem_singleton.mp hrest
      cases hc
  have hdue : stirred.watches.watches.flatMap (due stirred.ram.look) =
      [("recorder", ⟨0x1000, 4, 0, 7⟩)] := rfl
  obtain ⟨hwaiting, hnone, -⟩ :=
    frame_agrees hreach rfl hmute [⟨0x1000, 4, 7, .write⟩, ⟨0x2000, 1, 0, .write⟩] []
  refine ⟨hreach, rfl, ?_, ?_⟩
  · exact List.perm_singleton.mp (hdue ▸ hwaiting.changes)
  · exact List.perm_singleton.mp (hdue ▸ hnone.changes)

end Monitor

end GuestWatch
