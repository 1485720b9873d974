import GuestWatch.Proofs.Monitor.Captures
import GuestWatch.Proofs.Monitor.Noticed

set_option relaxedAutoImplicit false
set_option autoImplicit false

/-!
# What a frame records

Two sources make records of one store of the guest: the access that its intercept queued, and the
change that a poll finds. A frame records every access that waits, and then the changes that its
poll finds. It does not record a change twice: a watch that an applied access overlaps has been read
again before the poll, which finds nothing new in it. So the poll finds the changes of those watches
that no waiting access notifies.

## Main definitions

* `GuestWatch.Monitor.found` — the changes that the poll of the next frame will find.
* `GuestWatch.Monitor.Accounts` — what the next frame tells the callbacks of the ledger and of the
  watches.

## Main results

* `GuestWatch.WatchList.fired_pollWatches` — a poll counts the changes it records.
* `GuestWatch.Monitor.found_applyPending` — applying the accesses that wait leaves to the poll what it
  is to find.
* `GuestWatch.Monitor.frame_accounts` — the frame accounts for each access and each change once.
-/

namespace GuestWatch

/-! ## Polls -/

/-- A watch that shows something new shows one change, and no other watch does. -/
lemma Watch.length_found (look : Look) (w : Watch) :
    (w.found look).length = if w.differs look then 1 else 0 := by
  unfold found differs
  cases look w.address w.size with
  | error fault => rfl
  | ok value => by_cases hsame : value = w.lastValue <;> simp [hsame]

namespace WatchList

/-- **A poll counts the changes it finds**, which are those it records. -/
theorem fired_pollWatches (ws : List Watch) (probe : Probe Ram) (ledger : Ledger) :
    (pollWatches ws probe ledger).value.fired =
      (ws.flatMap (Watch.found probe.memory.look)).length := by
  rw [value_pollWatches, length_flatMap_eq_countP fun w _ => Watch.length_found _ w]

end WatchList

namespace Watch

/-- A watch that was just read again and is still active shows nothing new. -/
lemma found_reread {look : Look} {w : Watch} (h : (w.reread look).active = true) :
    (w.reread look).found look = [] := by
  have hlook := look_reread h
  simp only [found, hlook, if_true]

/-- A watch that is active after it was read again was active before. -/
lemma active_of_reread {look : Look} {w : Watch} (h : (w.reread look).active = true) :
    w.active = true := by
  unfold reread at h
  split at h
  · cases h
  · split at h <;> exact h

/-- A watch reports changes at its address. -/
lemma address_of_report {look : Look} {w : Watch} {told : String × Change}
    (h : told ∈ w.report look) : told.2.address = w.address := by
  unfold report at h
  split at h
  · cases h
  · split at h
    · cases h
    · rw [Option.mem_toList, Option.map_eq_some_iff] at h
      obtain ⟨c, -, rfl⟩ := h
      rfl

/-- What a watch shows is recorded at its address. -/
lemma address_of_found {look : Look} {w : Watch} {access : Access} (h : access ∈ w.found look) :
    access.address = w.address := by
  unfold found at h
  split at h
  · cases h
  · split at h
    · cases h
    · rw [List.mem_singleton.mp h]

end Watch

namespace Access

/-- Whoever notifies a watch that was read again would have notified it before. -/
lemma notifies_of_reread {access : Access} {look : Look} {w : Watch}
    (h : access.notifies (w.reread look) = true) : access.notifies w = true := by
  have hactive := Watch.active_of_reread (active_of_notifies h)
  simp only [notifies, WatchList.isNotified, Watch.reread_address, Watch.reread_size,
    Bool.and_eq_true] at h ⊢
  exact ⟨h.1, hactive, h.2.2⟩

end Access

namespace Monitor

variable {m : Monitor}

/-! ## Applying the accesses that wait -/

/-- Applying accesses changes neither the switch of the ledger nor its callbacks. -/
lemma ledger_observeAll (accesses : List Access) (m : Monitor) :
    (observeAll accesses m).state.ledger.tracking = m.ledger.tracking ∧
      (observeAll accesses m).state.ledger.callbacks = m.ledger.callbacks := by
  induction accesses generalizing m with
  | nil => exact ⟨rfl, rfl⟩
  | cons access rest ih =>
    obtain ⟨hswitch, hcallbacks⟩ := m.ledger.track_keeps access
    obtain ⟨htracking, hnames⟩ := ih (m.observe access).state
    rw [(recorded_observe m access).2] at htracking hnames
    exact ⟨htracking.trans hswitch, hnames.trans hcallbacks⟩

/-- A change that an access leads to is that of a watch it notifies. -/
lemma notified_of_changes_observe {access : Access} {told : String × Change}
    (h : told ∈ (m.observe access).journal.changes) :
    ∃ w ∈ m.watches.watches, access.notifies w = true ∧ told.2.address = w.address := by
  have hquiet := (WatchList.plain_track m.ledger access).quiet
  unfold observe at h
  cases hkind : access.kind with
  | read =>
    simp only [hkind, track, hquiet.changes] at h
    cases h
  | write =>
    have hpass := notify_pass (m.track access).state access.address access.size
    simp only [hkind, Journal.changes_append, track, hquiet.changes, List.nil_append] at h hpass
    rw [hpass.changes, List.mem_flatMap] at h
    obtain ⟨w, hw, htold⟩ := h
    split at htold
    · rename_i hnotified
      refine ⟨w, hw, ?_, Watch.address_of_report htold⟩
      simp only [Access.notifies, hkind, hnotified, beq_self_eq_true, Bool.and_self]
    · cases htold

/-- A change that accesses lead to is that of a watch that one of them notifies. -/
lemma notified_of_changes_observeAll {accesses : List Access} {told : String × Change}
    (h : told ∈ (observeAll accesses m).journal.changes) :
    ∃ w ∈ m.watches.watches, (accesses.any fun access => access.notifies w) = true ∧
      told.2.address = w.address := by
  induction accesses generalizing m with
  | nil => cases h
  | cons access rest ih =>
    rw [observeAll, Journal.changes_append, List.mem_append] at h
    rcases h with hhead | htail
    · obtain ⟨w, hw, hnotifies, haddress⟩ := notified_of_changes_observe hhead
      exact ⟨w, hw, by rw [List.any_cons, hnotifies, Bool.true_or], haddress⟩
    · obtain ⟨v, hv, hnotified, haddress⟩ := ih htail
      -- the watch is one of those before the first access, or one of them read again
      rw [watches_observe, List.mem_map] at hv
      obtain ⟨w, hw, rfl⟩ := hv
      obtain ⟨other, hother, hnotifies⟩ := List.any_eq_true.mp hnotified
      have hbefore : other.notifies w = true := by
        split at hnotifies
        · exact Access.notifies_of_reread hnotifies
        · exact hnotifies
      refine ⟨w, hw, List.any_eq_true.mpr ⟨other, List.mem_cons_of_mem access hother, hbefore⟩, ?_⟩
      rw [haddress]
      split
      · exact Watch.reread_address _ w
      · rfl

/-! ## What the poll finds -/

/-- The changes that the poll of the next frame will find, as the ledger records them: those of the
active watches that no waiting access notifies, in the order of the watches. -/
def found (m : Monitor) : List Access :=
  (m.watches.activeWatches.filter fun w => !m.pending.any fun access => access.notifies w).flatMap
    (Watch.found m.ram.look)

/-- What a watch shows after the accesses that wait were applied is what it showed before, if none of
them notifies it, and nothing otherwise. -/
lemma found_applied (look : Look) (accesses : List Access) (ws : List Watch) :
    ((ws.map fun w => if accesses.any fun access => access.notifies w then w.reread look
        else w).filter Watch.active).flatMap (Watch.found look) =
      ((ws.filter Watch.active).filter fun w =>
        !accesses.any fun access => access.notifies w).flatMap (Watch.found look) := by
  induction ws with
  | nil => rfl
  | cons w rest ih =>
    by_cases hnotified : (accesses.any fun access => access.notifies w) = true
    · obtain ⟨access, -, hnotifies⟩ := List.any_eq_true.mp hnotified
      have hactive := Access.active_of_notifies hnotifies
      simp only [List.map_cons, hnotified, if_true, List.filter_cons, hactive, Bool.not_true,
        Bool.false_eq_true, if_false, ← ih]
      by_cases hstays : (w.reread look).active = true
      · rw [if_pos hstays, List.flatMap_cons, Watch.found_reread hstays, List.nil_append]
      · rw [if_neg hstays]
    · simp only [List.map_cons, hnotified, Bool.false_eq_true, if_false, List.filter_cons]
      by_cases hactive : w.active = true
      · simp only [hactive, if_true, List.filter_cons, hnotified, Bool.not_false, List.flatMap_cons,
          ih]
      · simp only [hactive, Bool.false_eq_true, if_false, ih]

/-! ## Up to the poll -/

section Hushed

variable (hactive : m.active = true) (hhushed : m.Hushed)

include hactive hhushed

/-- Applying the accesses that wait leaves to the poll what it is to find. -/
lemma found_applyPending :
    m.applyPending.state.watches.activeWatches.flatMap (Watch.found m.ram.look) = m.found := by
  rw [applyPending_of_hushed hactive hhushed, WatchList.activeWatches, watches_observeAll]
  exact found_applied m.ram.look m.pending m.watches.watches

/-- Applying the accesses that wait changes neither the switch of the ledger nor its callbacks. -/
lemma ledger_applyPending :
    m.applyPending.state.ledger.tracking = m.ledger.tracking ∧
      m.applyPending.state.ledger.tellings = m.ledger.tellings := by
  rw [applyPending_of_hushed hactive hhushed]
  obtain ⟨htracking, hcallbacks⟩ := ledger_observeAll m.pending { m with pending := [] }
  refine ⟨htracking, ?_⟩
  funext access
  rw [Ledger.tellings, hcallbacks]
  rfl

/-- A change that is told while the accesses that wait are applied is that of a watch that one of
them notifies. -/
lemma notified_of_changes_applyPending {told : String × Change}
    (h : told ∈ m.applyPending.journal.changes) :
    ∃ w ∈ m.watches.watches, (m.pending.any fun access => access.notifies w) = true ∧
      told.2.address = w.address := by
  rw [applyPending_of_hushed hactive hhushed] at h
  exact @notified_of_changes_observeAll { m with pending := [] } m.pending told h

end Hushed

/-- Applying the accesses that wait records each of them, when their ranges are legal. -/
lemma recorded_applyPending (hactive : m.active = true) (htracking : m.ledger.tracking = true)
    (hclipped : ∀ access ∈ m.pending, access.Clipped) :
    m.applyPending.journal.recorded = m.pending.flatMap m.ledger.tellings := by
  have hranges : ∀ access ∈ m.pending, ∃ w, checkRange access.address access.size = .ok w := by
    intro access haccess
    obtain ⟨w, -, -, hrange⟩ := (hclipped access haccess).range
    exact ⟨w, hrange⟩
  rw [applyPending_of_active hactive, recorded_settle]
  exact @recorded_observeAll m.pending { m with pending := [] } htracking hranges

/-- Installing the intercepts leaves to the poll what it is to find. -/
lemma found_installIntercepts (m : Monitor) : m.installIntercepts.state.found = m.found := by
  have hlook := (alike_installIntercepts m).look_eq
  obtain ⟨reads, writes, installed, hstate⟩ := m.installIntercepts_frame
  rw [hstate] at hlook ⊢
  unfold found
  rw [hlook]

/-! ## The frame -/

/-- What the next frame tells the callbacks of the ledger and of the watches. -/
structure Accounts (m : Monitor) : Prop where
  /-- The accesses that wait are clipped to their windows, so the ledger refuses none of them. -/
  clipped : ∀ access ∈ m.pending, access.Clipped
  /-- The poll finds the changes of the active watches that no waiting access notifies. -/
  found : m.beforePoll.watches.activeWatches.flatMap (Watch.found m.beforePoll.ram.look) = m.found
  /-- Each callback is told each access that waits, and then each change that the poll finds. -/
  recorded : m.frame.journal.recorded = (m.pending ++ m.found).flatMap m.ledger.tellings
  /-- The report of the frame counts the changes that the poll finds. -/
  fired : m.frame.value.fired = m.found.length
  /-- The poll records no change that a watch told while the accesses were applied. -/
  apart : ∀ told ∈ m.installIntercepts.state.applyPending.journal.changes,
    ∀ record ∈ m.found, record.address ≠ told.2.address
  /-- No watch tells its callback two changes. -/
  once : (m.frame.journal.changes.map fun told => told.2.address).Nodup
  /-- The notice of a write records nothing. -/
  unrecorded : ∀ address size, (m.writeObserved address size).journal.recorded = [] ∧
    (m.writeObserved address size).state.ledger = m.ledger

/-- The notice of a write records nothing. -/
lemma writeObserved_unrecorded (hhushed : m.Hushed) (address size : UInt32) :
    (m.writeObserved address size).journal.recorded = [] ∧
      (m.writeObserved address size).state.ledger = m.ledger := by
  unfold writeObserved
  split
  · have hnotified := (balances_notify hhushed address size).hushed
    rw [settle_of_nil hnotified.followUps]
    exact ⟨recorded_notify m address size, rfl⟩
  · exact ⟨rfl, rfl⟩

/-- A change that the poll finds is that of a watch that no waiting access notifies. -/
lemma unnotified_of_found {record : Access} (h : record ∈ m.found) :
    ∃ w ∈ m.watches.watches, (m.pending.any fun access => access.notifies w) = false ∧
      record.address = w.address := by
  obtain ⟨w, hw, hrecord⟩ := List.mem_flatMap.mp h
  obtain ⟨hmem, hmissed⟩ := List.mem_filter.mp hw
  rw [Bool.not_eq_true'] at hmissed
  exact ⟨w, List.mem_of_mem_filter hmem, hmissed, Watch.address_of_found hrecord⟩

/-- What a frame records is what applying the accesses records and what the poll records. -/
lemma recorded_frame (hactive : m.active = true) :
    m.frame.journal.recorded = m.installIntercepts.state.applyPending.journal.recorded ++
      m.beforePoll.poll.journal.recorded := by
  have hinstalled : m.installIntercepts.journal.recorded = [] := by
    unfold installIntercepts
    split <;> rfl
  unfold frame
  rw [if_pos hactive]
  simp only [Journal.recorded_append, hinstalled, recorded_settle, List.nil_append]
  rfl

/-- **A frame accounts for each access and each change once.** Take a started monitor that records
accesses and whose watches have callbacks that ask for no commands. In a frame each callback of the
ledger is told one record of each access that waits, in the order of the queue, and then one record
of each change that the poll finds, in the order of the watches; the report counts the latter. The
poll finds the changes of those watches that no waiting access notifies, so it records no change a
second time, and no watch tells its callback more than one change. The notice of a write records
nothing.

**Proof sketch.** The accesses that wait were reported by slots of the monitor, so their ranges are
legal, and so are those of the watches. Applying an access reads again the watches that it notifies;
one of these that is still active shows nothing new to the poll, and one that ended is dropped by
it. -/
theorem frame_accounts (hreach : Reachable m) (hactive : m.active = true)
    (htracking : m.ledger.tracking = true)
    (hmute : ∀ w ∈ m.watches.watches, ∀ c ∈ w.callback, c.Mute) : m.Accounts := by
  have hclipped := hreach.tapped.pending
  have hhushed : m.Hushed := Hushed.of_mute hreach.followUps_eq_nil hmute
  have hfound := found_installIntercepts m
  have hinstalled := balances_installIntercepts hhushed
  have hlook := (alike_installIntercepts m).look_eq
  obtain ⟨reads, writes, installed, hstate⟩ := m.installIntercepts_frame
  have hstarted : m.installIntercepts.state.active = true := by
    rw [hstate]
    exact hactive
  have hpolled : m.beforePoll.watches.activeWatches.flatMap
      (Watch.found m.beforePoll.ram.look) = m.found := by
    have happlied := (balances_applyPending hinstalled.hushed).alike.look_eq
    rw [beforePoll, happlied, found_applyPending hstarted hinstalled.hushed, hfound]
  have hranges : ∀ w ∈ m.beforePoll.watches.activeWatches,
      ∃ v, checkRange w.address w.size = .ok v := by
    intro w hw
    exact legal_iff.mp ((tables_beforePoll hreach.tables).watches w (List.mem_of_mem_filter hw)).2
  refine ⟨hclipped, hpolled, ?_, ?_, ?_, ?_, writeObserved_unrecorded hhushed⟩
  · have htellings := (ledger_applyPending hstarted hinstalled.hushed).2
    have hswitch := (ledger_applyPending hstarted hinstalled.hushed).1
    have happlied : m.installIntercepts.state.applyPending.journal.recorded =
        m.pending.flatMap m.ledger.tellings := by
      rw [recorded_applyPending hstarted (by rw [hstate]; exact htracking)
        (by rw [hstate]; exact hclipped), hstate]
    have hpoll := (records_poll hranges).recorded
      (hswitch.trans (by rw [hstate]; exact htracking))
    rw [hpolled, beforePoll, htellings] at hpoll
    rw [recorded_frame hactive, happlied, List.flatMap_append, beforePoll, hpoll, hstate]
  · have hcounted := WatchList.fired_pollWatches m.beforePoll.watches.activeWatches
      m.beforePoll.probe m.beforePoll.ledger
    rw [(frame_of_active hactive).1, ← hpolled]
    exact hcounted
  · intro told htold record hrecord hsame
    obtain ⟨w, hw, hnotified, haddress⟩ :=
      notified_of_changes_applyPending hstarted hinstalled.hushed htold
    obtain ⟨v, hv, hmissed, hplace⟩ := unnotified_of_found hrecord
    rw [hstate] at hw hnotified
    -- the watches are one and the same, as they share an address
    have hwv : v = w :=
      Watch.sole_of_mem hreach.distinct hw v hv (hplace.symm.trans (hsame.trans haddress))
    rw [hwv, hnotified] at hmissed
    cases hmissed
  · rw [((settles_frame hhushed hactive).changes.map _).nodup_iff]
    exact Watch.nodup_owed (Watch.due_sublist m.ram.look) hreach.distinct

/-- The monitor `vigilant` with a callback of its ledger and a second watch. A word was stored by the
guest where the first watch looks, and one by the host where the second does. -/
def audited : Monitor :=
  (run [.ledger (.addCallback "auditor"), .addWatch 0x1000 4 none,
    .memory (.storeWord 0x70000000 7), .memory (.setWord 0x1000 9)] vigilant).state

/-- The next frame of `audited` records the store of the guest as an access and that of the host as a
change, each once, though both changed what a watch sees. -/
theorem frame_accounts_audited :
    Reachable audited ∧ audited.active = true ∧ audited.ledger.tracking = true ∧
      audited.pending = [⟨0x70000000, 4, 7, .write⟩] ∧
      audited.frame.journal.recorded =
        [("auditor", ⟨0x70000000, 4, 7, .write⟩), ("auditor", ⟨0x1000, 4, 9, .write⟩)] ∧
      audited.frame.value.fired = 1 := by
  have hreach : Reachable audited := vigilant_watches.1.reachable.run _
  have haudited : audited = (run [.ledger (.addCallback "auditor"), .addWatch 0x1000 4 none,
      .memory (.storeWord 0x70000000 7), .memory (.setWord 0x1000 9)]
      ((make {} 0).start.state.installIntercepts.state.addWatch 0x70000000 4
        (some recorder)).state).state := by
    rw [audited, vigilant_eq]
  have hactive : audited.active = true := by
    rw [haudited]
    rfl
  have htracking : audited.ledger.tracking = true := by
    rw [haudited]
    rfl
  have hwatches : audited.watches.watches =
      [⟨0x70000000, 4, 0, true, some recorder⟩, ⟨0x1000, 4, 0, true, none⟩] := by
    rw [haudited]
    rfl
  have hmute : ∀ w ∈ audited.watches.watches, ∀ c ∈ w.callback, c.Mute := by
    intro w hw c hc history
    rw [hwatches] at hw
    rcases List.mem_cons.mp hw with rfl | hrest
    · cases hc
      rfl
    · obtain rfl := List.mem_singleton.mp hrest
      cases hc
  have haccounts := frame_accounts hreach hactive htracking hmute
  have hpending : audited.pending = [⟨0x70000000, 4, 7, .write⟩] := by
    rw [haudited]
    rfl
  have hfound : audited.found = [⟨0x1000, 4, 9, .write⟩] := by
    rw [haudited]
    rfl
  refine ⟨hreach, hactive, htracking, hpending, ?_, ?_⟩
  · rw [haccounts.recorded, hpending, hfound, haudited]
    rfl
  · rw [haccounts.fired, hfound]
    rfl

end Monitor

end GuestWatch
