import GuestWatch.Proofs.Address
import GuestWatch.Proofs.Condition.Checks
import GuestWatch.Proofs.Hardcore.Checks
import GuestWatch.Proofs.Monitor.Records
import GuestWatch.Proofs.Monitor.Watches

set_option relaxedAutoImplicit false
set_option autoImplicit false

/-!
# What the tables of the monitor hold

Watches, conditions, protected regions and records come into their tables in several ways, but each
way checks the range first. So every range in a table is legal: it is not empty, does not wrap and
lies inside one window. No two watches share an address, and no two conditions do. What is checked
once more when the tables are used is therefore never refused.

## Main definitions

* `GuestWatch.MonitorOp.inserts` — the operations that may put an entry into a table.
* `GuestWatch.Monitor.Tables` — what holds of the tables.
* `GuestWatch.Monitor.Fewer` — no table holds a new entry.

## Main results

* `GuestWatch.Monitor.fewer_direct` — operations that leave no new entry in a table.
* `GuestWatch.Monitor.Move.keeps_tables` — every move keeps the tables in order.
* `GuestWatch.Monitor.Reachable.tables` — the tables of a reachable monitor are in order.
* `GuestWatch.Monitor.tables_sound` — and what follows for polls and for the check of regions.
-/

namespace GuestWatch

/-- Whether an operation may put an entry into a table. -/
def MonitorOp.inserts : MonitorOp → Bool
  | .addWatch .. | .addCondition _ | .addConditionCode .. | .addRegion _ | .ledger _ => true
  | _ => false

/-- The widths of watches are read as they are. -/
lemma Watch.isWidth_of_mem {size : UInt32} (h : size ∈ Watch.widths) :
    Probe.isWidth size = true := by
  simp only [widths, List.mem_cons, List.not_mem_nil, or_false] at h
  exact Probe.isWidth_iff.mpr h

/-! ## Tables -/

/-- Recording keeps the ranges of records legal: it checks the range of the access. -/
lemma Ledger.legal_track {ledger : Ledger} (access : Access)
    (h : ∀ entry ∈ ledger.history, Legal entry.address entry.size) :
    ∀ entry ∈ (ledger.track access).state.history, Legal entry.address entry.size := by
  intro entry hmem
  unfold track at hmem
  split at hmem
  · split at hmem
    · exact h entry hmem
    · rename_i w hrange
      rcases List.mem_cons.mp (List.mem_of_mem_take hmem) with rfl | hold
      · exact legal_iff.mpr ⟨w, hrange⟩
      · exact h entry hold
  · exact h entry hmem

/-- An operation on the ledger keeps the ranges of records legal. -/
lemma Ledger.legal_step {ledger : Ledger} (op : LedgerOp)
    (h : ∀ entry ∈ ledger.history, Legal entry.address entry.size) :
    ∀ entry ∈ (ledger.step op).state.history, Legal entry.address entry.size := by
  cases op with
  | track access => exact legal_track access h
  | clear =>
    intro entry hmem
    cases hmem
  | setLimit limit => exact fun entry hmem => h entry (List.mem_of_mem_take hmem)
  | enableTracking on =>
    cases on with
    | false =>
      intro entry hmem
      cases hmem
    | true => exact h
  | _ => exact h

/-- Polling records changes, which keeps the ranges of records legal. -/
lemma WatchList.legal_pollWatches {ws : List Watch} {probe : Probe Ram} {ledger : Ledger}
    (h : ∀ entry ∈ ledger.history, Legal entry.address entry.size) :
    ∀ entry ∈ (pollWatches ws probe ledger).state.ledger.history,
      Legal entry.address entry.size := by
  induction ws generalizing probe ledger with
  | nil => exact h
  | cons w rest ih =>
    refine ih ?_
    unfold pollWatch
    split
    · exact h
    · simp only
      split
      · exact h
      · exact h
      · exact Ledger.legal_track _ h

namespace Monitor

/-- What holds of the tables of a monitor. -/
structure Tables (m : Monitor) : Prop where
  /-- No two watches share an address. -/
  watchAddresses : (m.watches.watches.map Watch.address).Nodup
  /-- Each watch has a width of one, two, four or eight bytes, and a legal range. -/
  watches : ∀ w ∈ m.watches.watches, w.size ∈ Watch.widths ∧ Legal w.address w.size
  /-- No two conditions share an address. -/
  conditionAddresses : (m.conditions.conditions.map Condition.address).Nodup
  /-- Each condition has a legal range. -/
  conditions : ∀ c ∈ m.conditions.conditions, Legal c.address c.size
  /-- Each protected region has a legal range. -/
  regions : ∀ r ∈ m.hardcore.guard.regions, Legal r.start r.size
  /-- Each record has a legal range. -/
  records : ∀ entry ∈ m.ledger.history, Legal entry.address entry.size

variable {m m' : Monitor}

/-! ## What keeps the tables in order -/

/-- No table holds a new entry. -/
structure Fewer (m' m : Monitor) : Prop where
  /-- The watches are some of the old ones. -/
  watches : m'.watches.watches.Sublist m.watches.watches
  /-- The conditions are some of the old ones. -/
  conditions : m'.conditions.conditions.Sublist m.conditions.conditions
  /-- The protected regions are some of the old ones. -/
  regions : m'.hardcore.guard.regions.Sublist m.hardcore.guard.regions
  /-- The records are some of the old ones. -/
  records : m'.ledger.history.Sublist m.ledger.history

lemma Fewer.refl (m : Monitor) : m.Fewer m :=
  ⟨List.Sublist.refl _, List.Sublist.refl _, List.Sublist.refl _, List.Sublist.refl _⟩

/-- Where things are only taken away, no table holds a new entry. -/
lemma Within.fewer (h : m'.Within m) : m'.Fewer m := by
  refine ⟨h.watches, h.conditions, h.regions, ?_⟩
  rcases h.history with hsame | hnone
  · rw [hsame]
  · rw [hnone]
    exact List.nil_sublist _

/-- The tables stay in order when entries are dropped. -/
lemma Tables.of_fewer (h : m.Tables) (hfewer : m'.Fewer m) : m'.Tables where
  watchAddresses := h.watchAddresses.sublist (hfewer.watches.map _)
  watches w hw := h.watches w (hfewer.watches.subset hw)
  conditionAddresses := h.conditionAddresses.sublist (hfewer.conditions.map _)
  conditions c hc := h.conditions c (hfewer.conditions.subset hc)
  regions r hr := h.regions r (hfewer.regions.subset hr)
  records entry hentry := h.records entry (hfewer.records.subset hentry)

/-- A course of the watches keeps their addresses and widths. -/
lemma keeps_course {look : Look} {ws ws' : List Watch} {changes : List (String × Change)}
    {endings : List (UInt32 × Fault)} (h : Course look ws changes endings ws')
    {legal : UInt32 → UInt32 → Prop} (hlegal : ∀ w ∈ ws, legal w.address w.size) :
    (∀ w ∈ ws', legal w.address w.size) ∧
      ∀ ended ∈ endings, ∃ address size, legal address size ∧
        look address size = .error ended.2 := by
  induction h with
  | dropped hsub =>
    refine ⟨fun w hw => hlegal w (hsub.subset hw), fun ended hended => ?_⟩
    cases hended
  | reread before after hactive =>
    rename_i u
    have hu : legal u.address u.size :=
      hlegal u (List.mem_append_right _ List.mem_cons_self)
    constructor
    · intro w hw
      rcases List.mem_append.mp hw with hbefore | hrest
      · exact hlegal w (List.mem_append_left _ hbefore)
      · rcases List.mem_cons.mp hrest with rfl | hafter
        · rw [Watch.reread_address, Watch.reread_size]
          exact hu
        · exact hlegal w (List.mem_append_right _ (List.mem_cons_of_mem u hafter))
    · intro ended hended
      unfold Watch.ending at hended
      split at hended
      · rename_i fault hfault
        rw [List.mem_singleton.mp hended]
        exact ⟨u.address, u.size, hu, hfault⟩
      · cases hended
  | trans h h' ih ih' =>
    obtain ⟨hmiddle, hfirst⟩ := ih hlegal
    obtain ⟨hlast, hsecond⟩ := ih' hmiddle
    refine ⟨hlast, fun ended hended => ?_⟩
    rcases List.mem_append.mp hended with hearly | hlate
    · exact hfirst ended hearly
    · exact hsecond ended hlate

/-- The tables stay in order when the watches are on a course, records are made with legal ranges
and the others stay. -/
lemma Tables.of_follows (h : m.Tables) {j : Journal} (hfollows : Follows m j m')
    (hconditions : m'.conditions.conditions = m.conditions.conditions)
    (hregions : m'.hardcore.guard.regions = m.hardcore.guard.regions)
    (hrecords : ∀ entry ∈ m'.ledger.history, Legal entry.address entry.size) : m'.Tables where
  watchAddresses := h.watchAddresses.sublist hfollows.course.addresses_sublist
  watches := (@keeps_course _ _ _ _ _ hfollows.course
    (fun address size => size ∈ Watch.widths ∧ Legal address size) h.watches).1
  conditionAddresses := by
    rw [hconditions]
    exact h.conditionAddresses
  conditions := by
    rw [hconditions]
    exact h.conditions
  regions := by
    rw [hregions]
    exact h.regions
  records := hrecords

/-- A watch is added with a width and a legal range. -/
lemma legal_of_addWatch {address size : UInt32} {callback : Option (Callback Change)}
    (h : (m.addWatch address size callback).value = true) :
    size ∈ Watch.widths ∧ Legal address size := by
  unfold addWatch at h
  split at h
  · cases hrange : checkRange address size with
    | error fault =>
      simp only [WatchList.add, hrange] at h
      cases h
    | ok w =>
      by_cases hwidth : Watch.widths.contains size = true
      · exact ⟨List.contains_iff_mem.mp hwidth, legal_iff.mpr ⟨w, hrange⟩⟩
      · simp only [WatchList.add, hrange, hwidth] at h
        cases h
  · cases h

/-- Adding a watch keeps the tables in order. -/
lemma tables_addWatch (h : m.Tables) (address size : UInt32)
    (callback : Option (Callback Change)) : (m.addWatch address size callback).state.Tables := by
  have hothers : (m.addWatch address size callback).state.conditions = m.conditions ∧
      (m.addWatch address size callback).state.hardcore = m.hardcore ∧
      (m.addWatch address size callback).state.ledger = m.ledger := by
    unfold addWatch
    split
    · simp only
      split <;> exact ⟨rfl, rfl, rfl⟩
    · exact ⟨rfl, rfl, rfl⟩
  obtain ⟨hconditions, hhardcore, hledger⟩ := hothers
  have hwatches :
      ((m.addWatch address size callback).state.watches.watches.map Watch.address).Nodup ∧
        ∀ w ∈ (m.addWatch address size callback).state.watches.watches,
          w.size ∈ Watch.widths ∧ Legal w.address w.size := by
    rcases addWatch_cases m address size callback with ⟨hadded, value, -, hplaced⟩ | ⟨-, hsame⟩
    · rw [hplaced]
      refine ⟨WatchList.nodup_place h.watchAddresses, fun w hw => ?_⟩
      rcases WatchList.mem_of_mem_place hw with rfl | hold
      · exact legal_of_addWatch hadded
      · exact h.watches w hold
    · rw [hsame]
      exact ⟨h.watchAddresses, h.watches⟩
  refine ⟨hwatches.1, hwatches.2, ?_, ?_, ?_, ?_⟩
  · rw [hconditions]
    exact h.conditionAddresses
  · rw [hconditions]
    exact h.conditions
  · rw [hhardcore]
    exact h.regions
  · rw [hledger]
    exact h.records

/-- Adding a condition keeps the tables in order. -/
lemma tables_addCondition (h : m.Tables) (c : Condition) : (m.addCondition c).state.Tables := by
  obtain ⟨hnodup, hlegal⟩ := ConditionSet.add_keeps c h.conditionAddresses h.conditions
  unfold addCondition
  simp only
  split
  · exact { h with conditionAddresses := hnodup, conditions := hlegal }
  · exact { h with }

/-! ## Moves -/

lemma fewer_peekRun (address : UInt32) (count : Nat) (m : Monitor) :
    (peekRun address count m).state.Fewer m := by
  induction count generalizing address m with
  | zero => exact Fewer.refl m
  | succ count ih =>
    obtain ⟨hwatches, hconditions, hregions, hrecords⟩ := ih (address + 1) (m.peek address).state
    have hpeeked : (m.peek address).state.Fewer m := by
      unfold peek
      split
      · exact { Fewer.refl m with }
      · exact Fewer.refl m
    exact ⟨hwatches.trans hpeeked.watches, hconditions.trans hpeeked.conditions,
      hregions.trans hpeeked.regions, hrecords.trans hpeeked.records⟩

/-- **An operation that neither settles nor inserts leaves no new entry in a table.** -/
theorem fewer_direct (m : Monitor) {op : MonitorOp} (hsettles : op.settles = false)
    (hinserts : op.inserts = false) : (m.step op).state.Fewer m := by
  cases op with
  | shutdown =>
    have hremoved : m.removeIntercepts.state.Fewer m := by
      unfold removeIntercepts
      split
      · exact { Fewer.refl m with }
      · exact Fewer.refl m
    simp only [step, answerDone, answer, shutdown]
    split
    · exact { hremoved with watches := List.nil_sublist _ }
    · exact Fewer.refl m
  | unloadGame => exact (within_unloadGame m).fewer
  | removeWatch address =>
    simp only [step, answer, removeWatch]
    split
    · exact { Fewer.refl m with watches := List.filter_sublist }
    · exact Fewer.refl m
  | clearWatches =>
    simp only [step, silently, clearWatches]
    split
    · exact { Fewer.refl m with watches := List.nil_sublist _ }
    · exact Fewer.refl m
  | removeCondition address =>
    simp only [step, answer, removeCondition, ConditionSet.remove]
    split
    · exact { Fewer.refl m with conditions := List.filter_sublist }
    · exact { Fewer.refl m with }
  | clearConditions => exact { Fewer.refl m with conditions := List.nil_sublist _ }
  | clearRegions => exact { Fewer.refl m with regions := List.nil_sublist _ }
  | permits name =>
    simp only [step, answer, permits]
    split
    · exact Fewer.refl m
    · exact { Fewer.refl m with }
  | allows archive use =>
    simp only [step, answer, allows]
    split
    · exact Fewer.refl m
    · exact { Fewer.refl m with }
  | peek address =>
    simp only [step, answer, peek]
    split
    · exact { Fewer.refl m with }
    · exact Fewer.refl m
  | peekBytes address buffer =>
    simp only [step, answer, peekBytes]
    split
    · exact fewer_peekRun _ _ m
    · exact Fewer.refl m
  | memory op =>
    simp only [step, answer, memoryStep, accept]
    split
    · exact { Fewer.refl m with }
    · split <;> exact { Fewer.refl m with }
  | loadGame _ | read _ _ | addConditionCallback _ | addObserver _ | checkMemory | checkSystem
  | resetAchievements => exact { Fewer.refl m with }
  | addWatch _ _ _ | addCondition _ | addConditionCode _ _ _ _ | addRegion _ | ledger _ =>
    cases hinserts
  | _ => cases hsettles

/-- The whole of an operation that does not settle keeps the tables in order. -/
lemma tables_direct (h : m.Tables) {op : MonitorOp} (hsettles : op.settles = false) :
    (m.step op).state.Tables := by
  cases hinserts : op.inserts with
  | false => exact h.of_fewer (fewer_direct m hsettles hinserts)
  | true =>
    cases op with
    | addWatch address size callback => exact tables_addWatch h address size callback
    | addCondition c => exact tables_addCondition h c
    | addConditionCode address size code configure =>
      simp only [step, answer, addConditionCode]
      split
      · exact tables_addCondition h _
      · exact { h with }
    | addRegion r =>
      have hregions := Hardcore.addRegion_keeps r h.regions
      simp only [step, answer, addRegion]
      split
      · exact { h with regions := hregions }
      · exact { h with }
    | ledger op => exact { h with records := Ledger.legal_step op h.records }
    | _ => cases hinserts

/-- **Every move keeps the tables in order.** -/
theorem Move.keeps_tables {op : MonitorOp} {j : Journal} (hmove : Move op m j m') (h : m.Tables) :
    m'.Tables := by
  cases hmove with
  | carried hqueue => exact h.of_fewer (within_carryOut_rest m _ _).fewer
  | notified address size => exact h.of_follows (follows_notify m address size) rfl rfl h.records
  | tracked access =>
    exact { h with records := Ledger.legal_track access h.records }
  | polled => exact h.of_follows (follows_poll m) rfl rfl (WatchList.legal_pollWatches h.records)
  | installed =>
    obtain ⟨reads, writes, installed, hstate⟩ := m.installIntercepts_frame
    rw [hstate]
    exact { h with }
  | switched on => exact h.of_fewer (within_switchHardcore m on).fewer
  | ended => exact h.of_fewer (within_endSession m).fewer
  | direct hsettles => exact tables_direct h hsettles
  | _ => exact { h with }

/-- Moves one after the other keep the tables in order. -/
lemma Path.keeps_tables {op : MonitorOp} {j : Journal} (hpath : Path op m j m') (h : m.Tables) :
    m'.Tables := by
  induction hpath with
  | refl m => exact h
  | cons head tail ih => exact ih (head.keeps_tables h)

/-- Every operation keeps the tables in order. -/
lemma tables_step (h : m.Tables) (op : MonitorOp) : (m.step op).state.Tables := by
  have hgiven : (m.enqueue op.given).Tables := { h with }
  exact (path_step m op).keeps_tables hgiven

/-- **The tables of a reachable monitor are in order.** -/
theorem Reachable.tables (h : Reachable m) : m.Tables := by
  induction h with
  | make options now =>
    have hnone : (Monitor.make options now).ledger.history = [] := by
      simp only [Monitor.make, Ledger.setLimit, Ledger.enableTracking, List.take_nil]
      split <;> rfl
    refine ⟨List.nodup_nil, fun w hw => ?_, List.nodup_nil, fun c hc => ?_, fun r hr => ?_,
      fun entry hentry => ?_⟩
    · cases hw
    · cases hc
    · cases hr
    · rw [hnone] at hentry
      cases hentry
  | step h op ih => exact tables_step ih op

/-! ## What follows -/

/-- The state in which a frame polls the watches. -/
def beforePoll (m : Monitor) : Monitor := m.installIntercepts.state.applyPending.state

/-- A frame of a started monitor polls the watches in that state and carries out the commands that
come up. -/
lemma frame_of_active (hactive : m.active = true) :
    m.frame.value = m.beforePoll.poll.value ∧
      m.frame.state = (settle m.beforePoll.poll).state := by
  unfold frame
  rw [if_pos hactive]
  exact ⟨rfl, rfl⟩

/-- What comes before the poll keeps the tables in order. -/
lemma tables_beforePoll (h : m.Tables) : m.beforePoll.Tables := by
  have hinstalled : Path .frame m m.installIntercepts.journal m.installIntercepts.state :=
    (Move.installed m).path
  exact (hinstalled.trans (path_applyPending m.installIntercepts.state)).keeps_tables h

/-- A watch is given up because a read of it failed, whatever the operation: its range, which was
legal when it was added, is never refused.

**Proof sketch.** In the course of an operation a watch ends because of what a look at its range
answers, and inside a window the fault of a look is a failed read. -/
lemma kind_of_endings (h : m.Tables) (op : MonitorOp) :
    ∀ ended ∈ (m.step op).journal.endings, ended.2.kind = .read := by
  intro ended hended
  by_cases hadds : ∀ address size callback, op ≠ .addWatch address size callback
  · obtain ⟨-, hfaults⟩ := @keeps_course _ _ _ _ _ (course_step m hadds)
      (fun address size => size ∈ Watch.widths ∧ Legal address size) h.watches
    obtain ⟨address, size, ⟨hwidth, hlegal⟩, hfault⟩ := hfaults ended hended
    obtain ⟨w, hrange⟩ := legal_iff.mp hlegal
    exact Ram.kind_of_look (Watch.isWidth_of_mem hwidth) hrange hfault
  · push Not at hadds
    obtain ⟨address, size, callback, rfl⟩ := hadds
    have hquiet := quiet_step m (rfl : (MonitorOp.addWatch address size callback).settles = false)
    rw [hquiet.endings] at hended
    cases hended

/-- **The tables of a reachable monitor are in order**, whatever was done to it before, and so is
what relies on them. No two watches and no two conditions share an address, each watch has a width
of one, two, four or eight bytes, and the range of every watch, condition, protected region and
record is legal. So a watch is only ever given up because a read failed. When a frame polls, the
range of each watch is accepted again, and the ledger refuses no change that is found but tells each
to its callbacks while recording is switched on. The end of a protected region is computed without
saturating.

**Proof sketch.** Whatever puts an entry into a table checks its range before. Passes over the
watches keep addresses and widths, and commands only take entries away. The poll of a frame happens
after moves that keep the tables in order. -/
theorem tables_sound (h : Reachable m) :
    m.Tables ∧
    (∀ op : MonitorOp, ∀ ended ∈ (m.step op).journal.endings, ended.2.kind = .read) ∧
    (m.active = true → m.frame.value = m.beforePoll.poll.value ∧
      m.frame.state = (settle m.beforePoll.poll).state) ∧
    (∀ w ∈ m.beforePoll.watches.activeWatches, ∃ v, checkRange w.address w.size = .ok v) ∧
    m.beforePoll.poll.journal.refusals = [] ∧
    (m.beforePoll.ledger.tracking = true → m.beforePoll.poll.journal.recorded =
      (m.beforePoll.watches.activeWatches.flatMap
        (Watch.found m.beforePoll.ram.look)).flatMap m.beforePoll.ledger.tellings) ∧
    (∀ r ∈ m.hardcore.guard.regions,
      (Word.satAdd r.start r.size).toNat = r.start.toNat + r.size.toNat) := by
  have htables := h.tables
  have hranges : ∀ w ∈ m.beforePoll.watches.activeWatches,
      ∃ v, checkRange w.address w.size = .ok v := by
    intro w hw
    have hlegal := (tables_beforePoll htables).watches w (List.mem_of_mem_filter hw)
    exact legal_iff.mp hlegal.2
  have hrecords := records_poll hranges
  exact ⟨htables, kind_of_endings htables, frame_of_active, hranges, hrecords.refusals,
    hrecords.recorded, fun r hr => (htables.regions r hr).toNat_satAdd⟩

/-- A started monitor with an entry in each table, at the edges of the windows. -/
def stocked : Monitor :=
  (run [.start, .addWatch 0x1fffff8 8 none, .addWatch 0x70000000 1 none,
    .addCondition ⟨0x70003ffc, 4, 0, 0, 0, 0, .equal, true⟩, .addRegion ⟨0, 0x2000000⟩,
    .ledger (.track ⟨0x1ffffff, 1, 7, .write⟩), .memory (.setWord 0x1fffff8 7)] (make {} 0)).state

/-- The tables of `stocked` are in order, and none of them is empty. -/
theorem tables_sound_stocked :
    Reachable stocked ∧ stocked.watches.size = 2 ∧ stocked.conditions.conditions.length = 1 ∧
      stocked.hardcore.guard.regions = [⟨0, 0x2000000⟩] ∧ stocked.ledger.history.length = 1 ∧
      stocked.Tables ∧ stocked.beforePoll.poll.journal.refusals = [] ∧
      (Word.satAdd 0 0x2000000).toNat = 0x2000000 := by
  have hreach : Reachable stocked := (Reachable.make {} 0).run _
  obtain ⟨htables, -, -, -, hrefusals, -, hends⟩ := tables_sound hreach
  have hregions : stocked.hardcore.guard.regions = [⟨0, 0x2000000⟩] := rfl
  refine ⟨hreach, rfl, rfl, hregions, rfl, htables, hrefusals, ?_⟩
  exact hends ⟨0, 0x2000000⟩ (hregions ▸ List.mem_singleton_self _)

end Monitor

end GuestWatch
