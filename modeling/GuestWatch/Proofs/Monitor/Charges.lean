import GuestWatch.Proofs.Memory.Composed
import GuestWatch.Proofs.Monitor.Lapses
import GuestWatch.Proofs.Monitor.Wiring
import GuestWatch.Proofs.Tally

set_option relaxedAutoImplicit false
set_option autoImplicit false

/-!
# What is charged to the fault counters

The fault counters of the monitor are raised on many ways: by the checked reads of the host and of
the rules, by watches that are given up, by refused watches, conditions and regions, and by refused
uses of a save state. On each way what went wrong is charged once. So a counter can be told from what
the operations answered and from the watches that ceased to be active, and no operation raises it
otherwise.

## Main definitions

* `GuestWatch.Monitor.refused` — the faults with which an operation is refused.
* `GuestWatch.Monitor.refusals`, `GuestWatch.Monitor.denials`, `GuestWatch.Monitor.headerDenials`,
  `GuestWatch.Monitor.lapses` — how often an operation is refused, how often it denies a use of a
  save state, and how many watches cease to be active in it.
* `GuestWatch.Monitor.charges` — all that an operation charges to the fault counters.
* `GuestWatch.Monitor.total` — a count over the operations of a run.

## Main results

* `GuestWatch.Monitor.raised_step` — an operation raises the counters by what it charges.
* `GuestWatch.Monitor.missed_eq` — each refusal is charged once, under one kind.
* `GuestWatch.Monitor.tally_accounts` — the counters account for every denial and failure.
-/

namespace GuestWatch

variable {α : Type}

/-- The fault of a result, if it is one. -/
def faultsOf : Except Fault α → List Fault
  | .ok _ => []
  | .error fault => [fault]

/-- Whether a result is a fault. -/
def faulty (result : Except Fault α) : Bool :=
  match result with
  | .ok _ => false
  | .error _ => true

lemma length_faultsOf (result : Except Fault α) :
    (faultsOf result).length = if faulty result then 1 else 0 := by
  cases result <;> rfl

/-- What the ends of watches charge: each one a fault, and a watch that was given up. -/
def Journal.charges (j : Journal) : Charges :=
  { faults := j.endings.map Prod.snd, ended := j.endings.length }

lemma Journal.charges_append (a b : Journal) : (a ++ b).charges = a.charges ++ b.charges := by
  simp only [charges, endings_append, List.map_append, List.length_append]
  rfl

/-- Where no watch ends, nothing is charged. -/
lemma Journal.charges_of_endings_nil {j : Journal} (h : j.endings = []) : j.charges = {} := by
  rw [charges, h]
  rfl

/-! ## Reads and watches -/

/-- An attempt counts nothing. -/
lemma Probe.tally_attempt (probe : Probe Ram) (address size : UInt32) :
    (probe.attempt address size).state.tally = probe.tally := by
  simp only [attempt, run]
  split <;> rfl

/-- A read charges its fault. -/
lemma Probe.raised_read (probe : Probe Ram) (address size : UInt32) :
    probe.tally.Raised { faults := faultsOf (probe.memory.look address size) }
      (probe.read address size).state.tally := by
  have htally := probe.tally_attempt address size
  rw [← attempt_value]
  simp only [read]
  cases (probe.attempt address size).value with
  | ok value =>
    simp only [faultsOf, htally]
    exact Tally.Raised.refl _
  | error fault =>
    simp only [faultsOf, record, htally]
    exact Tally.raised_record _ fault

/-- Giving up a watch charges its end. -/
lemma Watch.raised_deactivate (w : Watch) (probe : Probe Ram) (fault : Fault) :
    probe.tally.Raised (w.deactivate probe fault).journal.charges
      (w.deactivate probe fault).state.2.tally :=
  (Tally.raised_record probe.tally fault).append (Tally.raised_countEnded _)

/-- Reading a watch again charges its end, if it comes to it. -/
lemma Watch.raised_refresh (w : Watch) (probe : Probe Ram) :
    probe.tally.Raised (w.refresh probe).journal.charges (w.refresh probe).state.2.tally := by
  have htally := probe.tally_attempt w.address w.size
  have hquiet := (plain_attempt probe w.address w.size).quiet
  simp only [refresh]
  cases (probe.attempt w.address w.size).value with
  | error fault =>
    have hraised := w.raised_deactivate (probe.attempt w.address w.size).state fault
    simp only
    rw [Journal.charges_append, Journal.charges_of_endings_nil hquiet.endings]
    rw [htally] at hraised
    exact (Tally.Raised.refl _).append hraised
  | ok value =>
    by_cases hsame : value = w.lastValue
    · simp only [hsame, if_true, htally]
      rw [Journal.charges_of_endings_nil hquiet.endings]
      exact Tally.Raised.refl _
    · simp only [hsame, if_false, htally]
      have htold : (Callback.tell? Event.changed (w.changeTo value) w.callback).journal.endings
          = [] := by
        cases w.callback <;> rfl
      rw [Journal.charges_append, Journal.charges_of_endings_nil hquiet.endings,
        Journal.charges_of_endings_nil htold]
      exact (Tally.Raised.refl _).append (Tally.Raised.refl _)

namespace WatchList

/-- A write notice charges the watches that end. -/
lemma raised_notifyWatches (address size : UInt32) (ws : List Watch) (probe : Probe Ram) :
    probe.tally.Raised (notifyWatches address size ws probe).journal.charges
      (notifyWatches address size ws probe).state.2.tally := by
  induction ws generalizing probe with
  | nil => exact Tally.Raised.refl _
  | cons w rest ih =>
    unfold notifyWatches
    split
    · simp only [Journal.charges_append]
      exact (w.raised_refresh probe).append (ih _)
    · exact ih probe

/-- A poll of one watch charges its end, also when its range is refused at once. -/
lemma raised_pollWatch (w : Watch) (probe : Probe Ram) (ledger : Ledger) :
    probe.tally.Raised (pollWatch w probe ledger).journal.charges
      (pollWatch w probe ledger).state.2.1.tally := by
  have hrefresh := w.raised_refresh probe
  unfold pollWatch
  split
  · exact w.raised_deactivate probe _
  · simp only
    split
    · exact hrefresh
    · exact hrefresh
    · simp only [Journal.charges_append]
      rw [Journal.charges_of_endings_nil (plain_track _ _).quiet.endings]
      exact hrefresh.append (Tally.Raised.refl _)

/-- A poll charges the watches that end. -/
lemma raised_pollWatches (ws : List Watch) (probe : Probe Ram) (ledger : Ledger) :
    probe.tally.Raised (pollWatches ws probe ledger).journal.charges
      (pollWatches ws probe ledger).state.probe.tally := by
  induction ws generalizing probe ledger with
  | nil => exact Tally.Raised.refl _
  | cons w rest ih =>
    simp only [pollWatches, Journal.charges_append]
    exact (raised_pollWatch w probe ledger).append (ih _ _)

end WatchList

namespace Monitor

/-! ## Operations that settle -/

variable {op : MonitorOp} {m m' : Monitor} {j : Journal}

/-- A move of an operation that settles charges the watches that end. -/
lemma Move.raised (h : Move op m j m') (hsettles : op.settles = true) :
    m.tally.Raised j.charges m'.tally := by
  rcases h.notified_or_polled_or_idle with ⟨address, size, rfl, rfl⟩ | ⟨rfl, rfl⟩ | hidle
  · exact WatchList.raised_notifyWatches address size m.watches.watches m.probe
  · have hpoll := WatchList.raised_pollWatches m.watches.activeWatches m.probe m.ledger
    have hprune : m.watches.pruneJournal.charges = {} :=
      Journal.charges_of_endings_nil m.watches.quiet_pruneJournal.endings
    simp only [poll, WatchList.poll, Journal.charges_append, hprune]
    exact (Tally.Raised.refl _).append hpoll
  · rw [hidle.tally hsettles, Journal.charges_of_endings_nil hidle.endings]
    exact Tally.Raised.refl _

/-- Moves of an operation that settles charge the watches that end. -/
lemma Path.raised (h : Path op m j m') (hsettles : op.settles = true) :
    m.tally.Raised j.charges m'.tally := by
  induction h with
  | refl m => exact Tally.Raised.refl _
  | cons head tail ih =>
    rw [Journal.charges_append]
    exact (head.raised hsettles).append ih

/-! ## Refusals -/

/-- The faults with which an operation is refused, or the reads fail that it makes for the host or
for the rules. -/
def refused (m : Monitor) : MonitorOp → List Fault
  | .addWatch address size callback =>
    if m.active then faultsOf (m.watches.add m.probe address size callback).value else []
  | .addCondition c => faultsOf (m.conditions.add c).value
  | .addConditionCode address size code configure =>
    match Condition.ofCode address size code with
    | .ok c => faultsOf (m.conditions.add (configure c)).value
    | .error fault => [fault]
  | .addRegion r => faultsOf (m.hardcore.addRegion r).value
  | .read address size => faultsOf (m.ram.look address size)
  | .peek address => if m.bridged then faultsOf (m.ram.look address 1) else []
  | .peekBytes address buffer =>
    if m.bridged then (List.range buffer.length).flatMap fun i =>
      faultsOf (m.ram.look (address + UInt32.ofNat i) 1)
    else []
  | .allows archive use => faultsOf (m.hardcore.inspect archive use)
  | _ => []

end Monitor

/-- One for the answer no, zero for any other answer. -/
def MonitorReply.noes : MonitorReply → Nat
  | .flag false => 1
  | _ => 0

namespace Monitor

/-- How often an operation on watches, conditions, regions or memory is refused: whether a watch, a
condition or a region is not added, whether a read fails, and how many bytes fail that the rules
read. What nobody can add or see, because the monitor is not started or has no game, is not refused.
-/
def refusals (m : Monitor) (op : MonitorOp) : Nat :=
  match op with
  | .addWatch .. => if m.active then (m.step op).value.noes else 0
  | .addCondition _ | .addConditionCode .. | .addRegion _ => (m.step op).value.noes
  | .read address size => if faulty (m.ram.look address size) then 1 else 0
  | .peek address => if m.bridged && faulty (m.ram.look address 1) then 1 else 0
  | .peekBytes address buffer =>
    if m.bridged then (List.range buffer.length).countP fun i =>
      faulty (m.ram.look (address + UInt32.ofNat i) 1)
    else 0
  | _ => 0

/-- Whether an operation denies a use of save states. -/
def denials (m : Monitor) (op : MonitorOp) : Nat :=
  match op with
  | .permits _ | .allows .. => (m.step op).value.noes
  | _ => 0

/-- Whether an operation denies a use of the save state in an archive. -/
def headerDenials (m : Monitor) (op : MonitorOp) : Nat :=
  match op with
  | .allows .. => (m.step op).value.noes
  | _ => 0

/-- How many refusals of an operation are charged under a kind. -/
def missed (k : FaultKind) (m : Monitor) (op : MonitorOp) : Nat :=
  (m.refused op).countP fun fault => fault.kind = k

/-- How many watches are given up in an operation. -/
def lapses (m : Monitor) (op : MonitorOp) : Nat := (m.step op).journal.endings.length

/-- All that an operation charges to the fault counters. -/
def charges (m : Monitor) (op : MonitorOp) : Charges :=
  { faults := m.refused op, denied := m.denials op } ++ (m.step op).journal.charges

/-! ## Operations that do not settle -/

variable {op : MonitorOp}

/-- Adding a watch to the list counts nothing. -/
lemma tally_addWatches (ws : WatchList) (probe : Probe Ram) (address size : UInt32)
    (callback : Option (Callback Change)) :
    (ws.add probe address size callback).state.2.tally = probe.tally := by
  have htally := probe.tally_attempt address size
  unfold WatchList.add
  split
  · rfl
  · split
    · simp only
      split <;> exact htally
    · rfl

lemma raised_addWatch (m : Monitor) (address size : UInt32)
    (callback : Option (Callback Change)) :
    m.tally.Raised { faults := m.refused (.addWatch address size callback) }
      (m.addWatch address size callback).state.tally := by
  have htally := tally_addWatches m.watches m.probe address size callback
  by_cases hactive : m.active = true
  · simp only [refused, addWatch, hactive, if_true]
    cases hvalue : (m.watches.add m.probe address size callback).value with
    | ok _ =>
      simp only [withProbe, faultsOf, htally]
      exact Tally.Raised.refl _
    | error fault =>
      simp only [withProbe, faultsOf, record, htally]
      exact Tally.raised_record _ fault
  · simp only [refused, addWatch, hactive]
    exact Tally.Raised.refl _

lemma raised_addCondition (m : Monitor) (c : Condition) :
    m.tally.Raised { faults := faultsOf (m.conditions.add c).value }
      (m.addCondition c).state.tally := by
  simp only [addCondition]
  cases (m.conditions.add c).value with
  | ok _ => exact Tally.Raised.refl _
  | error fault => exact Tally.raised_record _ fault

lemma raised_read (m : Monitor) (address size : UInt32) :
    m.tally.Raised { faults := faultsOf (m.ram.look address size) }
      (m.read address size).state.tally :=
  m.probe.raised_read address size

/-- Reading bytes for the rules charges each byte that fails. -/
lemma raised_peekRun (address : UInt32) (count : Nat) {m : Monitor} (hbridged : m.bridged = true) :
    m.tally.Raised
      { faults := (List.range count).flatMap fun i =>
          faultsOf (m.ram.look (address + UInt32.ofNat i) 1) }
      (peekRun address count m).state.tally := by
  induction count generalizing address m with
  | zero => exact Tally.Raised.refl _
  | succ count ih =>
    have hpeek : (m.peek address).state = (m.read address 1).state := by
      simp only [peek, hbridged, if_true]
    have hbridged' : (m.peek address).state.bridged = true := by
      rw [hpeek]
      exact hbridged
    -- the first byte is read, and what is read after it sees the same memory
    have hlook : (m.peek address).state.ram.look = m.ram.look := by
      rw [hpeek]
      exact (recounted_read m address 1).alike.look_eq
    have hfirst := m.raised_read address 1
    rw [← hpeek] at hfirst
    have hrest := ih (address + 1) hbridged'
    rw [hlook] at hrest
    have hall := hfirst.append hrest
    simp only [List.range_succ_eq_map, List.flatMap_cons, List.flatMap_map, Nat.succ_eq_add_one,
      Ram.add_ofNat_succ]
    rw [show address + UInt32.ofNat 0 = address from UInt32.add_zero address]
    exact hall

/-- **An operation that does not settle charges its refusals and denials.** -/
theorem raised_direct (m : Monitor) (h : op.settles = false) :
    m.tally.Raised { faults := m.refused op, denied := m.denials op } (m.step op).state.tally := by
  cases op with
  | addWatch address size callback => exact raised_addWatch m address size callback
  | addCondition c => exact raised_addCondition m c
  | addConditionCode address size code configure =>
    simp only [step, answer, addConditionCode, refused, denials]
    cases Condition.ofCode address size code with
    | ok c => exact raised_addCondition m (configure c)
    | error fault => exact Tally.raised_record _ fault
  | addRegion r =>
    simp only [step, answer, addRegion, refused, denials]
    cases (m.hardcore.addRegion r).value with
    | ok _ => exact Tally.Raised.refl _
    | error fault => exact Tally.raised_record _ fault
  | read address size => exact raised_read m address size
  | peek address =>
    simp only [step, answer, peek, refused, denials]
    split
    · exact raised_read m address 1
    · exact Tally.Raised.refl _
  | peekBytes address buffer =>
    simp only [step, answer, peekBytes, refused, denials]
    split
    · rename_i hbridged
      exact raised_peekRun address buffer.length hbridged
    · exact Tally.Raised.refl _
  | permits name =>
    by_cases henabled : m.hardcore.enabled = true
    · simp only [step, answer, permits, refused, denials, Hardcore.permits, henabled, if_true]
      exact Tally.raised_countDenied _
    · simp only [step, answer, permits, refused, denials, Hardcore.permits, henabled]
      exact Tally.Raised.refl _
  | allows archive use =>
    cases hinspect : m.hardcore.inspect archive use with
    | ok _ =>
      simp only [step, answer, allows, refused, denials, hinspect]
      exact Tally.Raised.refl _
    | error fault =>
      simp only [step, answer, allows, refused, denials, hinspect]
      exact (Tally.raised_record _ fault).append (Tally.raised_countDenied _)
  | shutdown =>
    simp only [step, answerDone, answer, shutdown, removeIntercepts, refused, denials]
    split
    · split <;> exact Tally.Raised.refl _
    · exact Tally.Raised.refl _
  | unloadGame =>
    have htally := tally_unloadGame m
    simp only [step, answerDone, answer, refused, denials, htally]
    exact Tally.Raised.refl _
  | removeWatch address =>
    simp only [step, answer, removeWatch, refused, denials]
    split <;> exact Tally.Raised.refl _
  | clearWatches =>
    simp only [step, silently, clearWatches, refused, denials]
    split <;> exact Tally.Raised.refl _
  | memory op =>
    simp only [step, answer, memoryStep, accept, refused, denials]
    split
    · exact Tally.Raised.refl _
    · split <;> exact Tally.Raised.refl _
  | _ => first | exact Tally.Raised.refl _ | cases h

/-- **An operation raises the counters by what it charges.** -/
theorem raised_step (m : Monitor) (op : MonitorOp) :
    m.tally.Raised (m.charges op) (m.step op).state.tally := by
  by_cases hsettles : op.settles = false
  · have hnone := (quiet_step m hsettles).endings
    rw [charges, Journal.charges_of_endings_nil hnone]
    exact (raised_direct m hsettles).append (Tally.Raised.refl _)
  · have hpath := (path_step m op).raised (by simpa using hsettles)
    have hnone : ({ faults := m.refused op, denied := m.denials op } : Charges) = {} := by
      cases op <;> first | rfl | exact absurd rfl hsettles
    rw [charges, hnone]
    exact (Tally.Raised.refl _).append hpath

/-! ## Kinds of refusals -/

/-- The fault of a range is a bounds fault. -/
lemma kind_of_checkRange {address size : UInt32} {fault : Fault}
    (h : checkRange address size = .error fault) : fault.kind = .bounds := by
  rw [checkRange_eq_error h]
  rfl

/-- A watch is refused because of its range, its width or its first read. -/
lemma kind_of_addWatches {ws : WatchList} {probe : Probe Ram} {address size : UInt32}
    {callback : Option (Callback Change)} {fault : Fault}
    (h : (ws.add probe address size callback).value = .error fault) : fault.kind ≠ .header := by
  cases hrange : checkRange address size with
  | error other =>
    simp only [WatchList.add, hrange] at h
    cases h
    rw [kind_of_checkRange hrange]
    decide
  | ok w =>
    by_cases hwidth : Watch.widths.contains size = true
    · simp only [WatchList.add, hrange, hwidth, if_true] at h
      cases hvalue : (probe.attempt address size).value with
      | ok value =>
        rw [hvalue] at h
        cases h
      | error other =>
        rw [hvalue] at h
        cases h
        rcases Probe.kind_of_attempt hvalue with hkind | hkind <;> rw [hkind] <;> decide
    · simp only [WatchList.add, hrange, hwidth] at h
      cases h
      have hkind : FaultKind.configuration ≠ .header := by decide
      exact hkind

/-- A condition is refused because of its range. -/
lemma kind_of_addCondition {set : ConditionSet} {c : Condition} {fault : Fault}
    (h : (set.add c).value = .error fault) : fault.kind ≠ .header := by
  cases hrange : checkRange c.address c.size with
  | error other =>
    simp only [ConditionSet.add, hrange] at h
    cases h
    rw [kind_of_checkRange hrange]
    decide
  | ok w =>
    simp only [ConditionSet.add, hrange] at h
    cases h

/-- A region is refused because of its range. -/
lemma kind_of_addRegion {hardcore : Hardcore} {r : Region} {fault : Fault}
    (h : (hardcore.addRegion r).value = .error fault) : fault.kind ≠ .header := by
  cases hrange : checkRange r.start r.size with
  | error other =>
    simp only [Hardcore.addRegion, Guard.add, hrange] at h
    cases h
    rw [kind_of_checkRange hrange]
    decide
  | ok w =>
    simp only [Hardcore.addRegion, Guard.add, hrange] at h
    cases h

/-- A read fails because of its range or of what is read. -/
lemma kind_of_look {ram : Ram} {address size : UInt32} {fault : Fault}
    (h : ram.look address size = .error fault) : fault.kind ≠ .header := by
  rcases Probe.kind_of_attempt h with hkind | hkind <;> rw [hkind] <;> decide

/-- A use of the save state in an archive is denied because of the header. -/
lemma kind_of_inspect {hardcore : Hardcore} {archive : Archive} {use : StateUse} {fault : Fault}
    (h : hardcore.inspect archive use = .error fault) : fault.kind = .header := by
  unfold Hardcore.inspect at h
  split at h
  · split at h
    · cases h
      rfl
    · split at h <;> cases h
      rfl
  · cases h

lemma countP_faultsOf_eq_zero {result : Except Fault α} {k : FaultKind}
    (h : ∀ fault, result = .error fault → fault.kind ≠ k) :
    (faultsOf result).countP (fun fault => fault.kind = k) = 0 := by
  cases result with
  | ok _ => rfl
  | error fault => simpa [faultsOf] using h fault rfl

/-- **Refusals under the header kind are the denials of archives.** -/
theorem missed_header (m : Monitor) (op : MonitorOp) :
    missed .header m op = headerDenials m op := by
  cases op with
  | addWatch address size callback =>
    simp only [missed, refused, headerDenials]
    split
    · exact countP_faultsOf_eq_zero fun _ => kind_of_addWatches
    · rfl
  | addCondition c => exact countP_faultsOf_eq_zero fun _ => kind_of_addCondition
  | addConditionCode address size code configure =>
    simp only [missed, refused, headerDenials, Condition.ofCode]
    cases Comparator.ofCode? code with
    | none => rfl
    | some kind => exact countP_faultsOf_eq_zero fun _ => kind_of_addCondition
  | addRegion r => exact countP_faultsOf_eq_zero fun _ => kind_of_addRegion
  | read address size => exact countP_faultsOf_eq_zero fun _ => kind_of_look
  | peek address =>
    simp only [missed, refused, headerDenials]
    split
    · exact countP_faultsOf_eq_zero fun _ => kind_of_look
    · rfl
  | peekBytes address buffer =>
    simp only [missed, refused, headerDenials]
    split
    · rw [List.countP_flatMap]
      refine List.sum_eq_zero fun count hcount => ?_
      obtain ⟨i, -, rfl⟩ := List.mem_map.mp hcount
      exact countP_faultsOf_eq_zero fun _ => kind_of_look
    · rfl
  | allows archive use =>
    cases hinspect : m.hardcore.inspect archive use with
    | ok _ => simp [missed, refused, headerDenials, step, answer, allows, hinspect, faultsOf,
        MonitorReply.noes]
    | error fault => simp [missed, refused, headerDenials, step, answer, allows, hinspect,
        faultsOf, MonitorReply.noes, kind_of_inspect hinspect]
  | _ => rfl

/-- Adding a condition answers no when it is refused. -/
lemma refusals_addCondition (m : Monitor) (c : Condition) :
    (faultsOf (m.conditions.add c).value).length =
      (MonitorReply.flag (m.addCondition c).value).noes := by
  simp only [addCondition]
  cases (m.conditions.add c).value <;> rfl

/-- **An operation has as many faults as it is refused or denied**, by its answers. -/
theorem length_refused (m : Monitor) (op : MonitorOp) :
    (m.refused op).length = m.refusals op + m.headerDenials op := by
  cases op with
  | addWatch address size callback =>
    by_cases hactive : m.active = true
    · simp only [refused, refusals, headerDenials, step, answer, addWatch, hactive, if_true]
      cases (m.watches.add m.probe address size callback).value <;> rfl
    · simp [refused, refusals, headerDenials, hactive]
  | addCondition c => exact refusals_addCondition m c
  | addConditionCode address size code configure =>
    simp only [refused, refusals, headerDenials, step, answer, addConditionCode]
    cases Condition.ofCode address size code with
    | ok c => exact refusals_addCondition m (configure c)
    | error fault => rfl
  | addRegion r =>
    simp only [refused, refusals, headerDenials, step, answer, addRegion]
    cases (m.hardcore.addRegion r).value <;> rfl
  | read address size => exact length_faultsOf _
  | peek address =>
    by_cases hbridged : m.bridged = true
    · simp only [refused, refusals, headerDenials, hbridged, if_true, Bool.true_and,
        length_faultsOf, Nat.add_zero]
    · simp [refused, refusals, headerDenials, hbridged]
  | peekBytes address buffer =>
    by_cases hbridged : m.bridged = true
    · simp only [refused, refusals, headerDenials, hbridged, if_true, Nat.add_zero]
      exact length_flatMap_eq_countP fun i _ => length_faultsOf _
    · simp [refused, refusals, headerDenials, hbridged]
  | allows archive use =>
    simp only [refused, refusals, headerDenials, step, answer, allows]
    cases m.hardcore.inspect archive use <;> rfl
  | _ => rfl

/-- **Each refusal is charged once, under one kind** of three. -/
theorem missed_eq (m : Monitor) (op : MonitorOp) :
    missed .bounds m op + missed .read m op + missed .configuration m op = m.refusals op := by
  have hkinds := length_eq_kinds (m.refused op)
  have hheader := missed_header m op
  rw [length_refused] at hkinds
  unfold missed at hheader ⊢
  omega

/-! ## Runs -/

/-- A count over the operations of a run, each in the state in which it is carried out. -/
def total (count : Monitor → MonitorOp → Nat) : List MonitorOp → Monitor → Nat
  | [], _ => 0
  | op :: rest, m => count m op + total count rest (m.step op).state

/-- All that the operations of a run charge to the fault counters. -/
def charged : List MonitorOp → Monitor → Charges
  | [], _ => {}
  | op :: rest, m => m.charges op ++ charged rest (m.step op).state

/-- A run raises the counters by what its operations charge. -/
lemma raised_run (ops : List MonitorOp) (m : Monitor) :
    m.tally.Raised (charged ops m) (run ops m).state.tally := by
  induction ops generalizing m with
  | nil => exact Tally.Raised.refl _
  | cons op rest ih => exact (raised_step m op).append (ih _)

/-- Counts over a run compare as they do for each of its operations. -/
lemma total_le {f g : Monitor → MonitorOp → Nat} (h : ∀ m op, f m op ≤ g m op)
    (ops : List MonitorOp) (m : Monitor) : total f ops m ≤ total g ops m := by
  induction ops generalizing m with
  | nil => exact Nat.le_refl 0
  | cons op rest ih => exact Nat.add_le_add (h m op) (ih _)

/-- What an operation charges under a kind: its refusals of that kind, and if watches end, reads that
failed. -/
lemma count_charges {m : Monitor} (htables : m.Tables) (op : MonitorOp) (k : FaultKind) :
    (m.charges op).count k = missed k m op + if k = .read then m.lapses op else 0 := by
  have hends : (m.step op).journal.charges.count k = if k = .read then m.lapses op else 0 := by
    simp only [Journal.charges, Charges.count, List.countP_map, lapses]
    have hkind := kind_of_endings htables op
    by_cases hread : k = .read
    · rw [if_pos hread, List.countP_eq_length]
      intro ended hended
      simp [hread, hkind ended hended]
    · rw [if_neg hread, List.countP_eq_zero]
      intro ended hended
      simp [hkind ended hended, Ne.symm hread]
  rw [charges, Charges.count_append, hends]
  rfl

/-- A count over a run goes on where the run does. -/
lemma total_append (count : Monitor → MonitorOp → Nat) (ops more : List MonitorOp) (m : Monitor) :
    total count (ops ++ more) m = total count ops m + total count more (run ops m).state := by
  induction ops generalizing m with
  | nil => exact (Nat.zero_add _).symm
  | cons op rest ih =>
    rw [List.cons_append, total, total, ih, Nat.add_assoc]
    rfl

/-- What a run charges under a kind. -/
lemma count_charged {m : Monitor} (h : Reachable m) (ops : List MonitorOp) (k : FaultKind) :
    (charged ops m).count k =
      total (missed k) ops m + if k = .read then total lapses ops m else 0 := by
  induction ops generalizing m with
  | nil => cases k <;> rfl
  | cons op rest ih =>
    have hstep := count_charges h.tables op k
    have hrest := ih (h.step op)
    simp only [charged, total, Charges.count_append, hstep, hrest]
    split <;> omega

/-- The watches that end in a run. -/
lemma ended_charged (ops : List MonitorOp) (m : Monitor) :
    (charged ops m).ended = total lapses ops m := by
  induction ops generalizing m with
  | nil => rfl
  | cons op rest ih =>
    simp only [charged, total, Charges.ended_append, ih, charges, Nat.zero_add]
    rfl

/-- The uses of save states that are denied in a run. -/
lemma denied_charged (ops : List MonitorOp) (m : Monitor) :
    (charged ops m).denied = total denials ops m := by
  induction ops generalizing m with
  | nil => rfl
  | cons op rest ih =>
    simp only [charged, total, Charges.denied_append, ih, charges]
    rfl

/-- How the fault counters account for a run, up to the greatest word. -/
structure Accounted (start : Monitor) (ops : List MonitorOp) : Prop where
  /-- Each denied use of a save state is counted. -/
  denied : (run ops start).state.tally.denied.toNat =
    min (UInt32.size - 1) (total denials ops start)
  /-- Each denied use of the save state in an archive is counted as a header fault as well. -/
  header : (run ops start).state.tally.header.toNat =
    min (UInt32.size - 1) (total headerDenials ops start)
  /-- Each watch that ends is counted. -/
  deactivated : (run ops start).state.tally.deactivated.toNat =
    min (UInt32.size - 1) (total lapses ops start)
  /-- Each watch that ends is counted as a failed read as well, beside the refusals for a failed
  read. -/
  read : (run ops start).state.tally.read.toNat =
    min (UInt32.size - 1) (total (missed .read) ops start + total lapses ops start)
  /-- The refusals for a range are counted. -/
  bounds : (run ops start).state.tally.bounds.toNat =
    min (UInt32.size - 1) (total (missed .bounds) ops start)
  /-- The refusals for a setting are counted. -/
  configuration : (run ops start).state.tally.configuration.toNat =
    min (UInt32.size - 1) (total (missed .configuration) ops start)

/-- **The counters of a run of a new monitor account for it**: at first they are as after a reset. -/
lemma accounts_run (options : Options) (now : UInt64) (ops : List MonitorOp) :
    Accounted (make options now) ops := by
  have hraised : (Tally.reset {}).Raised _ _ := raised_run ops (make options now)
  obtain ⟨hcount, hended, hdenied, -⟩ := hraised.since_reset
  have hkind : ∀ k, ((run ops (make options now)).state.tally.count k).toNat =
      min (UInt32.size - 1) (total (missed k) ops (make options now) +
        if k = .read then total lapses ops (make options now) else 0) := by
    intro k
    rw [hcount, count_charged (Reachable.make options now)]
  have hheader := hkind .header
  simp only [funext fun m => funext (missed_header m)] at hheader
  refine ⟨?_, hheader, ?_, hkind .read, hkind .bounds, hkind .configuration⟩
  · rw [hdenied, denied_charged]
  · rw [hended, ended_charged]

/-- **The fault counters account for every denial and failure.** In any run of a new monitor, up to
the greatest word,

* the denied uses of save states are counted, and those of the save state in an archive as header
  faults too;
* the watches that ceased to be active are counted, and as failed reads too;
* the refusals of watches, conditions and regions, the failed reads and the bytes that fail for the
  rules are counted once each, as a bounds, read or configuration fault, and nothing else is.

So there are never more header faults than denials, nor more watches given up than failed reads. The
watches that ceased to be active in an operation are counted in its journal, and they are the same,
however the operation is taken apart into moves.

**Proof sketch.** An operation that settles charges only the watches that end, move by move; any
other one charges its refusals and denials. Saturation is taken care of by `Tally.Raised`: clamping
at each step comes to clamping in the end. -/
theorem tally_accounts (options : Options) (now : UInt64) (ops : List MonitorOp) :
    let m := (run ops (make options now)).state
    Accounted (make options now) ops ∧ m.tally.header ≤ m.tally.denied ∧
      m.tally.deactivated ≤ m.tally.read ∧
      ∀ op, missed .bounds m op + missed .read m op + missed .configuration m op = m.refusals op ∧
        Lapses op (m.enqueue op.given) (m.step op).journal (m.lapses op) (m.step op).state ∧
        ∀ count, Lapses op (m.enqueue op.given) (m.step op).journal count (m.step op).state →
          count = m.lapses op := by
  intro m
  have haccounts := accounts_run options now ops
  have hdenials : ∀ m op, headerDenials m op ≤ denials m op := by
    intro m op
    cases op <;> first | exact Nat.le_refl _ | exact Nat.zero_le _
  have hle := total_le hdenials ops (make options now)
  refine ⟨haccounts, ?_, ?_, fun op => ⟨missed_eq m op, ?_, ?_⟩⟩
  · rw [UInt32.le_iff_toNat_le, haccounts.header, haccounts.denied]
    omega
  · rw [UInt32.le_iff_toNat_le, haccounts.deactivated, haccounts.read]
    omega
  · have htables : (m.enqueue op.given).Tables :=
      { ((Reachable.make options now).run ops).tables with }
    obtain ⟨count, hlapses⟩ := (path_step m op).lapses
    have hcount := hlapses.count_eq htables
    rw [hcount] at hlapses
    exact hlapses
  · intro count hlapses
    have htables : (m.enqueue op.given).Tables :=
      { ((Reachable.make options now).run ops).tables with }
    exact hlapses.count_eq htables

/-- A watch is added and another one refused, a region is refused, and a read fails. -/
def besetting : List MonitorOp :=
  [.start, .addWatch 0x10 4 none, .addWatch 0x20 3 none, .addRegion ⟨0x2000000, 4⟩,
    .memory (.failAt 0x12), .read 0x12 1]

/-- The state after `besetting`. -/
def beset : Monitor := (run besetting (make {} 0)).state

/-- Two uses of save states that hardcore mode denies. -/
def barred : List MonitorOp := [.setHardcore true, .permits "load", .allows ⟨[]⟩ .save]

/-- When a write is noticed after `besetting`, the watch ends. Its failed read is counted with the one
before, and the two refusals under their kinds. In the run `barred` two denials are counted, one of
them as a header fault. -/
theorem tally_accounts_beset :
    let tally := (run (besetting ++ [.writeObserved 0x10 1]) (make {} 0)).state.tally
    tally.bounds.toNat = 1 ∧ tally.read.toNat = 2 ∧ tally.configuration.toNat = 1 ∧
      tally.deactivated.toNat = 1 ∧ tally.deactivated ≤ tally.read ∧
      (run barred (make {} 0)).state.tally.denied.toNat = 2 ∧
      (run barred (make {} 0)).state.tally.header.toNat = 1 := by
  intro tally
  have hnobody : (beset.notify 0x10 1).state.followUps = [] := rfl
  have hactive : beset.active = true := rfl
  have hnoticed : beset.step (.writeObserved 0x10 1) = answer .count (beset.notify 0x10 1) := by
    rw [step, writeObserved_of_unasked hactive hnobody]
  have htotal : ∀ count, total count (besetting ++ [.writeObserved 0x10 1]) (make {} 0) =
      total count besetting (make {} 0) + count beset (.writeObserved 0x10 1) := by
    intro count
    rw [total_append]
    rfl
  have hlapses : beset.lapses (.writeObserved 0x10 1) = 1 := by
    rw [lapses, hnoticed]
    rfl
  have hunheard : ((make {} 0).switchHardcore true).state.followUps = [] := rfl
  have hswitched : (make {} 0).step (.setHardcore true) =
      answer .flag ((make {} 0).switchHardcore true) := by
    simp only [step, setHardcore, settle_of_nil hunheard]
  obtain ⟨haccounted, -, hdeactivated, -⟩ :=
    tally_accounts {} 0 (besetting ++ [.writeObserved 0x10 1])
  obtain ⟨hbarred, -⟩ := tally_accounts {} 0 barred
  refine ⟨?_, ?_, ?_, ?_, hdeactivated, ?_, ?_⟩
  · rw [haccounted.bounds, htotal]
    rfl
  · rw [haccounted.read, htotal, htotal, hlapses]
    rfl
  · rw [haccounted.configuration, htotal]
    rfl
  · rw [haccounted.deactivated, htotal, hlapses]
    rfl
  · rw [hbarred.denied, barred, total, hswitched]
    rfl
  · rw [hbarred.header, barred, total, hswitched]
    rfl

end Monitor

end GuestWatch
