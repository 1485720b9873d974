import GuestWatch.Ledger
import GuestWatch.Proofs.Address
import Mathlib.Data.List.Induction

set_option relaxedAutoImplicit false
set_option autoImplicit false

/-!
# What a ledger retains

A ledger drops the oldest records over its limit as it goes, and forgets them. What it holds after a
run is described without any dropping: by the accesses that were accepted since the last clear,
newest first, of which it holds a first part. How long that part is depends on the whole run. A
record that was pushed out while the limit was low does not come back when the limit is raised, so a
record is still held exactly when at no moment since its acceptance as many accesses had been
accepted after it as the limit then allowed.

## Main definitions

* `GuestWatch.Journal.accepted` — the accesses that were recorded.
* `GuestWatch.Ledger.run` — carries out operations on a ledger, one after the other.
* `GuestWatch.Ledger.Chronicle` — what a run asks of a ledger, with all that it accepted.
* `GuestWatch.Ledger.Follows` — a ledger that does what is asked.
* `GuestWatch.Ledger.Within` — a run in which a record is never pushed out.

## Main results

* `GuestWatch.Ledger.Follows.step`, `GuestWatch.Ledger.follows_run` — every operation, and so every
  run, does what is asked.
* `GuestWatch.Ledger.getElem?_step` — where a record is after an operation.
* `GuestWatch.Ledger.getElem?_run` — where a record is after a run.
* `GuestWatch.Ledger.retention` — what a ledger holds and tells, over whole runs.
-/

namespace GuestWatch

/-- The access that a note says was recorded. -/
def Note.accepted? : Note → Option Access
  | .accessRecorded access => some access
  | _ => none

/-- The accesses that were recorded, oldest first. -/
def Journal.accepted (j : Journal) : List Access := j.notes.filterMap Note.accepted?

@[simp] lemma Journal.accepted_append (a b : Journal) :
    (a ++ b).accepted = a.accepted ++ b.accepted := List.filterMap_append

/-- Whether an operation drops every record, whatever the limit. -/
def LedgerOp.clears : LedgerOp → Bool
  | .clear => true
  | .enableTracking on => !on
  | _ => false

namespace Ledger

/-- A ledger that nothing has been done with. -/
def fresh (now : UInt64) : Ledger := { now }

/-- Carries out operations on a ledger, one after the other. -/
def run : List LedgerOp → Ledger → Outcome Ledger Unit
  | [], ledger => ⟨(), ledger, {}⟩
  | op :: rest, ledger =>
    let head := ledger.step op
    let tail := run rest head.state
    ⟨(), tail.state, head.journal ++ tail.journal⟩

/-- A run may be interrupted. -/
lemma run_append (first later : List LedgerOp) (ledger : Ledger) :
    run (first ++ later) ledger =
      ⟨(), (run later (run first ledger).state).state,
        (run first ledger).journal ++ (run later (run first ledger).state).journal⟩ := by
  induction first generalizing ledger with
  | nil => simp only [List.nil_append, run, Journal.empty_append]
  | cons op rest ih => simp only [List.cons_append, run, ih, Journal.append_assoc]

/-- A run that goes on for one more operation. -/
lemma run_concat (ops : List LedgerOp) (op : LedgerOp) (ledger : Ledger) :
    run (ops ++ [op]) ledger =
      ⟨(), ((run ops ledger).state.step op).state,
        (run ops ledger).journal ++ ((run ops ledger).state.step op).journal⟩ := by
  rw [run_append]
  simp only [run, Journal.append_empty]

/-! ## What is asked -/

/-- What a run asks of a ledger. Nothing is dropped for the limit here. -/
structure Chronicle where
  /-- The accesses accepted since the last clear, newest first. -/
  accepted : List Access := []
  /-- The callbacks that are registered, in the order in which they were. -/
  callbacks : List String := []
  /-- The limit in force. -/
  limit : Nat := usualLimit
  /-- Whether accesses are to be recorded. -/
  tracking : Bool := true
  deriving DecidableEq, Repr

namespace Chronicle

/-- An access is to be recorded while recording is switched on, if its range is legal. -/
def Accepts (c : Chronicle) (access : Access) : Prop :=
  c.tracking = true ∧ Legal access.address access.size

instance (c : Chronicle) (access : Access) : Decidable (c.Accepts access) :=
  inferInstanceAs (Decidable (_ ∧ _))

/-- What is asked once one more operation was. -/
def next (c : Chronicle) : LedgerOp → Chronicle
  | .track access => if c.Accepts access then { c with accepted := access :: c.accepted } else c
  | .clear => { c with accepted := [] }
  | .setLimit limit => { c with limit }
  | .enableTracking on =>
    { c with tracking := on, accepted := if on then c.accepted else [] }
  | .addCallback name => { c with callbacks := c.callbacks ++ [name] }
  | .removeCallbacks => { c with callbacks := [] }
  | .setClock _ => c

/-- What a run asks of a ledger that nothing has been done with. -/
def of (ops : List LedgerOp) : Chronicle := ops.foldl next {}

end Chronicle

/-- A ledger that does what is asked of it. Its records are the newest of the accesses that were
accepted since the last clear, without a gap, and never more than the limit. -/
structure Follows (ledger : Ledger) (c : Chronicle) : Prop where
  /-- Recording is switched as asked. -/
  tracking : ledger.tracking = c.tracking
  /-- The limit is the one asked for. -/
  limit : ledger.limit = c.limit
  /-- The callbacks are those that were registered. -/
  callbacks : ledger.callbacks = c.callbacks
  /-- The records are the newest accesses accepted. -/
  records : ledger.history.map StampedAccess.toAccess <+: c.accepted
  /-- The limit holds. -/
  bounded : ledger.history.length ≤ ledger.limit
  /-- While recording is switched off there is no record. -/
  silent : ledger.tracking = false → ledger.history = []

/-! ## Recording -/

/-- What recording an access does, where it is to be recorded. -/
lemma track_of_legal {ledger : Ledger} {access : Access} (htracking : ledger.tracking = true)
    (hlegal : Legal access.address access.size) :
    ledger.track access = ⟨(), ledger.push { access with timestamp := ledger.stamp },
      { events := ledger.callbacks.map fun name =>
          .recorded name { access with timestamp := ledger.stamp }
        notes := [.accessRecorded access] }⟩ := by
  obtain ⟨w, hrange⟩ := legal_iff.mp hlegal
  simp only [track, htracking, if_true, hrange]

/-- Where an access is not to be recorded nothing changes, and nobody is told. -/
lemma track_of_not_legal {ledger : Ledger} {access : Access}
    (h : ¬ (ledger.tracking = true ∧ Legal access.address access.size)) :
    (ledger.track access).state = ledger ∧ (ledger.track access).journal.events = [] ∧
      (ledger.track access).journal.accepted = [] := by
  unfold track
  split
  · rename_i htracking
    split
    · exact ⟨rfl, rfl, rfl⟩
    · rename_i w hrange
      exact absurd ⟨htracking, legal_iff.mpr ⟨w, hrange⟩⟩ h
  · exact ⟨rfl, rfl, rfl⟩

/-- An operation keeps the limit. -/
lemma bounded_step {ledger : Ledger} (h : ledger.history.length ≤ ledger.limit) (op : LedgerOp) :
    (ledger.step op).state.history.length ≤ (ledger.step op).state.limit := by
  cases op with
  | track access =>
    have hlimit : (ledger.track access).state.limit = ledger.limit := by
      unfold track
      split
      · split <;> rfl
      · rfl
    exact le_of_le_of_eq (ledger.length_history_track_le access h) hlimit.symm
  | clear => exact Nat.zero_le _
  | setLimit limit => exact List.length_take_le _ _
  | enableTracking on =>
    cases on with
    | true => exact h
    | false => exact Nat.zero_le _
  | _ => exact h

/-- So does a run. -/
lemma bounded_run {ledger : Ledger} (h : ledger.history.length ≤ ledger.limit)
    (ops : List LedgerOp) :
    (run ops ledger).state.history.length ≤ (run ops ledger).state.limit := by
  induction ops generalizing ledger with
  | nil => exact h
  | cons op rest ih => exact ih (bounded_step h op)

/-- Once a record is pushed, the records are again the newest accesses, its own being the first. -/
lemma Follows.push {ledger : Ledger} {c : Chronicle} (h : ledger.Follows c) (entry : StampedAccess) :
    (ledger.push entry).history.map StampedAccess.toAccess <+: entry.toAccess :: c.accepted := by
  have hall : (entry :: ledger.history).map StampedAccess.toAccess <+:
      entry.toAccess :: c.accepted := List.cons_prefix_cons.mpr ⟨rfl, h.records⟩
  exact ((List.take_prefix ledger.limit (entry :: ledger.history)).map _).trans hall

/-- **Every operation does what is asked.** -/
theorem Follows.step {ledger : Ledger} {c : Chronicle} (h : ledger.Follows c) (op : LedgerOp) :
    (ledger.step op).state.Follows (c.next op) := by
  have hbounded := bounded_step h.bounded op
  cases op with
  | track access =>
    simp only [Chronicle.next]
    split
    · rename_i haccepts
      have htracking : ledger.tracking = true := h.tracking.trans haccepts.1
      simp only [Ledger.step, track_of_legal htracking haccepts.2] at hbounded ⊢
      refine ⟨h.tracking, h.limit, h.callbacks, h.push _, hbounded, fun hoff => ?_⟩
      exact absurd (htracking.symm.trans hoff) (by decide)
    · rename_i hrefused
      rw [Chronicle.Accepts, ← h.tracking] at hrefused
      simp only [Ledger.step, (track_of_not_legal hrefused).1]
      exact h
  | clear => exact ⟨h.tracking, h.limit, h.callbacks, List.nil_prefix, hbounded, fun _ => rfl⟩
  | setLimit limit =>
    refine ⟨h.tracking, rfl, h.callbacks, ?_, hbounded, fun hoff => ?_⟩
    · exact ((List.take_prefix limit ledger.history).map _).trans h.records
    · simp only [Ledger.step, setLimit, h.silent hoff, List.take_nil]
  | enableTracking on =>
    cases on with
    | true => exact ⟨rfl, h.limit, h.callbacks, h.records, hbounded, fun hoff => by cases hoff⟩
    | false => exact ⟨rfl, h.limit, h.callbacks, List.nil_prefix, hbounded, fun _ => rfl⟩
  | addCallback name =>
    refine ⟨h.tracking, h.limit, ?_, h.records, hbounded, h.silent⟩
    exact congrArg (· ++ [name]) h.callbacks
  | removeCallbacks => exact ⟨h.tracking, h.limit, rfl, h.records, hbounded, h.silent⟩
  | setClock now => exact ⟨h.tracking, h.limit, h.callbacks, h.records, hbounded, h.silent⟩

/-- **So does every run.** -/
theorem follows_run (now : UInt64) (ops : List LedgerOp) :
    (run ops (fresh now)).state.Follows (Chronicle.of ops) := by
  induction ops using List.reverseRecOn with
  | nil => exact ⟨rfl, rfl, rfl, List.nil_prefix, Nat.zero_le _, fun _ => rfl⟩
  | append_singleton ops op ih =>
    rw [run_concat, Chronicle.of, List.foldl_append]
    exact ih.step op

/-! ## Where a record is -/

/-- What is at a place of a list that is no longer than a limit. -/
private lemma getElem?_of_bounded {records : List StampedAccess} {limit : Nat}
    (h : records.length ≤ limit) (k : Nat) :
    records[k]? = if k < limit then records[k]? else none := by
  split
  · rfl
  · exact List.getElem?_eq_none (by omega)

/-- **Where a record is after an operation** that does not clear: one further back if an access was
accepted, and gone if it would be beyond the limit. -/
theorem getElem?_step {ledger : Ledger} (h : ledger.history.length ≤ ledger.limit) {op : LedgerOp}
    (hkeeps : op.clears = false) (k : Nat) :
    (ledger.step op).state.history[k + (ledger.step op).journal.accepted.length]? =
      if k + (ledger.step op).journal.accepted.length < (ledger.step op).state.limit then
        ledger.history[k]? else none := by
  cases op with
  | track access =>
    by_cases haccepted : ledger.tracking = true ∧ Legal access.address access.size
    · simp only [step, track_of_legal haccepted.1 haccepted.2, push, Journal.accepted,
        Note.accepted?, List.filterMap_cons, List.filterMap_nil, List.length_singleton,
        List.getElem?_take, List.getElem?_cons_succ]
    · obtain ⟨hstate, -, hnone⟩ := track_of_not_legal haccepted
      simp only [step, hstate, hnone, List.length_nil, Nat.add_zero]
      exact getElem?_of_bounded h k
  | clear => cases hkeeps
  | setLimit limit => exact List.getElem?_take
  | enableTracking on =>
    cases on with
    | true => exact getElem?_of_bounded h k
    | false => cases hkeeps
  | _ => exact getElem?_of_bounded h k

/-- At every moment of a run, fewer accesses have been accepted since its beginning than the limit
then in force. So the record that was the newest at its beginning is never pushed out. -/
def Within (ledger : Ledger) (later : List LedgerOp) : Prop :=
  ∀ early, early <+: later →
    (run early ledger).journal.accepted.length < (run early ledger).state.limit

/-- A run of one more operation pushes the record out if it did before, or if it does now. -/
lemma within_concat {ledger : Ledger} {later : List LedgerOp} {op : LedgerOp} :
    ledger.Within (later ++ [op]) ↔ ledger.Within later ∧
      (run (later ++ [op]) ledger).journal.accepted.length <
        (run (later ++ [op]) ledger).state.limit := by
  constructor
  · intro h
    exact ⟨fun early hearly => h early (hearly.trans (List.prefix_append later [op])),
      h _ List.prefix_rfl⟩
  · rintro ⟨hbefore, hnow⟩ early hearly
    rcases List.prefix_concat_iff.mp hearly with rfl | hpart
    · exact hnow
    · exact hbefore early hpart

/-- **Where a record is after a run** that does not clear. The record that was the newest is behind
those accepted since, unless at some moment there were as many of them as the limit.

**Proof sketch.** By induction on the run from its end. If the record was in its place before the
last operation, that operation leaves it unless it puts it beyond the limit. If it was gone, no
operation brings it back. -/
theorem getElem?_run {ledger : Ledger} (h : ledger.history.length ≤ ledger.limit)
    {entry : StampedAccess} (hnewest : 0 < ledger.limit → ledger.history[0]? = some entry)
    {later : List LedgerOp} (hkeeps : later.any LedgerOp.clears = false) :
    (ledger.Within later →
        (run later ledger).state.history[(run later ledger).journal.accepted.length]? =
          some entry) ∧
      (¬ ledger.Within later →
        (run later ledger).state.history[(run later ledger).journal.accepted.length]? = none) := by
  induction later using List.reverseRecOn with
  | nil =>
    have hwithin : ledger.Within [] ↔ 0 < ledger.limit :=
      ⟨fun hall => hall [] List.prefix_rfl, fun hpos early hearly => by
        rw [List.prefix_nil.mp hearly]
        exact hpos⟩
    rw [hwithin]
    refine ⟨hnewest, fun hzero => List.getElem?_eq_none ?_⟩
    exact Nat.le_trans h (Nat.not_lt.mp hzero)
  | append_singleton later op ih =>
    simp only [List.any_append, List.any_cons, List.any_nil, Bool.or_false,
      Bool.or_eq_false_iff] at hkeeps
    obtain ⟨hheld, hgone⟩ := ih hkeeps.1
    have hplace := getElem?_step (bounded_run h later) hkeeps.2
      (run later ledger).journal.accepted.length
    rw [within_concat]
    simp only [run_concat, Journal.accepted_append, List.length_append, hplace]
    refine ⟨fun ⟨hbefore, hnow⟩ => ?_, fun hout => ?_⟩
    · rw [if_pos hnow, hheld hbefore]
    · split
      · rename_i hnow
        exact hgone fun hbefore => hout ⟨hbefore, hnow⟩
      · rfl

/-! ## Over whole runs -/

/-- Only recording an access tells the callbacks anything. -/
lemma events_step {ledger : Ledger} {op : LedgerOp} (h : ∀ access, op ≠ .track access) :
    (ledger.step op).journal.events = [] := by
  cases op with
  | track access => exact absurd rfl (h access)
  | _ => rfl

/-- **What a ledger holds and tells, over whole runs.** After any operations it does what they ask:
its records are the newest of the accesses that were accepted since the last clear, without a gap,
never more than the limit, and none while recording is switched off. A limit that is raised brings
no record back. The next access is accepted exactly when recording is switched on and its range is
legal. If it is not, nothing changes and nobody is told. If it is, every callback registered at that
time is told of it once, in the order of registration and whatever the limit, and nothing else tells
them anything. From then on, early a clear, its record is behind those accepted after it as long as
at every moment there were fewer of these than the limit then in force, and gone once there were
not.

**Proof sketch.** The first part is kept by every operation. Where an access is accepted, its record
is the newest, unless the limit is zero, and the rest is where a run puts that record. -/
theorem retention (now : UInt64) (ops : List LedgerOp) :
    let ledger := (run ops (fresh now)).state
    let chronicle := Chronicle.of ops
    ledger.Follows chronicle ∧
      (∀ limit, ledger.limit ≤ limit →
        (ledger.step (.setLimit limit)).state.history = ledger.history) ∧
      (∀ op, (∀ access, op ≠ .track access) → (ledger.step op).journal.events = []) ∧
      ∀ access,
        let offered := ledger.step (.track access)
        (¬ chronicle.Accepts access → offered.state = ledger ∧ offered.journal.events = [] ∧
          offered.journal.accepted = []) ∧
        (chronicle.Accepts access → ∃ entry : StampedAccess, entry.toAccess = access ∧
          offered.journal.events = chronicle.callbacks.map (fun name => .recorded name entry) ∧
          offered.journal.accepted = [access] ∧
          ∀ later : List LedgerOp, later.any LedgerOp.clears = false →
            let after := run later offered.state
            let place := after.journal.accepted.length
            (after.state.history[place]? = some entry ↔ offered.state.Within later) ∧
              (after.state.history[place]? = none ↔ ¬ offered.state.Within later)) := by
  intro ledger chronicle
  have hfollows : ledger.Follows chronicle := follows_run now ops
  refine ⟨hfollows, fun limit hraised => ?_, fun op hop => events_step hop, fun access => ?_⟩
  · exact List.take_of_length_le (Nat.le_trans hfollows.bounded hraised)
  intro offered
  have haccepts : chronicle.Accepts access ↔
      (ledger.tracking = true ∧ Legal access.address access.size) := by
    rw [Chronicle.Accepts, hfollows.tracking]
  refine ⟨fun hrefused => track_of_not_legal fun h => hrefused (haccepts.mpr h), fun haccepted => ?_⟩
  obtain ⟨htracking, hlegal⟩ := haccepts.mp haccepted
  have hoffered : offered = _ := track_of_legal htracking hlegal
  refine ⟨{ access with timestamp := ledger.stamp }, rfl, ?_, ?_, fun later hkeeps => ?_⟩
  · rw [hoffered, hfollows.callbacks]
  · rw [hoffered]
    rfl
  intro after place
  have hnewest : 0 < offered.state.limit →
      offered.state.history[0]? = some { access with timestamp := ledger.stamp } := by
    rw [hoffered]
    intro hpos
    have hlimit : 0 < ledger.limit := hpos
    simp only [push, List.getElem?_take, hlimit, if_true, List.getElem?_cons_zero]
  have hbounded : offered.state.history.length ≤ offered.state.limit :=
    bounded_step hfollows.bounded (.track access)
  obtain ⟨hheld, hgone⟩ := getElem?_run hbounded hnewest hkeeps
  refine ⟨⟨fun hstored => ?_, hheld⟩, fun hnone hwithin => ?_, hgone⟩
  · by_contra hout
    rw [hgone hout] at hstored
    cases hstored
  · rw [hheld hwithin] at hnone
    cases hnone

/-- Two accesses are recorded with a limit of two, which is then lowered to one and raised again.
The callback was told of the first one, and its record is gone for good. -/
theorem retention_lowered :
    let first : Access := ⟨0x1000, 4, 7, .write⟩
    let offered := (run [.addCallback "audit", .setLimit 2] (fresh 0)).state.step (.track first)
    let later : List LedgerOp := [.track ⟨0x2000, 4, 8, .write⟩, .setLimit 1, .setLimit 2]
    (∃ entry : StampedAccess, entry.toAccess = first ∧
        offered.journal.events = [.recorded "audit" entry]) ∧
      (run later offered.state).state.history[1]? = none ∧
      (run later offered.state).state.limit = 2 := by
  intro first offered later
  have haccepts : (Chronicle.of [.addCallback "audit", .setLimit 2]).Accepts first :=
    ⟨rfl, by decide, by decide, .ram, by decide, by decide⟩
  obtain ⟨entry, hentry, hevents, -, hplace⟩ :=
    ((retention 0 [.addCallback "audit", .setLimit 2]).2.2.2 first).2 haccepts
  have hout : ¬ offered.state.Within later := fun hwithin => by
    have hlowered := hwithin [.track ⟨0x2000, 4, 8, .write⟩, .setLimit 1] ⟨[.setLimit 2], rfl⟩
    revert hlowered
    decide
  exact ⟨⟨entry, hentry, hevents⟩, (hplace later rfl).2.mpr hout, rfl⟩

end Ledger

end GuestWatch
