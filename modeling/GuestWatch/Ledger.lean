import GuestWatch.Address.Range
import GuestWatch.Journal.Basic

set_option relaxedAutoImplicit false
set_option autoImplicit false

/-!
# The access ledger

The ledger remembers the last accesses, newest first, up to a limit. A record is stamped with the
reading of the clock, or with the stamp of the record before it when the clock has gone back, so
that stamps never rise from a record to an older one. A recency query may stop at the first record
that is too old.

## Main definitions

* `GuestWatch.Ledger` — the records with their limit, clock and callbacks.
* `GuestWatch.Ledger.track` — records an access.
* `GuestWatch.Ledger.hasRecent`, `GuestWatch.Ledger.count` — queries for a range.
* `GuestWatch.Ledger.step` — the operations on a ledger as one function on `LedgerOp`.

## Main results

* `GuestWatch.Ledger.length_history_track_le` — recording an access keeps the limit.
-/

namespace GuestWatch

/-- The limit of a ledger that nobody gave one. -/
def Ledger.usualLimit : Nat := 1000

/-- The last accesses, newest first. -/
structure Ledger where
  /-- The records, newest first. -/
  history : List StampedAccess := []
  /-- The names of the callbacks that are told each record. -/
  callbacks : List String := []
  /-- The greatest number of records kept. -/
  limit : Nat := Ledger.usualLimit
  /-- Whether accesses are recorded. -/
  tracking : Bool := true
  /-- The reading of the clock. -/
  now : UInt64 := 0
  deriving DecidableEq, Repr

namespace Ledger

/-- The stamp of a record made now: the reading of the clock, but not below the newest stamp. -/
def stamp (ledger : Ledger) : UInt64 :=
  match ledger.history with
  | [] => ledger.now
  | newest :: _ => max ledger.now newest.timestamp

/-- The ledger with a record added and the oldest ones over the limit dropped. -/
def push (ledger : Ledger) (entry : StampedAccess) : Ledger :=
  { ledger with history := (entry :: ledger.history).take ledger.limit }

/-- Records an access, unless recording is switched off or the range is not a legal one. Every
callback is told the record, also when the limit is zero. -/
def track (ledger : Ledger) (access : Access) : Outcome Ledger Unit :=
  if ledger.tracking then
    match checkRange access.address access.size with
    | .error fault => ⟨(), ledger, Journal.note (.accessRefused fault)⟩
    | .ok _ =>
      let entry : StampedAccess := { access with timestamp := ledger.stamp }
      ⟨(), ledger.push entry,
        { events := ledger.callbacks.map fun name => .recorded name entry
          notes := [.accessRecorded access] }⟩
  else ⟨(), ledger, {}⟩

/-- Drops every record. -/
def clear (ledger : Ledger) : Ledger := { ledger with history := [] }

/-- Changes the limit and drops the oldest records over it. -/
def setLimit (ledger : Ledger) (limit : Nat) : Ledger :=
  { ledger with limit, history := ledger.history.take limit }

/-- Switches recording; switching it off drops every record. -/
def enableTracking (ledger : Ledger) (on : Bool) : Ledger :=
  if on then { ledger with tracking := true } else { ledger with tracking := false, history := [] }

/-- Adds a callback. -/
def addCallback (ledger : Ledger) (name : String) : Ledger :=
  { ledger with callbacks := ledger.callbacks ++ [name] }

/-- Removes every callback. -/
def removeCallbacks (ledger : Ledger) : Ledger := { ledger with callbacks := [] }

/-- Sets the clock. -/
def setClock (ledger : Ledger) (now : UInt64) : Ledger := { ledger with now }

/-- How long ago a record was made; a record from the future was made just now. -/
def age (ledger : Ledger) (entry : StampedAccess) : Nat :=
  ledger.now.toNat - entry.timestamp.toNat

/-- Whether a record that is no older than `window` touches a range. The search ends at the first
record that is older. -/
def hasRecent (ledger : Ledger) (address size : UInt32) (window : UInt64) : Bool :=
  (ledger.history.takeWhile fun entry => ledger.age entry ≤ window.toNat).any
    fun entry => entry.overlaps address size

/-- How many records touch a range. -/
def count (ledger : Ledger) (address size : UInt32) : Nat :=
  ledger.history.countP fun entry => entry.overlaps address size

/-- A ledger on one line. -/
def text (ledger : Ledger) : String :=
  Text.openRecord "AccessLedger" [("records", Nat.repr ledger.history.length),
    ("callbacks", Nat.repr ledger.callbacks.length), ("limit", Nat.repr ledger.limit),
    ("tracking", Text.flag ledger.tracking)]

end Ledger

/-! ## Operations as data -/

/-- An operation on a ledger. -/
inductive LedgerOp where
  /-- Records an access. -/
  | track (access : Access)
  /-- Drops every record. -/
  | clear
  /-- Changes the limit. -/
  | setLimit (limit : Nat)
  /-- Switches recording. -/
  | enableTracking (on : Bool)
  /-- Adds a callback. -/
  | addCallback (name : String)
  /-- Removes every callback. -/
  | removeCallbacks
  /-- Sets the clock. -/
  | setClock (now : UInt64)
  deriving DecidableEq, Repr

namespace Ledger

/-- Carries out an operation on a ledger. -/
def step (ledger : Ledger) : LedgerOp → Outcome Ledger Unit
  | .track access => ledger.track access
  | .clear => ⟨(), ledger.clear, {}⟩
  | .setLimit limit => ⟨(), ledger.setLimit limit, {}⟩
  | .enableTracking on => ⟨(), ledger.enableTracking on, {}⟩
  | .addCallback name => ⟨(), ledger.addCallback name, {}⟩
  | .removeCallbacks => ⟨(), ledger.removeCallbacks, {}⟩
  | .setClock now => ⟨(), ledger.setClock now, {}⟩

/-- Recording an access asks for no command. -/
@[simp] theorem commands_track (ledger : Ledger) (access : Access) :
    (ledger.track access).journal.commands = [] := by
  unfold track
  split
  · split <;> rfl
  · rfl

/-- Recording an access keeps the limit. -/
theorem length_history_track_le (ledger : Ledger) (access : Access)
    (h : ledger.history.length ≤ ledger.limit) :
    (ledger.track access).state.history.length ≤ ledger.limit := by
  unfold track
  split
  · split
    · exact h
    · simp only [push, List.length_take]
      omega
  · exact h

end Ledger

end GuestWatch
