import GuestWatch.Fault.Basic
import GuestWatch.Word

set_option relaxedAutoImplicit false
set_option autoImplicit false

/-!
# Fault counters

Every fault that is met is counted under its kind, and the last one is remembered. Two further
counters tell how many watches were given up and how many uses of a save state were refused. All
counters saturate.

## Main definitions

* `GuestWatch.Tally` — the counters, with `record`, `countEnded`, `countDenied` and `reset`.
* `GuestWatch.Tally.count` — the counter of a kind.
* `GuestWatch.Tally.total` — the saturating sum of the kinds.

## Main results

* `GuestWatch.Tally.count_record` — recording a fault raises the counter of its kind and
  no other.
* `GuestWatch.Tally.count_reset` — after a reset nothing is counted.
-/

namespace GuestWatch

/-- Saturating counters of faults. -/
structure Tally where
  /-- The kind of the last fault. -/
  lastKind : Option FaultKind := none
  /-- The address of the last fault, when it had one. -/
  lastAddress : Option UInt32 := none
  /-- Bounds faults. -/
  bounds : UInt32 := 0
  /-- Read faults. -/
  read : UInt32 := 0
  /-- Header faults. -/
  header : UInt32 := 0
  /-- Configuration faults. -/
  configuration : UInt32 := 0
  /-- Watches given up because their memory could not be read. -/
  deactivated : UInt32 := 0
  /-- Uses of a save state refused. -/
  denied : UInt32 := 0
  deriving DecidableEq, Repr

namespace Tally

/-- The counter of a fault kind. -/
def count (t : Tally) : FaultKind → UInt32
  | .bounds => t.bounds
  | .read => t.read
  | .header => t.header
  | .configuration => t.configuration

/-- Counts one more fault of a kind. -/
def countUp (t : Tally) : FaultKind → Tally
  | .bounds => { t with bounds := Word.satAdd t.bounds 1 }
  | .read => { t with read := Word.satAdd t.read 1 }
  | .header => { t with header := Word.satAdd t.header 1 }
  | .configuration => { t with configuration := Word.satAdd t.configuration 1 }

/-- Counts a fault under its kind and remembers it as the last one. -/
def record (t : Tally) (fault : Fault) : Tally :=
  { t.countUp fault.kind with lastKind := some fault.kind, lastAddress := fault.address? }

/-- Counts a watch that was given up. -/
def countEnded (t : Tally) : Tally :=
  { t with deactivated := Word.satAdd t.deactivated 1 }

/-- Counts a use of a save state that was refused. -/
def countDenied (t : Tally) : Tally :=
  { t with denied := Word.satAdd t.denied 1 }

/-- Forgets all that was counted, and the last fault. -/
def reset (_ : Tally) : Tally := {}

/-- The number of faults of all kinds. -/
def total (t : Tally) : UInt32 :=
  Word.satAdd (Word.satAdd (Word.satAdd t.bounds t.read) t.header) t.configuration

/-- Recording a fault raises the counter of its kind and no other. -/
theorem count_record (t : Tally) (fault : Fault) (k : FaultKind) :
    (t.record fault).count k =
      if fault.kind = k then Word.satAdd (t.count k) 1 else t.count k := by
  cases hk : fault.kind <;> cases k <;> simp [record, countUp, count, hk]

/-- After a reset no fault of any kind is counted. -/
@[simp] theorem count_reset (t : Tally) (k : FaultKind) : t.reset.count k = 0 := by
  cases k <;> rfl

end Tally

end GuestWatch
