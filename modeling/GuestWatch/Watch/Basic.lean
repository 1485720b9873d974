import GuestWatch.Memory.Probe

set_option relaxedAutoImplicit false
set_option autoImplicit false

/-!
# Watches

A watch remembers the value of a few bytes. A refresh reads them again: a new value is remembered
and told to the callback of the watch, and a failed read ends the watch.

## Main definitions

* `GuestWatch.Watch` — an address, a width and the last value seen there.
* `GuestWatch.Watch.refresh` — reads a watch again, with a `Verdict`.
-/

namespace GuestWatch

/-- The widths a watch may have. -/
def Watch.widths : List UInt32 := [1, 2, 4, 8]

/-- A watched stretch of memory. -/
structure Watch where
  /-- The watched address. -/
  address : UInt32
  /-- The watched width in bytes. -/
  size : UInt32
  /-- The value seen last. -/
  lastValue : UInt32
  /-- A watch whose read failed is no longer active. -/
  active : Bool := true
  /-- Who is told about changes. -/
  callback : Option (Callback Change) := none

/-- What a refresh found. -/
inductive Verdict where
  /-- The value is the one seen last. -/
  | steady
  /-- The value is a new one. -/
  | changed (change : Change)
  /-- The value cannot be read. -/
  | failed (fault : Fault)
  deriving DecidableEq, Repr

namespace Watch

variable {β : Type} [GuestMemory β]

/-- The change to a new value. -/
def changeTo (w : Watch) (value : UInt32) : Change := ⟨w.address, w.size, w.lastValue, value⟩

/-- Ends a watch because of a fault, which is noted and counted. -/
def deactivate (w : Watch) (probe : Probe β) (fault : Fault) : Outcome (Watch × Probe β) Unit :=
  let charged := probe.record fault
  ⟨(), ({ w with active := false },
      { charged with tally := charged.tally.countEnded }),
    Journal.note (.watchDeactivated w.address fault)⟩

/-- Reads a watch again. A new value is remembered before the callback is told about it. -/
def refresh (w : Watch) (probe : Probe β) : Outcome (Watch × Probe β) Verdict :=
  let tried := probe.attempt w.address w.size
  match tried.value with
  | .error fault =>
    let ended := w.deactivate tried.state fault
    ⟨.failed fault, ended.state, tried.journal ++ ended.journal⟩
  | .ok value =>
    if value = w.lastValue then ⟨.steady, (w, tried.state), tried.journal⟩
    else
      let change := w.changeTo value
      let told := Callback.tell? Event.changed change w.callback
      ⟨.changed change, ({ w with lastValue := value, callback := told.state }, tried.state),
        tried.journal ++ told.journal⟩

/-- A watch on one line. -/
def text (w : Watch) : String :=
  Text.record "Watch" [("address", Hex.address w.address), ("size", Text.word w.size),
    ("last_value", Text.word w.lastValue), ("active", Text.flag w.active),
    ("callback", Text.flag w.callback.isSome)]

end Watch

end GuestWatch
