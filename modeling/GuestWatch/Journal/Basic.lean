import GuestWatch.Callback
import GuestWatch.Condition.Basic
import GuestWatch.Journal.Note
import GuestWatch.Watch.Change

set_option relaxedAutoImplicit false
set_option autoImplicit false

/-!
# Journals

Operations are functions: what they do besides changing their state is written into a journal and
handed back. A journal holds the commands that callbacks asked for, the calls of callbacks and of
host intercepts, and the notes for the log, each in the order in which they came about.

## Main definitions

* `GuestWatch.Event` — one call of a callback or of a host intercept.
* `GuestWatch.Journal` — commands, events and notes; journals are joined with `++`.
* `GuestWatch.Outcome` — the value of an operation, the state after it, and its journal.
* `GuestWatch.Callback.tellAll` — tells a message to callbacks, one after the other.

## Main results

* `GuestWatch.Journal.append_assoc` — joining journals is associative, with `{}` as its unit.
* `GuestWatch.Callback.totalRemaining_tellAll` — when callbacks ask for commands, a call is taken
  off those on which they may still ask. -/

namespace GuestWatch

/-- One call of a callback or of a host intercept, under the name of the one called. -/
inductive Event where
  /-- A watched value changed. -/
  | changed (name : String) (change : Change)
  /-- A condition was evaluated. -/
  | evaluated (name : String) (condition : Condition) (passed : Bool)
  /-- The mode was switched or achievements were disabled. -/
  | mode (name : String) (on : Bool)
  /-- An access was recorded. -/
  | recorded (name : String) (entry : StampedAccess)
  /-- An intercept of the host saw an access; `call` counts its calls from one. -/
  | intercepted (name : String) (address value : UInt32) (call : Nat)
  deriving DecidableEq, Repr

/-- What an operation did besides changing its state. -/
@[ext] structure Journal where
  /-- The commands that callbacks asked for. -/
  commands : List Command := []
  /-- The calls of callbacks and host intercepts. -/
  events : List Event := []
  /-- The notes for the log. -/
  notes : List Note := []
  deriving DecidableEq, Repr

namespace Journal

/-- One journal after the other. -/
def append (a b : Journal) : Journal :=
  ⟨a.commands ++ b.commands, a.events ++ b.events, a.notes ++ b.notes⟩

instance : Append Journal := ⟨append⟩

/-- The journal with one note. -/
def note (n : Note) : Journal := { notes := [n] }

/-- The journal with one event. -/
def event (e : Event) : Journal := { events := [e] }

@[simp] theorem commands_append (a b : Journal) :
    (a ++ b).commands = a.commands ++ b.commands := rfl

@[simp] theorem events_append (a b : Journal) : (a ++ b).events = a.events ++ b.events := rfl

@[simp] theorem notes_append (a b : Journal) : (a ++ b).notes = a.notes ++ b.notes := rfl

@[simp] theorem commands_note (n : Note) : (note n).commands = [] := rfl

@[simp] theorem events_note (n : Note) : (note n).events = [] := rfl

@[simp] theorem notes_note (n : Note) : (note n).notes = [n] := rfl

@[simp] theorem empty_append (a : Journal) : ({} : Journal) ++ a = a := by
  ext1 <;> simp

@[simp] theorem append_empty (a : Journal) : a ++ ({} : Journal) = a := by
  ext1 <;> simp

/-- Joining journals is associative. -/
theorem append_assoc (a b c : Journal) : a ++ b ++ c = a ++ (b ++ c) := by
  ext1 <;> simp

end Journal

/-- What an operation yields: its value, the state after it, and what else it did. -/
structure Outcome (σ α : Type) where
  /-- The value. -/
  value : α
  /-- The state afterwards. -/
  state : σ
  /-- What else happened. -/
  journal : Journal := {}

/-! ## Telling callbacks -/

namespace Callback

variable {α : Type}

/-- Tells a message to callbacks, in their order. `event` is the report of one call. -/
def tellAll (event : String → α → Event) (a : α) :
    List (Callback α) → Outcome (List (Callback α)) Unit
  | [] => ⟨(), [], {}⟩
  | c :: rest =>
    let told := tellAll event a rest
    ⟨(), (c.call a).2 :: told.state,
      { commands := (c.call a).1, events := [event c.name a] } ++ told.journal⟩

/-- Tells a message to a callback that may be absent. -/
def tell? (event : String → α → Event) (a : α) :
    Option (Callback α) → Outcome (Option (Callback α)) Unit
  | none => ⟨(), none, {}⟩
  | some c => ⟨(), some (c.call a).2, { commands := (c.call a).1, events := [event c.name a] }⟩

/-- On how many more calls callbacks may ask for commands, taken together. -/
def totalRemaining : List (Callback α) → Nat
  | [] => 0
  | c :: rest => c.remaining + totalRemaining rest

/-- When callbacks ask for commands, a call is taken off those on which they may still ask. -/
theorem totalRemaining_tellAll (event : String → α → Event) (a : α)
    (callbacks : List (Callback α)) :
    totalRemaining (tellAll event a callbacks).state
        + asking (tellAll event a callbacks).journal.commands
      ≤ totalRemaining callbacks := by
  induction callbacks with
  | nil => exact Nat.le_refl 0
  | cons c rest ih =>
    have hc := remaining_call c a
    have happ := asking_append_le (c.call a).1 (tellAll event a rest).journal.commands
    simp only [tellAll, totalRemaining, Journal.commands_append] at ih ⊢
    omega

end Callback

end GuestWatch
