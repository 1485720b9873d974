import GuestWatch.Journal.Basic
import Mathlib.Tactic.Lemma

set_option relaxedAutoImplicit false
set_option autoImplicit false

/-!
# What a journal tells about watches and commands

Of all that a journal holds, the theory of the monitor looks at four things: the commands that
callbacks asked for, the changes that were told to the callbacks of watches, the watches that were
given up, and the commands that were carried out.

## Main definitions

* `GuestWatch.Journal.changes` — the changes told to callbacks of watches, with the callbacks'
  names.
* `GuestWatch.Journal.endings` — the watches that were given up, with the faults.
* `GuestWatch.Journal.changesAt`, `GuestWatch.Journal.endingsAt` — of these, those at an address.
* `GuestWatch.Journal.applied` — the commands that were carried out.
* `GuestWatch.Journal.Calm` — a journal that tells nothing about watches and carries out no command.
* `GuestWatch.Journal.Quiet` — a calm journal in which no command is asked for either.
* `GuestWatch.Journal.Plain` — a journal of calls and notes that lead to nothing else.
-/

namespace GuestWatch

/-- The change an event tells to the callback of a watch, with the name of the callback. -/
def Event.change? : Event → Option (String × Change)
  | .changed name change => some (name, change)
  | _ => none

/-- The watch a note gives up, by its address, with the fault. -/
def Note.ending? : Note → Option (UInt32 × Fault)
  | .watchDeactivated address fault => some (address, fault)
  | _ => none

/-- The command whose carrying out is noted. -/
def Note.applied? : Note → Option Command
  | .commandApplied command => some command
  | _ => none

/-- Whether an event is a call from which nothing follows: that of a callback of the ledger or of an
intercept of the host. -/
def Event.plain : Event → Bool
  | .recorded .. | .intercepted .. => true
  | _ => false

/-- Whether a note is about none of the things that the theory looks at: the end of a watch, a
command that is carried out, a switch of hardcore mode, and the end of achievements. -/
def Note.plain : Note → Bool
  | .watchDeactivated .. | .commandApplied _ | .hardcoreSwitched _ | .achievementsDisabled => false
  | _ => true

namespace Journal

/-- The changes told to callbacks of watches, with the names of the callbacks. -/
def changes (j : Journal) : List (String × Change) := j.events.filterMap Event.change?

/-- The watches that were given up, by their addresses, with the faults. -/
def endings (j : Journal) : List (UInt32 × Fault) := j.notes.filterMap Note.ending?

/-- The commands that were carried out. -/
def applied (j : Journal) : List Command := j.notes.filterMap Note.applied?

@[simp] lemma applied_empty : ({} : Journal).applied = [] := rfl

@[simp] lemma changes_append (a b : Journal) : (a ++ b).changes = a.changes ++ b.changes :=
  List.filterMap_append

@[simp] lemma endings_append (a b : Journal) : (a ++ b).endings = a.endings ++ b.endings :=
  List.filterMap_append

@[simp] lemma applied_append (a b : Journal) : (a ++ b).applied = a.applied ++ b.applied :=
  List.filterMap_append

@[simp] lemma changes_note (n : Note) : (note n).changes = [] := rfl

/-- Of changes told to callbacks of watches, those at an address. -/
def changesAt (address : UInt32) (changes : List (String × Change)) : List (String × Change) :=
  changes.filter fun told => told.2.address == address

/-- Of watches that were given up, those at an address. -/
def endingsAt (address : UInt32) (endings : List (UInt32 × Fault)) : List (UInt32 × Fault) :=
  endings.filter fun ended => ended.1 == address

@[simp] lemma changesAt_nil (address : UInt32) : changesAt address [] = [] := rfl

@[simp] lemma endingsAt_nil (address : UInt32) : endingsAt address [] = [] := rfl

@[simp] lemma changesAt_append (address : UInt32) (first second : List (String × Change)) :
    changesAt address (first ++ second) = changesAt address first ++ changesAt address second :=
  List.filter_append _ _

@[simp] lemma endingsAt_append (address : UInt32) (first second : List (UInt32 × Fault)) :
    endingsAt address (first ++ second) = endingsAt address first ++ endingsAt address second :=
  List.filter_append _ _

/-- A journal in which no watch reported a change or was given up, and no command was carried out.
-/
structure Calm (j : Journal) : Prop where
  /-- No watch reported a change. -/
  changes : j.changes = []
  /-- No watch was given up. -/
  endings : j.endings = []
  /-- No command was carried out. -/
  applied : j.applied = []

/-- A calm journal in which nobody asked for a command. -/
structure Quiet (j : Journal) : Prop extends Calm j where
  /-- Nobody asked for a command. -/
  commands : j.commands = []

/-- The empty journal is quiet. -/
lemma Quiet.empty : ({} : Journal).Quiet := ⟨⟨rfl, rfl, rfl⟩, rfl⟩

/-- A note about neither the end of a watch nor a command is quiet. -/
lemma Quiet.note {n : Note} (hending : n.ending? = none) (happlied : n.applied? = none) :
    (Journal.note n).Quiet := by
  refine ⟨⟨rfl, ?_, ?_⟩, rfl⟩
  · simp [Journal.endings, Journal.note, hending]
  · simp [Journal.applied, Journal.note, happlied]

/-- Two calm journals make a calm one. -/
lemma Calm.append {a b : Journal} (ha : a.Calm) (hb : b.Calm) : (a ++ b).Calm := by
  refine ⟨?_, ?_, ?_⟩
  · rw [changes_append, ha.changes, hb.changes, List.append_nil]
  · rw [endings_append, ha.endings, hb.endings, List.append_nil]
  · rw [applied_append, ha.applied, hb.applied, List.append_nil]

/-- A journal in which nobody asked for a command and all events and notes are plain ones. -/
structure Plain (j : Journal) : Prop where
  /-- Nobody asked for a command. -/
  commands : j.commands = []
  /-- All events are plain. -/
  events : ∀ e ∈ j.events, e.plain = true
  /-- All notes are plain. -/
  notes : ∀ n ∈ j.notes, n.plain = true

/-- The empty journal is plain. -/
lemma Plain.empty : ({} : Journal).Plain := ⟨rfl, List.forall_mem_nil _, List.forall_mem_nil _⟩

/-- A plain note makes a plain journal. -/
lemma Plain.note {n : Note} (h : n.plain = true) : (Journal.note n).Plain :=
  ⟨rfl, List.forall_mem_nil _, fun _ hmem => List.mem_singleton.mp hmem ▸ h⟩

/-- Two plain journals make a plain one. -/
lemma Plain.append {a b : Journal} (ha : a.Plain) (hb : b.Plain) : (a ++ b).Plain := by
  refine ⟨?_, ?_, ?_⟩
  · rw [commands_append, ha.commands, hb.commands, List.append_nil]
  · rw [events_append]
    exact List.forall_mem_append.mpr ⟨ha.events, hb.events⟩
  · rw [notes_append]
    exact List.forall_mem_append.mpr ⟨ha.notes, hb.notes⟩

/-- A plain journal is quiet. -/
lemma Plain.quiet {j : Journal} (h : j.Plain) : j.Quiet := by
  refine ⟨⟨?_, ?_, ?_⟩, h.commands⟩
  · refine List.filterMap_eq_nil_iff.mpr fun e he => ?_
    have hplain := h.events e he
    cases e <;> first | rfl | cases hplain
  · refine List.filterMap_eq_nil_iff.mpr fun n hn => ?_
    have hplain := h.notes n hn
    cases n <;> first | rfl | cases hplain
  · refine List.filterMap_eq_nil_iff.mpr fun n hn => ?_
    have hplain := h.notes n hn
    cases n <;> first | rfl | cases hplain

end Journal

end GuestWatch
