import GuestWatch.Monitor.Basic

set_option relaxedAutoImplicit false
set_option autoImplicit false

/-!
# Carrying out commands

Commands are carried out first in, first out. Carrying one out may tell the observers of hardcore
mode, who may ask for more. The queue runs empty all the same: when commands join it, a call is
taken off those on which the observers may still ask.

## Main definitions

* `GuestWatch.Monitor.unloadGame` — drops the loaded game and every watch.
* `GuestWatch.Monitor.carryOut` — carries out one command.
* `GuestWatch.Monitor.drain` — carries out the commands that wait until none is left.

## Main results

* `GuestWatch.Monitor.remaining_carryOut`, `GuestWatch.Monitor.measure_carryOut` — what makes the
  queue run empty.
* `GuestWatch.Monitor.drain_of_nil`, `GuestWatch.Monitor.drain_of_cons` — the two cases of a drain.
* `GuestWatch.Monitor.followUps_drain` — after a drain no command waits.
-/

namespace GuestWatch

namespace Monitor

/-- Removes every watch. -/
def dropWatches (m : Monitor) : Monitor := { m with watches := {} }

/-- Drops the loaded game and every watch. -/
def unloadGame (m : Monitor) : Outcome Monitor Unit :=
  match m.game with
  | none => ⟨(), m.dropWatches, {}⟩
  | some id => ⟨(), { m.dropWatches with game := none }, Journal.note (.gameUnloaded id)⟩

/-- Switches hardcore mode; the commands the observers ask for wait. -/
def switchHardcore (m : Monitor) (on : Bool) : Outcome Monitor Bool :=
  let switched := m.hardcore.setEnabled on m.ram
  ⟨switched.value,
    { m with hardcore := switched.state.1, ram := switched.state.2 }.enqueue
      switched.journal.commands,
    switched.journal⟩

/-- Disables achievements and ends the session: no game is loaded and no watch is left. The commands
the observers ask for wait. -/
def endSession (m : Monitor) : Outcome Monitor Unit :=
  let disabled := m.hardcore.disableAchievements
  let unloaded := ({ m with hardcore := disabled.state }.enqueue
    disabled.journal.commands).unloadGame
  ⟨(), unloaded.state, disabled.journal ++ unloaded.journal⟩

/-- Carries out one command. -/
def carryOut (m : Monitor) : Command → Outcome Monitor Unit
  | .clearWatches => ⟨(), m.dropWatches, {}⟩
  | .removeWatch address => ⟨(), { m with watches := m.watches.remove address }, {}⟩
  | .clearConditions =>
    let cleared := m.conditions.clear
    ⟨(), { m with conditions := cleared.state }, cleared.journal⟩
  | .clearRegions =>
    let cleared := m.hardcore.clearRegions
    ⟨(), { m with hardcore := cleared.state }, cleared.journal⟩
  | .setHardcore on =>
    let switched := m.switchHardcore on
    ⟨(), switched.state, switched.journal⟩
  | .enableTracking on => ⟨(), { m with ledger := m.ledger.enableTracking on }, {}⟩
  | .unloadGame => m.unloadGame
  | .disableAchievements => m.endSession

/-- On how many more calls the observers of hardcore mode may ask for commands. -/
def remaining (m : Monitor) : Nat := m.hardcore.remaining

@[simp] theorem remaining_unloadGame (m : Monitor) :
    m.unloadGame.state.remaining = m.remaining := by
  unfold unloadGame
  split <;> rfl

@[simp] theorem followUps_unloadGame (m : Monitor) :
    m.unloadGame.state.followUps = m.followUps := by
  unfold unloadGame
  split <;> rfl

@[simp] theorem commands_unloadGame (m : Monitor) : m.unloadGame.journal.commands = [] := by
  unfold unloadGame
  split <;> rfl

/-- The commands that wait afterwards are the ones that waited and the ones asked for meanwhile. -/
theorem followUps_carryOut (m : Monitor) (command : Command) :
    (m.carryOut command).state.followUps =
      m.followUps ++ (m.carryOut command).journal.commands := by
  cases command <;>
    simp [carryOut, dropWatches, ConditionSet.clear, Hardcore.clearRegions, switchHardcore,
      endSession, enqueue]

/-- When the observers ask for commands while a command is carried out, a call is taken off those on
which they may still ask. -/
theorem remaining_carryOut (m : Monitor) (command : Command) :
    (m.carryOut command).state.remaining + asking (m.carryOut command).journal.commands
      ≤ m.remaining := by
  cases command with
  | setHardcore on => exact Hardcore.remaining_setEnabled m.hardcore on m.ram
  | disableAchievements =>
    simp only [carryOut, endSession, remaining_unloadGame, Journal.commands_append,
      commands_unloadGame, List.append_nil]
    exact Hardcore.remaining_disableAchievements m.hardcore
  | unloadGame => simp [carryOut]
  | _ => exact Nat.le_refl _

/-- Carrying out the first command that waits brings the end of the queue nearer: either a call of
the observers is used up, or nothing joins the queue. -/
theorem measure_carryOut {m : Monitor} {command : Command} {rest : List Command}
    (h : m.followUps = command :: rest) :
    Prod.Lex (· < ·) (· < ·)
      (({ m with followUps := rest }.carryOut command).state.remaining,
        ({ m with followUps := rest }.carryOut command).state.followUps.length)
      (m.remaining, m.followUps.length) := by
  have hle := remaining_carryOut { m with followUps := rest } command
  have hqueue := followUps_carryOut { m with followUps := rest } command
  by_cases hnone : ({ m with followUps := rest }.carryOut command).journal.commands = []
  · rw [hnone, List.append_nil] at hqueue
    rw [hnone, asking_nil, Nat.add_zero] at hle
    rw [hqueue, h]
    rcases Nat.lt_or_eq_of_le hle with hlt | heq
    · exact Prod.Lex.left _ _ hlt
    · rw [heq]
      exact Prod.Lex.right _ (by simp)
  · rw [asking, if_neg hnone] at hle
    exact Prod.Lex.left _ _ hle

/-- Carries out the commands that wait, and those that come up meanwhile, until none is left. -/
def drain (m : Monitor) : Outcome Monitor Unit :=
  match _h : m.followUps with
  | [] => ⟨(), m, {}⟩
  | command :: rest =>
    let done := { m with followUps := rest }.carryOut command
    let drained := drain done.state
    ⟨(), drained.state,
      Journal.note (.commandApplied command) ++ (done.journal ++ drained.journal)⟩
termination_by (m.remaining, m.followUps.length)
decreasing_by exact measure_carryOut _h

/-- Where no command waits, a drain does nothing. -/
theorem drain_of_nil {m : Monitor} (h : m.followUps = []) : m.drain = ⟨(), m, {}⟩ := by
  rw [drain]
  split
  · rfl
  · rename_i h'
    rw [h] at h'
    cases h'

/-- Where a command waits, a drain carries out the first and goes on. -/
theorem drain_of_cons {m : Monitor} {command : Command} {rest : List Command}
    (h : m.followUps = command :: rest) :
    m.drain =
      ⟨(), ({ m with followUps := rest }.carryOut command).state.drain.state,
        Journal.note (.commandApplied command)
          ++ (({ m with followUps := rest }.carryOut command).journal
            ++ ({ m with followUps := rest }.carryOut command).state.drain.journal)⟩ := by
  rw [drain]
  split
  · rename_i h'
    rw [h] at h'
    cases h'
  · rename_i command' rest' h'
    rw [h] at h'
    cases h'
    rfl

/-- After a drain no command waits. -/
theorem followUps_drain (m : Monitor) : m.drain.state.followUps = [] := by
  fun_induction drain m with
  | case1 m h => exact h
  | case2 m command rest h done drained ih => exact ih

end Monitor

end GuestWatch
