import GuestWatch.Proofs.Monitor.Moves
import GuestWatch.Proofs.Monitor.Passes
import Mathlib.Logic.Function.Iterate

set_option relaxedAutoImplicit false
set_option autoImplicit false

/-!
# The queue of commands

The commands that callbacks ask for wait in a queue until the operation at hand is done. The loop
that carries them out ends although the queue grows meanwhile, it takes the commands in the order in
which they were asked for, and it loses none.

## Main definitions

* `GuestWatch.Monitor.turn` — one turn of the loop.
* `GuestWatch.Monitor.requests` — what the observers ask for in a turn.
* `GuestWatch.Monitor.InOrder` — the loop carries out the commands that waited and those that joined
  them, one in each turn.

## Main results

* `GuestWatch.Monitor.inOrder_drain` — the loop carries out its commands in order.
* `GuestWatch.Monitor.Path.conserves` — along a path no command is lost, doubled or overtaken.
* `GuestWatch.Monitor.followUps_fifo` — the two together, for every operation of a reachable
  monitor. -/

namespace GuestWatch

namespace Monitor

/-! ## The loop -/

/-- One turn of the loop: the first command that waits is carried out. -/
def turn (m : Monitor) : Monitor :=
  match m.followUps with
  | [] => m
  | command :: rest => ({ m with followUps := rest }.carryOut command).state

/-- What the observers of hardcore mode are told when a command is carried out, if anything: a
switch that changes the mode tells them the mode, and the end of achievements tells them that it is
off. -/
def announcement? (m : Monitor) : Command → Option Bool
  | .setHardcore on => if m.hardcore.enabled = on then none else some on
  | .disableAchievements => some false
  | _ => none

/-- The commands that observers ask for when they are told something. -/
def answers (m : Monitor) (on : Bool) : List Command :=
  (Callback.tellAll Event.mode on m.hardcore.observers).journal.commands

/-- The commands that observers ask for in the next turn of the loop. -/
def requests (m : Monitor) : List Command :=
  match m.followUps with
  | [] => []
  | command :: _ =>
    match m.announcement? command with
    | none => []
    | some on => m.answers on

/-- The commands that the loop carries out: those that wait, and those that are asked for meanwhile.
-/
def batch (m : Monitor) : List Command := m.followUps ++ m.drain.journal.commands

/-- The loop carries out its batch, one command in each turn, always the first of the queue. -/
structure InOrder (m : Monitor) : Prop where
  /-- The commands of the batch are carried out, each once and in this order. -/
  applied : m.drain.journal.applied = m.batch
  /-- The loop takes one turn for each of them. -/
  state_eq : m.drain.state = turn^[m.batch.length] m
  /-- In each turn the next of them is at the front of the queue. -/
  head_eq : ∀ k < m.batch.length, (turn^[k] m).followUps.head? = m.batch[k]?
  /-- What was asked for meanwhile is what the observers asked for, turn by turn. -/
  requests_eq : m.drain.journal.commands =
    (List.range m.batch.length).flatMap fun k => (turn^[k] m).requests
  /-- The queue is empty in the end. -/
  followUps_eq : (turn^[m.batch.length] m).followUps = []

/-- When a command is carried out, the observers ask for what they answer to its announcement. -/
lemma commands_carryOut (m : Monitor) (command : Command) :
    (m.carryOut command).journal.commands =
      match m.announcement? command with
      | none => []
      | some on => m.answers on := by
  cases command with
  | setHardcore on =>
    simp only [carryOut, switchHardcore, Hardcore.setEnabled, announcement?]
    split <;> rfl
  | unloadGame => exact commands_unloadGame m
  | disableAchievements =>
    simp only [carryOut, endSession, Journal.commands_append, commands_unloadGame, List.append_nil]
    rfl
  | _ => rfl

lemma turn_of_cons {m : Monitor} {command : Command} {rest : List Command}
    (h : m.followUps = command :: rest) :
    m.turn = ({ m with followUps := rest }.carryOut command).state := by
  simp only [turn, h]

lemma requests_of_cons {m : Monitor} {command : Command} {rest : List Command}
    (h : m.followUps = command :: rest) :
    m.requests = ({ m with followUps := rest }.carryOut command).journal.commands := by
  simp only [requests, h, commands_carryOut]
  rfl

/-- The loop carries out its commands in order.

**Proof sketch.** By induction on the turns. After a turn the queue holds what is left of it,
followed by what the observers asked for in that turn, so the commands that are carried out from
then on are the rest of the old ones, then those, then the ones that are still to come. -/
theorem inOrder_drain (m : Monitor) : InOrder m := by
  fun_induction drain m with
  | case1 m h =>
    have hdrain := drain_of_nil h
    constructor <;> simp [batch, hdrain, h]
  | case2 m command rest h done drained ih =>
    have hdrain := drain_of_cons h
    have hqueue : done.state.followUps = rest ++ done.journal.commands :=
      followUps_carryOut { m with followUps := rest } command
    have hturn : m.turn = done.state := turn_of_cons h
    have hasked : m.requests = done.journal.commands := requests_of_cons h
    have hcommands : m.drain.journal.commands =
        done.journal.commands ++ done.state.drain.journal.commands := by
      rw [hdrain]
      rfl
    -- the commands after this turn are the ones before it without the first
    have hbatch : m.batch = command :: done.state.batch := by
      rw [batch, batch, hcommands, h, hqueue, List.cons_append, List.append_assoc]
    constructor
    · have happlied := (calm_carryOut { m with followUps := rest } command).applied
      rw [hbatch, ← ih.applied, hdrain]
      simp only [Journal.applied_append, happlied, List.nil_append]
      rfl
    · rw [hbatch, List.length_cons, Function.iterate_succ_apply, hturn, ← ih.state_eq, hdrain]
    · intro k hk
      rw [hbatch] at hk ⊢
      cases k with
      | zero => rw [Function.iterate_zero_apply, h, List.head?_cons, List.getElem?_cons_zero]
      | succ k =>
        rw [Function.iterate_succ_apply, hturn, List.getElem?_cons_succ]
        exact ih.head_eq k (by simpa using hk)
    · rw [hbatch, List.length_cons, List.range_succ_eq_map, List.flatMap_cons, List.flatMap_map,
        Function.iterate_zero_apply, hasked, hcommands]
      simp only [Function.iterate_succ_apply, hturn]
      rw [← ih.requests_eq]
    · rw [hbatch, List.length_cons, Function.iterate_succ_apply, hturn]
      exact ih.followUps_eq

/-- A command given to the monitor is carried out after those that waited and before those that it
leads to. -/
lemma applied_command (m : Monitor) (c : Command) :
    (m.command c).journal.applied = m.followUps ++ c :: (m.command c).journal.commands := by
  have happlied := (inOrder_drain (m.enqueue [c])).applied
  rw [batch, enqueue, List.append_assoc] at happlied
  exact happlied

/-! ## Conservation of commands -/

/-- **A move keeps the commands together**: those that waited, followed by those that are asked for,
are those that are carried out, followed by those that wait afterwards. -/
theorem Move.conserves {op : MonitorOp} {m m' : Monitor} {j : Journal} (h : Move op m j m') :
    m.followUps ++ j.commands = j.applied ++ m'.followUps := by
  cases h with
  | carried h =>
    rename_i command rest
    rw [Journal.commands_append, Journal.applied_append, (calm_carryOut _ _).applied,
      followUps_carryOut, h]
    rfl
  | notified address size => rw [(notify_pass m address size).applied]; rfl
  | tracked access =>
    have hquiet := (WatchList.plain_track m.ledger access).quiet
    simp only [track, hquiet.commands, hquiet.applied, List.append_nil, List.nil_append]
  | polled => rw [(poll_pass m).applied]; rfl
  | installed =>
    have hquiet := (plain_installIntercepts m).quiet
    rw [hquiet.commands, hquiet.applied, List.append_nil, List.nil_append]
    obtain ⟨reads, writes, installed, hstate⟩ := m.installIntercepts_frame
    rw [hstate]
  | taken => exact List.append_nil _
  | checked selects observed => rw [(calm_afterCheck m selects observed).applied]; rfl
  | switched on => rw [(calm_switchHardcore m on).applied]; rfl
  | ended =>
    rw [(calm_endSession m).applied]
    simp only [endSession, followUps_unloadGame, enqueue, Journal.commands_append,
      commands_unloadGame, List.append_nil, List.nil_append]
  | started => exact List.append_nil _
  | direct hsettles =>
    have hquiet := quiet_step m hsettles
    rw [hquiet.commands, hquiet.applied, followUps_step m hsettles, List.append_nil,
      List.nil_append]

/-- **A path keeps the commands together.** Nothing that is asked for is lost, doubled or overtaken.
-/
theorem Path.conserves {op : MonitorOp} {m m' : Monitor} {j : Journal} (h : Path op m j m') :
    m.followUps ++ j.commands = j.applied ++ m'.followUps := by
  induction h with
  | refl m => exact List.append_nil _
  | cons head tail ih =>
    rw [Journal.commands_append, Journal.applied_append, ← List.append_assoc, head.conserves,
      List.append_assoc, ih, List.append_assoc]

/-- Where no command waits before an operation, none waits after it. -/
lemma followUps_step_of_nil {m : Monitor} (h : m.followUps = []) (op : MonitorOp) :
    (m.step op).state.followUps = [] := by
  by_cases hsettles : op.settles = false
  · rw [followUps_step m hsettles, h]
  cases op with
  | start =>
    simp only [step, answerDone, answer, start]
    split
    · exact h
    · split
      · exact followUps_drain _
      · exact h
  | frame =>
    simp only [step, answer, frame]
    split
    · exact followUps_drain _
    · exact h
  | applyPending =>
    simp only [step, answer, applyPending]
    split <;> exact followUps_drain _
  | writeObserved address size =>
    simp only [step, answer, writeObserved]
    split
    · exact followUps_drain _
    · exact h
  | pokeObserved address value =>
    simp only [step, answerDone, answer, pokeObserved]
    split
    · exact followUps_drain _
    · exact h
  | command c => exact followUps_drain _
  | checkAddress address value => exact followUps_drain _
  | checkBetween start last => exact followUps_drain _
  | checkAll => exact followUps_drain _
  | setHardcore on => exact followUps_drain _
  | saveStateCreated => exact followUps_drain _
  | saveStateLoaded => exact followUps_drain _
  | _ => exact absurd rfl hsettles

/-- Between operations no command waits. -/
theorem Reachable.followUps_eq_nil {m : Monitor} (h : Reachable m) : m.followUps = [] := by
  induction h with
  | make options now => rfl
  | step h op ih => exact followUps_step_of_nil ih op

/-- What is asked for in an operation is carried out in it. -/
lemma applied_step {m : Monitor} (h : m.followUps = []) (op : MonitorOp) :
    (m.step op).journal.applied = op.given ++ (m.step op).journal.commands := by
  have hconserves := (path_step m op).conserves
  rw [followUps_step_of_nil h op, List.append_nil] at hconserves
  rw [← hconserves, enqueue, h, List.nil_append]

/-- **Commands are carried out first in, first out, and none is lost.** In whatever state the loop
starts, it ends, and it carries out its batch in order. A command given to the monitor is carried
out after those that waited and before those that it leads to. An operation of a reachable monitor
carries out the command it is given and all that any callback asks for meanwhile, and leaves nothing
waiting.

**Proof sketch.** The first part is `inOrder_drain`. The second is conservation along the path of
the operation, whose queue is empty at both ends. -/
theorem followUps_fifo :
    (∀ m : Monitor, InOrder m) ∧
    (∀ (m : Monitor) (c : Command), (m.command c).state.followUps = [] ∧
      (m.command c).journal.applied = m.followUps ++ c :: (m.command c).journal.commands) ∧
    (∀ m : Monitor, Reachable m → ∀ op : MonitorOp, (m.step op).state.followUps = [] ∧
      (m.step op).journal.applied = op.given ++ (m.step op).journal.commands) := by
  refine ⟨inOrder_drain, fun m c => ⟨followUps_drain _, applied_command m c⟩, ?_⟩
  intro m h op
  exact ⟨followUps_step_of_nil h.followUps_eq_nil op, applied_step h.followUps_eq_nil op⟩

/-- A new monitor with an observer that switches hardcore mode off once it is told that it is on. -/
def contrary : Monitor :=
  (make {} 0).addObserver (Callback.script "contrary" [.setHardcore false] 1 id)

/-- The observer of `contrary` has its way before the switch it objects to is over. -/
theorem followUps_fifo_contrary :
    Reachable contrary ∧ (contrary.step (.setHardcore true)).state.followUps = [] ∧
      (contrary.step (.setHardcore true)).journal.applied = [.setHardcore false] := by
  have hreach : Reachable contrary := (Reachable.make {} 0).step (.addObserver _)
  obtain ⟨hqueue, happlied⟩ := followUps_fifo.2.2 contrary hreach (.setHardcore true)
  refine ⟨hreach, hqueue, happlied.trans ?_⟩
  have hfirst : (contrary.switchHardcore true).state.followUps = [.setHardcore false] := rfl
  simp only [step, answer, setHardcore, settle, drain_of_cons hfirst]
  rw [drain_of_nil (by rfl)]
  rfl

end Monitor

end GuestWatch
