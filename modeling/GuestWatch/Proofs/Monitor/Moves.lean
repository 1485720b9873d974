import GuestWatch.Proofs.Monitor.Quiet

set_option relaxedAutoImplicit false
set_option autoImplicit false

/-!
# The moves of the monitor

An operation of the monitor either does one thing, asking nobody and carrying out no command, or it
is made of a few kinds of moves: it notices writes, polls, records accesses, checks conditions,
switches hardcore mode, and carries out the commands that came up. What every move keeps, every
operation and every run keeps.

## Main definitions

* `GuestWatch.Monitor.Move` — one move within an operation, with what it writes into the journal.
* `GuestWatch.Monitor.Path` — moves one after the other.
* `GuestWatch.Monitor.Reachable` — the states a new monitor comes to.

## Main results

* `GuestWatch.Monitor.path_step` — every operation is a path of moves.
-/

namespace GuestWatch

/-- The command that an operation is given to carry out. -/
def MonitorOp.given : MonitorOp → List Command
  | .command c => [c]
  | _ => []

namespace Monitor

/-- One move of the monitor within an operation, with its journal. -/
inductive Move (op : MonitorOp) : Monitor → Journal → Monitor → Prop where
  /-- The first command that waits is carried out. -/
  | carried {m : Monitor} {command : Command} {rest : List Command}
      (h : m.followUps = command :: rest) :
      Move op m
        (Journal.note (.commandApplied command)
          ++ ({ m with followUps := rest }.carryOut command).journal)
        ({ m with followUps := rest }.carryOut command).state
  /-- A write is noticed. -/
  | notified (m : Monitor) (address size : UInt32) :
      Move op m (m.notify address size).journal (m.notify address size).state
  /-- An access is recorded. -/
  | tracked (m : Monitor) (access : Access) :
      Move op m (m.track access).journal (m.track access).state
  /-- The watches are polled. -/
  | polled (m : Monitor) : Move op m m.poll.journal m.poll.state
  /-- The intercepts are installed. -/
  | installed (m : Monitor) :
      Move op m m.installIntercepts.journal m.installIntercepts.state
  /-- The accesses that wait are taken off their queue. -/
  | taken (m : Monitor) : Move op m {} { m with pending := [] }
  /-- Conditions are checked. -/
  | checked (m : Monitor) (selects : Condition → Bool) (observed : Condition → UInt32) :
      Move op m (m.afterCheck (m.conditions.check selects observed)).journal
        (m.afterCheck (m.conditions.check selects observed)).state
  /-- Hardcore mode is switched. -/
  | switched (m : Monitor) (on : Bool) :
      Move op m (m.switchHardcore on).journal (m.switchHardcore on).state
  /-- The session ends. -/
  | ended (m : Monitor) : Move op m m.endSession.journal m.endSession.state
  /-- The monitor starts. -/
  | started (m : Monitor) : Move op m (Journal.note .started) { m with active := true }
  /-- The whole of an operation that does not settle. -/
  | direct (m : Monitor) (h : op.settles = false) :
      Move op m (m.step op).journal (m.step op).state

/-- Moves of the monitor one after the other, with their joint journal. -/
inductive Path (op : MonitorOp) : Monitor → Journal → Monitor → Prop where
  /-- No move. -/
  | refl (m : Monitor) : Path op m {} m
  /-- One more move at the start. -/
  | cons {m m' m'' : Monitor} {j j' : Journal} (head : Move op m j m')
      (tail : Path op m' j' m'') : Path op m (j ++ j') m''

variable {op : MonitorOp}

/-- One move is a path. -/
lemma Move.path {m m' : Monitor} {j : Journal} (h : Move op m j m') : Path op m j m' := by
  have hpath := Path.cons h (Path.refl m')
  rwa [Journal.append_empty] at hpath

/-- Paths are joined. -/
lemma Path.trans {m m' m'' : Monitor} {j j' : Journal} (h : Path op m j m')
    (h' : Path op m' j' m'') : Path op m (j ++ j') m'' := by
  induction h with
  | refl m => rwa [Journal.empty_append]
  | cons head tail ih =>
    rw [Journal.append_assoc]
    exact Path.cons head (ih h')

/-! ## Operations that settle -/

/-- A drain is a path: it carries out one command after the other. -/
lemma path_drain (m : Monitor) : Path op m m.drain.journal m.drain.state := by
  fun_induction drain m with
  | case1 m h => exact Path.refl m
  | case2 m command rest h done drained ih =>
    rw [← Journal.append_assoc]
    exact Path.cons (Move.carried h) ih

/-- Where no command waits, there is none to carry out. -/
lemma settle_of_nil {α : Type} {outcome : Outcome Monitor α} (h : outcome.state.followUps = []) :
    Monitor.settle outcome = outcome := by
  simp only [settle, drain_of_nil h, Journal.append_empty]

/-- A write notice on which nobody asks for a command is over when the watches are refreshed. -/
lemma writeObserved_of_unasked {m : Monitor} {address size : UInt32} (hactive : m.active = true)
    (hasked : (m.notify address size).state.followUps = []) :
    m.writeObserved address size = m.notify address size := by
  rw [writeObserved, if_pos hactive, settle_of_nil hasked]

/-- Where neither an access nor a command waits, there is nothing to apply. -/
lemma applyPending_of_nil {m : Monitor} (hpending : m.pending = []) (hqueue : m.followUps = []) :
    m.applyPending = ⟨0, m, {}⟩ := by
  have hemptied : { m with pending := [] } = m := by rw [← hpending]
  have hsettled : Monitor.settle (⟨0, m, {}⟩ : Outcome Monitor Nat) = ⟨0, m, {}⟩ :=
    settle_of_nil hqueue
  rw [applyPending, hemptied, hpending]
  split
  · exact hsettled
  · exact hsettled

/-- Where nothing waits and nobody asks for a command, a frame installs the intercepts and polls. -/
lemma frame_of_unasked {m : Monitor} (hactive : m.active = true) (hpending : m.pending = [])
    (hqueue : m.followUps = [])
    (hasked : m.installIntercepts.state.poll.state.followUps = []) :
    m.frame =
      ⟨m.installIntercepts.state.poll.value, m.installIntercepts.state.poll.state,
        m.installIntercepts.journal ++ m.installIntercepts.state.poll.journal⟩ := by
  have happlied : m.installIntercepts.state.applyPending = ⟨0, m.installIntercepts.state, {}⟩ := by
    obtain ⟨reads, writes, installed, hinstalled⟩ := installIntercepts_frame m
    rw [hinstalled]
    exact applyPending_of_nil hpending hqueue
  rw [frame, if_pos hactive]
  simp only [happlied, settle_of_nil hasked, Journal.empty_append]

/-- Carrying out the commands that came up continues a path. -/
lemma Path.settle {α : Type} {m : Monitor} {outcome : Outcome Monitor α}
    (h : Path op m outcome.journal outcome.state) :
    Path op m (Monitor.settle outcome).journal (Monitor.settle outcome).state :=
  h.trans (path_drain outcome.state)

/-- Applying an access is a path. -/
lemma path_observe (m : Monitor) (access : Access) :
    Path op m (m.observe access).journal (m.observe access).state := by
  have htrack : Path op m (m.track access).journal (m.track access).state :=
    (Move.tracked m access).path
  unfold observe
  cases access.kind with
  | read => exact htrack
  | write => exact htrack.trans (Move.notified _ access.address access.size).path

/-- Applying accesses one after the other is a path. -/
lemma path_observeAll (accesses : List Access) (m : Monitor) :
    Path op m (observeAll accesses m).journal (observeAll accesses m).state := by
  induction accesses generalizing m with
  | nil => exact Path.refl m
  | cons access rest ih => exact (path_observe m access).trans (ih _)

/-- Applying the accesses that wait is a path. -/
lemma path_applyPending (m : Monitor) :
    Path op m m.applyPending.journal m.applyPending.state := by
  have htaken : Path op m {} { m with pending := [] } := (Move.taken m).path
  unfold applyPending
  split
  · refine Path.settle ?_
    have hpath := htaken.trans (path_observeAll m.pending { m with pending := [] })
    rwa [Journal.empty_append] at hpath
  · exact htaken.settle

/-- A frame is a path. -/
lemma path_frame (m : Monitor) : Path op m m.frame.journal m.frame.state := by
  unfold frame
  split
  · refine (Move.installed m).path.trans ((path_applyPending _).trans ?_)
    exact (Move.polled _).path.settle
  · exact Path.refl m

/-- Switching hardcore mode is a path. -/
lemma path_setHardcore (m : Monitor) (on : Bool) :
    Path op m (m.setHardcore on).journal (m.setHardcore on).state :=
  (Move.switched m on).path.settle

/-- Starting the monitor is a path. -/
lemma path_start (m : Monitor) : Path op m m.start.journal m.start.state := by
  have hstarted : Path op m (Journal.note .started) { m with active := true } :=
    (Move.started m).path
  unfold start
  split
  · exact Path.refl m
  · simp only
    split
    · exact hstarted.trans (path_setHardcore _ true)
    · exact hstarted

/-- The event of a save state is a path. -/
lemma path_saveStateUsed (m : Monitor) :
    Path op m m.saveStateUsed.journal m.saveStateUsed.state := by
  unfold saveStateUsed
  refine Path.settle ?_
  split
  · exact (Move.ended m).path
  · exact Path.refl m

@[simp] lemma enqueue_nil (m : Monitor) : m.enqueue [] = m := by
  simp only [enqueue, List.append_nil]

/-- An operation that is given no command is a path of moves. -/
lemma path_of_given_nil (m : Monitor) {op : MonitorOp} (hnone : op.given = []) :
    Path op m (m.step op).journal (m.step op).state := by
  by_cases hsettles : op.settles = false
  · exact (Move.direct m hsettles).path
  cases op with
  | command c => cases hnone
  | start => exact path_start m
  | frame => exact path_frame m
  | applyPending => exact path_applyPending m
  | writeObserved address size =>
    simp only [step, answer, writeObserved]
    split
    · exact (Move.notified m address size).path.settle
    · exact Path.refl m
  | checkAddress address value => exact (Move.checked m _ _).path.settle
  | checkBetween start last => exact (Move.checked m _ _).path.settle
  | checkAll => exact (Move.checked m _ _).path.settle
  | setHardcore on => exact path_setHardcore m on
  | saveStateCreated => exact path_saveStateUsed m
  | saveStateLoaded => exact path_saveStateUsed m
  | pokeObserved address value =>
    simp only [step, answerDone, answer, pokeObserved]
    split
    · exact (path_observe m _).settle
    · exact Path.refl m
  | _ => exact absurd rfl hsettles

/-- Every operation is a path of moves, once the command it is given waits. -/
theorem path_step (m : Monitor) (op : MonitorOp) :
    Path op (m.enqueue op.given) (m.step op).journal (m.step op).state := by
  by_cases hnone : op.given = []
  · rw [hnone, enqueue_nil]
    exact path_of_given_nil m hnone
  · cases op with
    | command c => exact path_drain (m.enqueue [c])
    | _ => exact absurd rfl hnone

/-! ## Runs -/

/-- The states that a new monitor comes to by operations. -/
inductive Reachable : Monitor → Prop where
  /-- A new monitor. -/
  | make (options : Options) (now : UInt64) : Reachable (make options now)
  /-- One more operation. -/
  | step {m : Monitor} (h : Reachable m) (op : MonitorOp) : Reachable (m.step op).state

/-- A run leads from a reachable state to a reachable state. -/
lemma Reachable.run {m : Monitor} (h : Reachable m) (ops : List MonitorOp) :
    Reachable (Monitor.run ops m).state := by
  induction ops generalizing m with
  | nil => exact h
  | cons op rest ih => exact ih (h.step op)

end Monitor

end GuestWatch
