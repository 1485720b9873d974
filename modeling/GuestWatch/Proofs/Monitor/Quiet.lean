import GuestWatch.Monitor.Step
import GuestWatch.Proofs.Watch.Refresh

set_option relaxedAutoImplicit false
set_option autoImplicit false

/-!
# Operations that ask nobody

Many operations of the monitor do one thing and are done: they run no callback that may ask for
commands, and carry none out. Most of them leave alone all that commands act on.

## Main definitions

* `GuestWatch.MonitorOp.settles` — the operations that end by carrying out commands.
* `GuestWatch.MonitorOp.touches` — the operations that act on what commands act on.
* `GuestWatch.MonitorOp.governs` — the operations that set up hardcore mode.
* `GuestWatch.Monitor.session` — the watches, hardcore mode, the loaded game and the queue of
  commands.

## Main results

* `GuestWatch.Monitor.plain_step`, `GuestWatch.Monitor.quiet_step` — an operation that does not settle
  is plain, and so it is quiet.
* `GuestWatch.Monitor.session_step` — an operation that does not touch the session keeps it.
* `GuestWatch.Monitor.followUps_step` — an operation that does not settle keeps the queue of
  commands.
* `GuestWatch.Monitor.hardcore_step` — an operation that neither settles nor governs keeps hardcore
  mode. -/

namespace GuestWatch

/-- Whether an operation ends by carrying out the commands that came up. -/
def MonitorOp.settles : MonitorOp → Bool
  | .start | .frame | .applyPending | .writeObserved .. | .command _ | .checkAddress ..
  | .checkBetween .. | .checkAll | .setHardcore _ | .saveStateCreated | .saveStateLoaded
  | .pokeObserved .. => true
  | _ => false

/-- Whether an operation acts on the watches, on hardcore mode, on the loaded game or on the queue
of commands. -/
def MonitorOp.touches : MonitorOp → Bool
  | .shutdown | .loadGame _ | .unloadGame | .addWatch .. | .removeWatch _ | .clearWatches
  | .addObserver _ | .addRegion _ | .clearRegions | .resetAchievements => true
  | op => op.settles

/-- Whether an operation sets up hardcore mode: its observers, its regions or its achievements. -/
def MonitorOp.governs : MonitorOp → Bool
  | .addObserver _ | .addRegion _ | .clearRegions | .resetAchievements => true
  | _ => false

namespace Monitor

/-! ## Journals -/

/-- Installing or removing intercepts is plain. -/
lemma plain_installIntercepts (m : Monitor) : m.installIntercepts.journal.Plain := by
  unfold installIntercepts
  split
  · exact Journal.Plain.empty
  · exact Journal.Plain.note rfl

/-- Of the state it changes the slots of the memory and the flag of the intercepts only. -/
lemma installIntercepts_frame (m : Monitor) : ∃ reads writes installed,
    m.installIntercepts.state =
      { m with
        ram := { m.ram with readSlots := reads, writeSlots := writes }
        intercepting := installed } := by
  unfold installIntercepts
  split
  · exact ⟨m.ram.readSlots, m.ram.writeSlots, m.intercepting, rfl⟩
  · exact ⟨_, _, _, rfl⟩

lemma plain_shutdown (m : Monitor) : m.shutdown.journal.Plain := by
  have hremoved : m.removeIntercepts.journal.Plain := by
    unfold removeIntercepts
    split
    · exact Journal.Plain.note rfl
    · exact Journal.Plain.empty
  unfold shutdown
  split
  · exact hremoved.append (Journal.Plain.note rfl)
  · exact Journal.Plain.empty

lemma plain_unloadGame (m : Monitor) : m.unloadGame.journal.Plain := by
  unfold unloadGame
  split
  · exact Journal.Plain.empty
  · exact Journal.Plain.note rfl

/-- Adding a watch reads, which asks nobody, and may note a refusal. -/
lemma plain_addWatch (m : Monitor) (address size : UInt32)
    (callback : Option (Callback Change)) : (m.addWatch address size callback).journal.Plain := by
  have hadd : (m.watches.add m.probe address size callback).journal.Plain := by
    unfold WatchList.add
    split
    · exact Journal.Plain.empty
    · split
      · have hread := Watch.plain_attempt m.probe address size
        simp only
        split <;> exact hread
      · exact Journal.Plain.empty
  unfold addWatch
  split
  · simp only
    split
    · exact hadd
    · exact hadd.append (Journal.Plain.note rfl)
  · exact Journal.Plain.empty

lemma plain_read (m : Monitor) (address size : UInt32) : (m.read address size).journal.Plain := by
  have hread := Watch.plain_attempt m.probe address size
  simp only [read, Probe.read]
  split
  · exact hread
  · exact hread.append (Journal.Plain.note rfl)

lemma plain_peek (m : Monitor) (address : UInt32) : (m.peek address).journal.Plain := by
  unfold peek
  split
  · exact plain_read m address 1
  · exact Journal.Plain.empty

lemma plain_peekRun (address : UInt32) (count : Nat) (m : Monitor) :
    (peekRun address count m).journal.Plain := by
  induction count generalizing address m with
  | zero => exact Journal.Plain.empty
  | succ count ih => exact (plain_peek m address).append (ih _ _)

/-- Adding a condition or a region asks nobody and may note a refusal. -/
lemma plain_addCondition (m : Monitor) (c : Condition) : (m.addCondition c).journal.Plain := by
  have hadd : (m.conditions.add c).journal.Plain := by
    unfold ConditionSet.add
    split
    · exact Journal.Plain.empty
    · exact Journal.Plain.note rfl
  unfold addCondition
  simp only
  split
  · exact hadd
  · exact hadd.append (Journal.Plain.note rfl)

lemma plain_addRegion (m : Monitor) (r : Region) : (m.addRegion r).journal.Plain := by
  have hadd : (m.hardcore.addRegion r).journal.Plain := by
    unfold Hardcore.addRegion
    split
    · exact Journal.Plain.empty
    · exact Journal.Plain.note rfl
  unfold addRegion
  simp only
  split
  · exact hadd
  · exact hadd.append (Journal.Plain.note rfl)

/-- A check of the contents of regions asks nobody and notes the region that does not pass. -/
lemma plain_checkRegions (regions : List Region) (ram : Ram) :
    (Hardcore.checkRegions regions ram).journal.Plain := by
  induction regions generalizing ram with
  | nil => exact Journal.Plain.empty
  | cons r rest ih =>
    unfold Hardcore.checkRegions
    split
    · exact ih _
    · exact Journal.Plain.note rfl

lemma plain_checkMemory (h : Hardcore) (ram : Ram) : (h.checkMemory ram).journal.Plain := by
  unfold Hardcore.checkMemory
  split
  · exact plain_checkRegions _ ram
  · exact Journal.Plain.empty

/-- An access of the guest runs at most a hook, whose call is a plain event. -/
lemma plain_dispatch (address value : UInt32) (slots : List Slot) :
    ∀ e ∈ (Slot.dispatch address value slots).events, e.plain = true := by
  unfold Slot.dispatch
  split
  · exact List.forall_mem_nil _
  · split
    · exact List.forall_mem_nil _
    · rename_i handler _
      cases handler with
      | host hook => exact List.forall_mem_singleton.mpr rfl
      | _ => exact List.forall_mem_nil _

lemma plain_ramStep (ram : Ram) (op : MemoryOp) :
    ∀ e ∈ (ram.step op).events, e.plain = true := by
  have hread : ∀ (address : UInt32) (count : Nat),
      ∀ e ∈ (ram.readReply address count).events, e.plain = true := by
    intro address count
    unfold Ram.readReply
    split <;> exact List.forall_mem_nil _
  cases op with
  | storeByte address value => exact plain_dispatch _ _ _
  | storeWord address value => exact plain_dispatch _ _ _
  | loadWord address =>
    simp only [Ram.step, Ram.loadWord]
    split
    · exact List.forall_mem_nil _
    · exact plain_dispatch _ _ _
  | readByte address => exact hread address 1
  | readHalf address => exact hread address 2
  | readWord address => exact hread address 4
  | _ => exact List.forall_mem_nil _

/-- An operation on the memory may report a hook's call and may note an access that is dropped. -/
lemma plain_memoryStep (m : Monitor) (op : MemoryOp) : (m.memoryStep op).journal.Plain := by
  have hevents : ({ events := (m.ram.step op).events } : Journal).Plain :=
    ⟨rfl, plain_ramStep m.ram op, List.forall_mem_nil _⟩
  refine hevents.append ?_
  unfold accept
  split
  · exact Journal.Plain.empty
  · split
    · exact Journal.Plain.empty
    · exact Journal.Plain.note rfl

/-- An operation that does not settle is plain. -/
theorem plain_step (m : Monitor) {op : MonitorOp} (h : op.settles = false) :
    (m.step op).journal.Plain := by
  cases op with
  | shutdown => exact plain_shutdown m
  | loadGame id => exact Journal.Plain.note rfl
  | unloadGame => exact plain_unloadGame m
  | addWatch address size callback => exact plain_addWatch m address size callback
  | removeWatch address =>
    simp only [step, answer, removeWatch]
    split <;> exact Journal.Plain.empty
  | clearWatches => exact Journal.Plain.empty
  | read address size => exact plain_read m address size
  | addCondition c => exact plain_addCondition m c
  | addConditionCode address size code configure =>
    simp only [step, answer, addConditionCode]
    split
    · exact plain_addCondition m _
    · exact Journal.Plain.note rfl
  | removeCondition address =>
    simp only [step, answer, removeCondition, ConditionSet.remove]
    split
    · exact Journal.Plain.note rfl
    · exact Journal.Plain.empty
  | clearConditions => exact Journal.Plain.note rfl
  | addConditionCallback callback => exact Journal.Plain.empty
  | ledger op =>
    cases op with
    | track access => exact WatchList.plain_track m.ledger access
    | _ => exact Journal.Plain.empty
  | addObserver observer => exact Journal.Plain.empty
  | addRegion r => exact plain_addRegion m r
  | clearRegions => exact Journal.Plain.note rfl
  | permits name =>
    simp only [step, answer, permits, Hardcore.permits]
    split
    · exact Journal.Plain.note rfl
    · exact Journal.Plain.empty
  | allows archive use =>
    simp only [step, answer, allows]
    split
    · exact Journal.Plain.empty
    · exact Journal.Plain.note rfl
  | checkMemory => exact plain_checkMemory m.hardcore m.ram
  | checkSystem =>
    simp only [step, answer, checkSystem, Hardcore.checkSystem]
    split
    · exact plain_checkMemory m.hardcore m.ram
    · exact Journal.Plain.empty
  | resetAchievements => exact Journal.Plain.empty
  | peek address => exact plain_peek m address
  | peekBytes address buffer =>
    simp only [step, answer, peekBytes]
    split
    · exact plain_peekRun address _ m
    · exact Journal.Plain.empty
  | memory op => exact plain_memoryStep m op
  | _ => cases h

/-- An operation that does not settle asks nobody, reports no change, gives up no watch and carries
out no command. -/
theorem quiet_step (m : Monitor) {op : MonitorOp} (h : op.settles = false) :
    (m.step op).journal.Quiet :=
  (plain_step m h).quiet

/-! ## Journals of commands and checks -/

/-- Telling observers a mode is calm, whatever they ask for. -/
lemma calm_tellAll (on : Bool) (observers : List (Callback Bool)) :
    (Callback.tellAll Event.mode on observers).journal.Calm := by
  induction observers with
  | nil => exact Journal.Quiet.empty.toCalm
  | cons c rest ih => exact Journal.Calm.append ⟨rfl, rfl, rfl⟩ ih

lemma calm_switchHardcore (m : Monitor) (on : Bool) : (m.switchHardcore on).journal.Calm := by
  simp only [switchHardcore, Hardcore.setEnabled]
  split
  · exact Journal.Quiet.empty.toCalm
  · exact (Journal.Quiet.note rfl rfl).toCalm.append (calm_tellAll on m.hardcore.observers)

lemma calm_endSession (m : Monitor) : m.endSession.journal.Calm := by
  refine Journal.Calm.append ?_ (plain_unloadGame _).quiet.toCalm
  exact (Journal.Quiet.note rfl rfl).toCalm.append (calm_tellAll false m.hardcore.observers)

/-- Carrying out a command tells nothing about watches and carries out no other command. -/
lemma calm_carryOut (m : Monitor) (command : Command) : (m.carryOut command).journal.Calm := by
  cases command with
  | setHardcore on => exact calm_switchHardcore m on
  | unloadGame => exact (plain_unloadGame m).quiet.toCalm
  | disableAchievements => exact calm_endSession m
  | clearConditions => exact (Journal.Quiet.note rfl rfl).toCalm
  | clearRegions => exact (Journal.Quiet.note rfl rfl).toCalm
  | _ => exact Journal.Quiet.empty.toCalm

/-- Evaluating conditions is calm: all there is to tell are outcomes of conditions. -/
lemma calm_evaluate (observed : Condition → UInt32) (conditions : List Condition)
    (callbacks : List ConditionCallback) :
    (ConditionSet.evaluate observed conditions callbacks).journal.Calm := by
  have htell : ∀ (outcome : Condition × Bool) (callbacks : List ConditionCallback),
      (Callback.tellAll ConditionSet.outcomeEvent outcome callbacks).journal.Calm := by
    intro outcome callbacks
    induction callbacks with
    | nil => exact Journal.Quiet.empty.toCalm
    | cons c rest ih => exact Journal.Calm.append ⟨rfl, rfl, rfl⟩ ih
  induction conditions generalizing callbacks with
  | nil => exact Journal.Quiet.empty.toCalm
  | cons c rest ih => exact (htell _ callbacks).append (ih _)

lemma calm_afterCheck (m : Monitor) (selects : Condition → Bool)
    (observed : Condition → UInt32) :
    (m.afterCheck (m.conditions.check selects observed)).journal.Calm :=
  calm_evaluate observed _ _

/-! ## States -/

/-- The watches, hardcore mode, the loaded game and the queue of commands. -/
def session (m : Monitor) : WatchList × Hardcore × Option String × List Command :=
  (m.watches, m.hardcore, m.game, m.followUps)

/-- A run of bytes is read through the probe. -/
lemma session_peekRun (address : UInt32) (count : Nat) (m : Monitor) :
    (peekRun address count m).state.session = m.session := by
  induction count generalizing address m with
  | zero => rfl
  | succ count ih =>
    simp only [peekRun, ih]
    unfold peek
    split <;> rfl

lemma session_addCondition (m : Monitor) (c : Condition) :
    (m.addCondition c).state.session = m.session := by
  unfold addCondition
  simp only
  split <;> rfl

/-- An operation that does not touch the session keeps it. -/
theorem session_step (m : Monitor) {op : MonitorOp} (h : op.touches = false) :
    (m.step op).state.session = m.session := by
  cases op with
  | addCondition c => exact session_addCondition m c
  | addConditionCode address size code configure =>
    simp only [step, answer, addConditionCode]
    split
    · exact session_addCondition m _
    · rfl
  | permits name =>
    simp only [step, answer, permits]
    split <;> rfl
  | allows archive use =>
    simp only [step, answer, allows]
    split <;> rfl
  | peek address =>
    simp only [step, answer, peek]
    split <;> rfl
  | peekBytes address buffer =>
    simp only [step, answer, peekBytes]
    split
    · exact session_peekRun address _ m
    · rfl
  | memory op =>
    simp only [step, answer, memoryStep, accept]
    split
    · rfl
    · split <;> rfl
  | _ => first | rfl | cases h

/-- An operation that does not settle keeps the queue of commands. -/
theorem followUps_step (m : Monitor) {op : MonitorOp} (h : op.settles = false) :
    (m.step op).state.followUps = m.followUps := by
  by_cases htouches : op.touches = false
  · have hsession := session_step m htouches
    simp only [session, Prod.mk.injEq] at hsession
    exact hsession.2.2.2
  cases op with
  | shutdown =>
    simp only [step, answerDone, answer, shutdown, removeIntercepts]
    split
    · split <;> rfl
    · rfl
  | unloadGame => exact followUps_unloadGame m
  | addWatch address size callback =>
    simp only [step, answer, addWatch]
    split
    · split <;> rfl
    · rfl
  | removeWatch address =>
    simp only [step, answer, removeWatch]
    split <;> rfl
  | clearWatches =>
    simp only [step, silently, clearWatches]
    split <;> rfl
  | addRegion r =>
    simp only [step, answer, addRegion]
    split <;> rfl
  | loadGame id => rfl
  | addObserver observer => rfl
  | clearRegions => rfl
  | resetAchievements => rfl
  | _ => first | exact absurd rfl htouches | cases h

/-- Dropping the game keeps hardcore mode. -/
lemma hardcore_unloadGame (m : Monitor) : m.unloadGame.state.hardcore = m.hardcore := by
  unfold unloadGame
  split <;> rfl

/-- An operation that neither settles nor governs keeps hardcore mode. -/
theorem hardcore_step (m : Monitor) {op : MonitorOp} (hsettles : op.settles = false)
    (hgoverns : op.governs = false) : (m.step op).state.hardcore = m.hardcore := by
  by_cases htouches : op.touches = false
  · have hsession := session_step m htouches
    simp only [session, Prod.mk.injEq] at hsession
    exact hsession.2.1
  cases op with
  | shutdown =>
    simp only [step, answerDone, answer, shutdown, removeIntercepts]
    split
    · split <;> rfl
    · rfl
  | loadGame id => rfl
  | unloadGame => exact hardcore_unloadGame m
  | addWatch address size callback =>
    simp only [step, answer, addWatch]
    split
    · split <;> rfl
    · rfl
  | removeWatch address =>
    simp only [step, answer, removeWatch]
    split <;> rfl
  | clearWatches =>
    simp only [step, silently, clearWatches]
    split <;> rfl
  | addObserver _ | addRegion _ | clearRegions | resetAchievements => cases hgoverns
  | _ => first | exact absurd rfl htouches | cases hsettles

end Monitor

end GuestWatch
