import GuestWatch.Proofs.Memory.Slots
import GuestWatch.Proofs.Monitor.Contents

set_option relaxedAutoImplicit false
set_option autoImplicit false

/-!
# The wiring of the monitor

How the monitor is connected to the memory is a matter of a few fields: its options, whether it is
started, whether its intercepts are installed, the accesses that wait, and the slots of the memory.
Few operations rewire the monitor: to start it and to shut it down, to do the work of a frame, to
apply the accesses that wait, and operations on the memory itself. All others leave the wiring as it
is, whatever callbacks they run and whatever commands come of that.

## Main definitions

* `GuestWatch.Monitor.wiring` — the fields that connect the monitor to the memory.
* `GuestWatch.MonitorOp.rewires` — the operations that may change them.
* `GuestWatch.MonitorOp.disturbs` — the operations that do more to the memory than to read it.

## Main results

* `GuestWatch.Monitor.wiring_drain` — carrying out commands leaves the wiring as it is.
* `GuestWatch.Monitor.wiring_step` — so does every operation that does not rewire.
* `GuestWatch.Monitor.recounted_step` — an operation that does not disturb the memory reads it at most.
-/

namespace GuestWatch

/-- Whether an operation may change how the monitor is connected to the memory. -/
def MonitorOp.rewires : MonitorOp → Bool
  | .start | .shutdown | .frame | .applyPending | .memory _ => true
  | _ => false

/-- Whether an operation does more to the memory than to read it: those that settle, that check it or
empty its slots, and those on the memory itself. -/
def MonitorOp.disturbs : MonitorOp → Bool
  | .shutdown | .checkMemory | .checkSystem | .memory _ => true
  | op => op.settles

namespace Ram

/-- A memory in which only raw reads were counted has the same slots. -/
lemma Recounted.slots {a b : Ram} (h : a.Recounted b) :
    a.readSlots = b.readSlots ∧ a.writeSlots = b.writeSlots := by
  obtain ⟨count, rfl⟩ := h
  exact ⟨rfl, rfl⟩

/-- It has the same write protection. -/
lemma Recounted.protection_eq {a b : Ram} (h : a.Recounted b) : a.protection = b.protection := by
  obtain ⟨count, rfl⟩ := h
  rfl

/-- A check of regions keeps book of them and does nothing else to the memory. -/
lemma checkRegions_frame (regions : List Region) (ram : Ram) : ∃ checked,
    (Hardcore.checkRegions regions ram).state = { ram with checked := checked } := by
  induction regions generalizing ram with
  | nil => exact ⟨ram.checked, rfl⟩
  | cons r rest ih =>
    simp only [Hardcore.checkRegions, GuestMemory.checkContents, checkContents]
    cases ram.rejected.contains (r.start, Word.satAdd r.start r.size) with
    | false => exact ih { ram with checked := ram.checked ++ [_] }
    | true => exact ⟨_, rfl⟩

end Ram

namespace Monitor

/-- The fields that connect the monitor to the memory: its options, whether it is started, whether
its intercepts are installed, the accesses that wait, and the slots for loads and for stores. -/
def wiring (m : Monitor) : Options × Bool × Bool × List Access × List Slot × List Slot :=
  (m.options, m.active, m.intercepting, m.pending, m.ram.readSlots, m.ram.writeSlots)

/-! ## Reads -/

/-- Reads count in the memory and charge faults, which leaves the wiring as it is. -/
lemma wiring_withProbe {m : Monitor} {probe : Probe Ram} (h : probe.memory.Recounted m.ram) :
    (m.withProbe probe).wiring = m.wiring := by
  simp only [wiring, withProbe, h.slots]

/-- Adding a watch reads its range at most. -/
lemma add_recounted (m : Monitor) (address size : UInt32) (callback : Option (Callback Change)) :
    (m.watches.add m.probe address size callback).state.2.memory.Recounted m.ram := by
  have hattempt := Probe.attempt_recounted m.probe address size
  unfold WatchList.add
  split
  · exact Ram.Recounted.refl _
  · split
    · simp only
      split <;> exact hattempt
    · exact Ram.Recounted.refl _

lemma wiring_addWatch (m : Monitor) (address size : UInt32)
    (callback : Option (Callback Change)) :
    (m.addWatch address size callback).state.wiring = m.wiring := by
  have hprobe := wiring_withProbe (m.add_recounted address size callback)
  unfold addWatch
  split
  · simp only
    split <;> exact hprobe
  · rfl

/-- A read only counts. -/
lemma recounted_read (m : Monitor) (address size : UInt32) :
    (m.read address size).state.ram.Recounted m.ram := by
  have hattempt := Probe.attempt_recounted m.probe address size
  unfold read Probe.read
  simp only
  split <;> exact hattempt

lemma wiring_read (m : Monitor) (address size : UInt32) :
    (m.read address size).state.wiring = m.wiring :=
  wiring_withProbe (recounted_read m address size)

lemma wiring_peek (m : Monitor) (address : UInt32) :
    (m.peek address).state.wiring = m.wiring := by
  unfold peek
  split
  · exact wiring_read m address 1
  · rfl

lemma wiring_peekRun (address : UInt32) (count : Nat) (m : Monitor) :
    (peekRun address count m).state.wiring = m.wiring := by
  induction count generalizing address m with
  | zero => rfl
  | succ count ih => exact (ih _ _).trans (wiring_peek m address)

lemma wiring_notify (m : Monitor) (address size : UInt32) :
    (m.notify address size).state.wiring = m.wiring :=
  wiring_withProbe (recounted_notify m address size)

lemma wiring_poll (m : Monitor) : m.poll.state.wiring = m.wiring :=
  wiring_withProbe (recounted_poll m)

/-! ## Accesses -/

lemma wiring_observe (m : Monitor) (access : Access) :
    (m.observe access).state.wiring = m.wiring := by
  unfold observe
  cases access.kind with
  | read => rfl
  | write => exact wiring_notify _ access.address access.size

lemma wiring_observeAll (accesses : List Access) (m : Monitor) :
    (observeAll accesses m).state.wiring = m.wiring := by
  induction accesses generalizing m with
  | nil => rfl
  | cons access rest ih => exact (ih _).trans (wiring_observe m access)

/-! ## Commands -/

lemma wiring_unloadGame (m : Monitor) : m.unloadGame.state.wiring = m.wiring := by
  unfold unloadGame
  split <;> rfl

/-- Switching hardcore mode switches the protection of the memory, which is no matter of wiring. -/
lemma wiring_switchHardcore (m : Monitor) (on : Bool) :
    (m.switchHardcore on).state.wiring = m.wiring := by
  simp only [switchHardcore, Hardcore.setEnabled]
  split <;> rfl

lemma wiring_endSession (m : Monitor) : m.endSession.state.wiring = m.wiring :=
  wiring_unloadGame _

lemma wiring_carryOut (m : Monitor) (command : Command) :
    (m.carryOut command).state.wiring = m.wiring := by
  cases command with
  | setHardcore on => exact wiring_switchHardcore m on
  | unloadGame => exact wiring_unloadGame m
  | disableAchievements => exact wiring_endSession m
  | _ => rfl

/-- **Carrying out commands leaves the wiring as it is**, whatever observers ask for meanwhile. -/
theorem wiring_drain (m : Monitor) : m.drain.state.wiring = m.wiring := by
  fun_induction drain m with
  | case1 m h => rfl
  | case2 m command rest h done drained ih =>
    exact ih.trans (wiring_carryOut { m with followUps := rest } command)

/-- Carrying out the commands that came up leaves the wiring as it is. -/
lemma wiring_settle {α : Type} (outcome : Outcome Monitor α) :
    (settle outcome).state.wiring = outcome.state.wiring :=
  wiring_drain outcome.state

/-! ## Operations -/

lemma wiring_addCondition (m : Monitor) (c : Condition) :
    (m.addCondition c).state.wiring = m.wiring := by
  unfold addCondition
  simp only
  split <;> rfl

lemma wiring_saveStateUsed (m : Monitor) : m.saveStateUsed.state.wiring = m.wiring := by
  unfold saveStateUsed
  rw [wiring_settle]
  split
  · exact wiring_endSession m
  · rfl

/-- To check the memory is to keep book of what was checked. -/
lemma checkMemory_frame (m : Monitor) : ∃ checked,
    (m.step .checkMemory).state = { m with ram := { m.ram with checked := checked } } := by
  simp only [step, answer, checkMemory, Hardcore.checkMemory]
  split
  · obtain ⟨checked, hram⟩ := Ram.checkRegions_frame m.hardcore.guard.regions m.ram
    rw [hram]
    exact ⟨checked, rfl⟩
  · exact ⟨m.ram.checked, rfl⟩

/-- To check all there is to check is no more. -/
lemma checkSystem_frame (m : Monitor) : ∃ checked,
    (m.step .checkSystem).state = { m with ram := { m.ram with checked := checked } } := by
  simp only [step, answer, checkSystem, Hardcore.checkSystem]
  split
  · exact checkMemory_frame m
  · exact ⟨m.ram.checked, rfl⟩

/-- **An operation that does not rewire leaves the wiring as it is.** -/
theorem wiring_step (m : Monitor) {op : MonitorOp} (h : op.rewires = false) :
    (m.step op).state.wiring = m.wiring := by
  cases op with
  | unloadGame => exact wiring_unloadGame m
  | writeObserved address size =>
    simp only [step, answer, writeObserved]
    split
    · exact (wiring_settle _).trans (wiring_notify m address size)
    · rfl
  | command c => exact wiring_drain (m.enqueue [c])
  | addWatch address size callback => exact wiring_addWatch m address size callback
  | removeWatch address =>
    simp only [step, answer, removeWatch]
    split <;> rfl
  | clearWatches =>
    simp only [step, silently, clearWatches]
    split <;> rfl
  | read address size => exact wiring_read m address size
  | addCondition c => exact wiring_addCondition m c
  | addConditionCode address size code configure =>
    simp only [step, answer, addConditionCode]
    split
    · exact wiring_addCondition m _
    · rfl
  | checkAddress address value => exact wiring_settle _
  | checkBetween start last => exact wiring_settle _
  | checkAll => exact wiring_settle _
  | setHardcore on => exact (wiring_settle _).trans (wiring_switchHardcore m on)
  | addRegion r =>
    simp only [step, answer, addRegion]
    split <;> rfl
  | permits name =>
    simp only [step, answer, permits]
    split <;> rfl
  | allows archive use =>
    simp only [step, answer, allows]
    split <;> rfl
  | checkMemory =>
    obtain ⟨checked, hstate⟩ := checkMemory_frame m
    rw [hstate]
    rfl
  | checkSystem =>
    obtain ⟨checked, hstate⟩ := checkSystem_frame m
    rw [hstate]
    rfl
  | saveStateCreated => exact wiring_saveStateUsed m
  | saveStateLoaded => exact wiring_saveStateUsed m
  | peek address => exact wiring_peek m address
  | peekBytes address buffer =>
    simp only [step, answer, peekBytes]
    split
    · exact wiring_peekRun address _ m
    · rfl
  | pokeObserved address value =>
    simp only [step, answerDone, answer, pokeObserved]
    split
    · exact (wiring_settle _).trans (wiring_observe m _)
    · rfl
  | _ => first | rfl | cases h

/-- An operation on the memory is one of the memory. -/
lemma ram_memoryStep (m : Monitor) (op : MemoryOp) :
    (m.memoryStep op).state.ram = (m.ram.step op).ram := by
  unfold memoryStep accept
  simp only
  split
  · rfl
  · split <;> rfl

/-! ## Operations that only read -/

lemma recounted_addWatch (m : Monitor) (address size : UInt32)
    (callback : Option (Callback Change)) :
    (m.addWatch address size callback).state.ram.Recounted m.ram := by
  have hadd := m.add_recounted address size callback
  unfold addWatch
  split
  · simp only
    split <;> exact hadd
  · exact Ram.Recounted.refl _

lemma recounted_peek (m : Monitor) (address : UInt32) :
    (m.peek address).state.ram.Recounted m.ram := by
  unfold peek
  split
  · exact recounted_read m address 1
  · exact Ram.Recounted.refl _

lemma recounted_peekRun (address : UInt32) (count : Nat) (m : Monitor) :
    (peekRun address count m).state.ram.Recounted m.ram := by
  induction count generalizing address m with
  | zero => exact Ram.Recounted.refl _
  | succ count ih => exact (ih _ _).trans (recounted_peek m address)

lemma ram_addCondition (m : Monitor) (c : Condition) : (m.addCondition c).state.ram = m.ram := by
  unfold addCondition
  simp only
  split <;> rfl

/-- **An operation that does not disturb the memory** reads it at most. -/
theorem recounted_step (m : Monitor) {op : MonitorOp} (h : op.disturbs = false) :
    (m.step op).state.ram.Recounted m.ram := by
  have hsame : ∀ {ram : Ram}, ram = m.ram → ram.Recounted m.ram := fun heq =>
    heq ▸ Ram.Recounted.refl m.ram
  cases op with
  | unloadGame => exact hsame (ram_unloadGame m)
  | addWatch address size callback => exact recounted_addWatch m address size callback
  | removeWatch address =>
    refine hsame ?_
    simp only [step, answer, removeWatch]
    split <;> rfl
  | clearWatches =>
    refine hsame ?_
    simp only [step, silently, clearWatches]
    split <;> rfl
  | read address size => exact recounted_read m address size
  | addCondition c => exact hsame (ram_addCondition m c)
  | addConditionCode address size code configure =>
    refine hsame ?_
    simp only [step, answer, addConditionCode]
    split
    · exact ram_addCondition m _
    · rfl
  | addRegion r =>
    refine hsame ?_
    simp only [step, answer, addRegion]
    split <;> rfl
  | permits name =>
    refine hsame ?_
    simp only [step, answer, permits]
    split <;> rfl
  | allows archive use =>
    refine hsame ?_
    simp only [step, answer, allows]
    split <;> rfl
  | peek address => exact recounted_peek m address
  | peekBytes address buffer =>
    simp only [step, answer, peekBytes]
    split
    · exact recounted_peekRun address _ m
    · exact Ram.Recounted.refl _
  | _ => first | exact Ram.Recounted.refl _ | cases h

end Monitor

end GuestWatch
