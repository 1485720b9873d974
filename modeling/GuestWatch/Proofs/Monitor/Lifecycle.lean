import GuestWatch.Proofs.Monitor.Frame
import GuestWatch.Proofs.Monitor.Wiring

set_option relaxedAutoImplicit false
set_option autoImplicit false

/-!
# The life of a monitor

A monitor may be started, shut down and started again. Its intercepts are installed by the first
frame after a start and emptied by a shutdown. Where the host installs no intercepts of its own,
the slots of the memory follow: over each window there is one slot for loads and one for stores, or
there is none yet, and the slots hold handlers exactly while the intercepts are installed. A monitor
that is not started is dormant: nothing is watched, nothing waits, and stores of the guest pass
unseen.

## Main definitions

* `GuestWatch.Monitor.Unhooked` — the states of a monitor whose host installs no intercepts.
* `GuestWatch.Monitor.Wired` — what holds in these states of the slots and of dormant monitors.
* `GuestWatch.MonitorOp.gated` — the operations that do nothing on a monitor that is not started.

## Main results

* `GuestWatch.Monitor.Wired.reports` — what the slots report.
* `GuestWatch.Monitor.wired_step` — every operation keeps the monitor wired.
* `GuestWatch.Monitor.lifecycle` — the lifecycle invariant.
-/

namespace GuestWatch

/-- Whether an operation lets the host install an intercept of its own. -/
def MonitorOp.hooks : MonitorOp → Bool
  | .memory op => op.hooks
  | _ => false

/-- Whether an operation does nothing on a monitor that is not started. -/
def MonitorOp.gated : MonitorOp → Bool
  | .frame | .addWatch .. | .removeWatch _ | .clearWatches | .writeObserved .. | .applyPending
  | .peek _ | .peekBytes .. | .pokeObserved .. => true
  | _ => false

/-- Slots without a handler: there are none yet, or those over the windows were emptied. -/
def Slot.Bare (priority : UInt32) (slots : List Slot) : Prop :=
  slots = [] ∨ slots = Window.slots priority fun _ => none

/-- An access as an intercept reports it: it reaches as far as its window goes on, four bytes at
most. -/
def Access.clipped (kind : Direction) (address value : UInt32) : Access :=
  ⟨address, ((Window.of? address).map fun w => w.clip address).getD 0, value, kind⟩

namespace Slot

variable {priority : UInt32} {slots : List Slot}

/-- Bare slots report nothing. -/
lemma Bare.reports (h : Bare priority slots) : Reports slots fun _ _ => none := by
  rcases h with rfl | rfl
  · exact reports_nil
  · intro address value
    have hnone : ∀ w : Window, ∀ c ∈ (none : Option Handler), c.Plain := fun w c hc => by cases hc
    rw [reports_slots priority hnone address value]
    simp only [Option.bind_none, Option.bind_fun_none]

/-- Bare slots hold no handler, and there are two of them at most. -/
lemma Bare.counts (h : Bare priority slots) : installed slots = 0 ∧ slots.length ≤ 2 := by
  rcases h with rfl | rfl
  · exact ⟨rfl, Nat.zero_le 2⟩
  · exact ⟨rfl, Nat.le_refl 2⟩

end Slot

namespace Monitor

/-- The slots for loads while the intercepts are installed. -/
def loadSlots (m : Monitor) : List Slot :=
  Window.slots m.options.interceptPriority fun w => some (m.readHandler w)

/-- The slots for stores while the intercepts are installed. -/
def storeSlots (m : Monitor) : List Slot :=
  Window.slots m.options.interceptPriority fun w => some (.capture w .write)

/-- The states of a monitor whose host installs no intercepts of its own. -/
inductive Unhooked : Monitor → Prop where
  /-- A new monitor. -/
  | make (options : Options) (now : UInt64) : Unhooked (make options now)
  /-- One more operation. -/
  | step {m : Monitor} (h : Unhooked m) {op : MonitorOp} (hop : op.hooks = false) :
      Unhooked (m.step op).state

lemma Unhooked.reachable {m : Monitor} (h : Unhooked m) : Reachable m := by
  induction h with
  | make options now => exact Reachable.make options now
  | step h hop ih => exact ih.step _

/-- A run in which the host installs no intercepts. -/
lemma Unhooked.run {m : Monitor} (h : Unhooked m) {ops : List MonitorOp}
    (hops : ∀ op ∈ ops, op.hooks = false) : Unhooked (Monitor.run ops m).state := by
  induction ops generalizing m with
  | nil => exact h
  | cons op rest ih =>
    have hhead := h.step (hops op List.mem_cons_self)
    exact ih hhead fun other hother => hops other (List.mem_cons_of_mem op hother)

/-- How the monitor and the slots of the memory hang together. -/
structure Wired (m : Monitor) : Prop where
  /-- Installed intercepts stand over the windows, for loads and for stores. -/
  live : m.intercepting = true →
    m.ram.readSlots = m.loadSlots ∧ m.ram.writeSlots = m.storeSlots
  /-- Without them the slots are bare. -/
  bare : m.intercepting = false →
    Slot.Bare m.options.interceptPriority m.ram.readSlots ∧
      Slot.Bare m.options.interceptPriority m.ram.writeSlots
  /-- Before its start nothing is watched, intercepted or waiting. -/
  dormant : m.active = false →
    m.watches.watches = [] ∧ m.intercepting = false ∧ m.pending = []

/-- A monitor with installed intercepts is started. -/
lemma Wired.active_of_intercepting {m : Monitor} (h : m.Wired) (hinstalled : m.intercepting = true) :
    m.active = true := by
  by_contra hidle
  obtain ⟨-, hbare, -⟩ := h.dormant (Bool.eq_false_iff.mpr hidle)
  rw [hinstalled] at hbare
  cases hbare

/-! ## What the slots report -/

/-- What guest loads report inside the windows, while the intercepts are installed and loads are
tracked. -/
def loadReport (m : Monitor) (address value : UInt32) : Option Access :=
  if m.intercepting && m.options.trackReads && (Window.of? address).isSome then
    some (Access.clipped .read address value)
  else none

/-- What guest stores report inside the windows, while the intercepts are installed. -/
def storeReport (m : Monitor) (address value : UInt32) : Option Access :=
  if m.intercepting && (Window.of? address).isSome then
    some (Access.clipped .write address value)
  else none

/-- **What the slots of a wired monitor report.** -/
theorem Wired.reports {m : Monitor} (h : m.Wired) :
    Slot.Reports m.ram.readSlots m.loadReport ∧ Slot.Reports m.ram.writeSlots m.storeReport := by
  cases hinstalled : m.intercepting with
  | false =>
    obtain ⟨hreads, hwrites⟩ := h.bare hinstalled
    have hload : m.loadReport = fun _ _ => none := by
      funext address value
      simp only [loadReport, hinstalled, Bool.false_and, Bool.false_eq_true, if_false]
    have hstore : m.storeReport = fun _ _ => none := by
      funext address value
      simp only [storeReport, hinstalled, Bool.false_and, Bool.false_eq_true, if_false]
    rw [hload, hstore]
    exact ⟨hreads.reports, hwrites.reports⟩
  | true =>
    obtain ⟨hreads, hwrites⟩ := h.live hinstalled
    rw [hreads, hwrites]
    constructor
    · have hplain : ∀ w, ∀ c ∈ some (m.readHandler w), c.Plain := by
        intro w c hc
        cases hc
        unfold readHandler
        split <;> exact trivial
      intro address value
      rw [loadSlots, Slot.reports_slots _ hplain address value]
      simp only [loadReport, hinstalled, Bool.true_and, Access.clipped, readHandler]
      cases m.options.trackReads <;> cases Window.of? address <;> rfl
    · have hplain : ∀ w : Window, ∀ c ∈ some (Handler.capture w .write), c.Plain := by
        intro w c hc
        cases hc
        exact trivial
      intro address value
      rw [storeSlots, Slot.reports_slots _ hplain address value]
      simp only [storeReport, hinstalled, Bool.true_and, Access.clipped]
      cases Window.of? address <;> rfl

/-- What an operation on the memory reports to the monitor, given what it answers. -/
def report (m : Monitor) (op : MemoryOp) (reply : MemoryReply) : Option Access :=
  Ram.reported m.loadReport m.storeReport op reply

/-- A monitor whose intercepts are not installed is told of no access. -/
lemma report_of_not_intercepting {m : Monitor} (h : m.intercepting = false) (op : MemoryOp)
    (reply : MemoryReply) : m.report op reply = none := by
  unfold report Ram.reported
  split <;> simp [loadReport, storeReport, h]

/-! ## Wired states -/

/-- What leaves the wiring as it is keeps a monitor wired, if it adds no watch to a dormant one. -/
lemma Wired.of_wiring {m m' : Monitor} (h : m.Wired) (hwiring : m'.wiring = m.wiring)
    (hwatches : m.active = false → m.watches.watches = [] → m'.watches.watches = []) :
    m'.Wired := by
  simp only [wiring, Prod.mk.injEq] at hwiring
  obtain ⟨hoptions, hactive, hintercepting, hpending, hreads, hwrites⟩ := hwiring
  refine ⟨fun hinstalled => ?_, fun hinstalled => ?_, fun hidle => ?_⟩
  · rw [hintercepting] at hinstalled
    simp only [loadSlots, storeSlots, readHandler, hoptions, hreads, hwrites]
    exact h.live hinstalled
  · rw [hintercepting] at hinstalled
    simp only [hoptions, hreads, hwrites]
    exact h.bare hinstalled
  · rw [hactive] at hidle
    obtain ⟨hnone, hbare, hempty⟩ := h.dormant hidle
    rw [hintercepting, hpending]
    exact ⟨hwatches hidle hnone, hbare, hempty⟩

/-- A new monitor has no slots. -/
lemma wired_make (options : Options) (now : UInt64) : (make options now).Wired :=
  ⟨(fun h => by cases h), fun _ => ⟨Or.inl rfl, Or.inl rfl⟩, fun _ => ⟨rfl, rfl, rfl⟩⟩

/-- Installing the intercepts of a started monitor.

**Proof sketch.** Where they are not installed yet, the slots are bare, and one slot over each
window is what installing makes of bare slots. -/
lemma wired_installIntercepts {m : Monitor} (h : m.Wired) (hactive : m.active = true) :
    m.installIntercepts.state.Wired ∧ m.installIntercepts.state.active = true := by
  cases hinstalled : m.intercepting with
  | true =>
    simp only [installIntercepts, hinstalled, if_true]
    exact ⟨h, hactive⟩
  | false =>
    obtain ⟨hreads, hwrites⟩ := h.bare hinstalled
    have hloads := Slot.foldl_install_slots m.options.interceptPriority
      (fun w => some (m.readHandler w)) (fun _ => none) hreads
    have hstores := Slot.foldl_install_slots m.options.interceptPriority
      (fun w => some (.capture w .write)) (fun _ => none) hwrites
    simp only [installIntercepts, hinstalled, Bool.false_eq_true, if_false]
    refine ⟨⟨fun _ => ⟨hloads, hstores⟩, (fun hbare => by cases hbare), fun hidle => ?_⟩, hactive⟩
    have hidle' : m.active = false := hidle
    rw [hactive] at hidle'
    cases hidle'

/-- Shutting a monitor down leaves it dormant. -/
lemma wired_shutdown {m : Monitor} (h : m.Wired) : m.shutdown.state.Wired := by
  cases hactive : m.active with
  | false =>
    simp only [shutdown, hactive, Bool.false_eq_true, if_false]
    exact h
  | true =>
    cases hinstalled : m.intercepting with
    | false =>
      simp only [shutdown, hactive, removeIntercepts, hinstalled, Bool.false_eq_true, if_true,
        if_false]
      refine ⟨fun hlive => ?_, fun _ => h.bare hinstalled, fun _ => ⟨rfl, hinstalled, rfl⟩⟩
      have hlive' : m.intercepting = true := hlive
      rw [hinstalled] at hlive'
      cases hlive'
    | true =>
      obtain ⟨hreads, hwrites⟩ := h.live hinstalled
      have hloads := Slot.foldl_install_slots m.options.interceptPriority (fun _ => none)
        (fun w => some (m.readHandler w)) (Or.inr hreads)
      have hstores := Slot.foldl_install_slots m.options.interceptPriority (fun _ => none)
        (fun w => some (.capture w .write)) (Or.inr hwrites)
      simp only [shutdown, hactive, removeIntercepts, hinstalled, if_true]
      exact ⟨(fun hlive => by cases hlive), fun _ => ⟨Or.inr hloads, Or.inr hstores⟩,
        fun _ => ⟨rfl, rfl, rfl⟩⟩

/-- Starting a monitor leaves its slots as they are. -/
lemma wired_start {m : Monitor} (h : m.Wired) : m.start.state.Wired := by
  cases hactive : m.active with
  | true =>
    simp only [start, hactive, if_true]
    exact h
  | false =>
    have hbase : { m with active := true }.Wired :=
      ⟨h.live, h.bare, (fun hidle => by cases hidle)⟩
    simp only [start, hactive, Bool.false_eq_true, if_false]
    split
    · have hswitched : ({ m with active := true }.setHardcore true).state.wiring =
          { m with active := true }.wiring :=
        (wiring_settle _).trans (wiring_switchHardcore _ true)
      exact hbase.of_wiring hswitched fun hidle => by cases hidle
    · exact hbase

/-- A started monitor applies the accesses that wait and carries out the commands that come up. -/
lemma applyPending_of_active {m : Monitor} (hactive : m.active = true) :
    m.applyPending =
      settle ⟨m.pending.length, (observeAll m.pending { m with pending := [] }).state,
        (observeAll m.pending { m with pending := [] }).journal⟩ :=
  if_pos hactive

/-- Applying the accesses that wait empties their queue and leaves the rest of the wiring. -/
lemma wiring_applyPending (m : Monitor) :
    m.applyPending.state.wiring = { m with pending := [] }.wiring := by
  unfold applyPending
  split
  · exact (wiring_settle _).trans (wiring_observeAll _ _)
  · exact wiring_settle _

/-- No watch comes into a monitor that is not started. -/
lemma watches_of_dormant {m : Monitor} (hactive : m.active = false)
    (hnone : m.watches.watches = []) (op : MonitorOp) :
    (m.step op).state.watches.watches = [] := by
  by_cases hadds : ∀ address size callback, op ≠ .addWatch address size callback
  · have haddresses := (course_step m hadds).addresses_sublist
    rw [hnone, List.map_nil, List.sublist_nil, List.map_eq_nil_iff] at haddresses
    exact haddresses
  · push Not at hadds
    obtain ⟨address, size, callback, rfl⟩ := hadds
    simp only [step, answer, addWatch, hactive, Bool.false_eq_true, if_false]
    exact hnone

/-- Applying the accesses that wait keeps a monitor wired. -/
lemma wired_applyPending {m : Monitor} (h : m.Wired) : m.applyPending.state.Wired := by
  have hemptied : { m with pending := [] }.Wired := by
    refine ⟨h.live, h.bare, fun hidle => ?_⟩
    obtain ⟨hnone, hbare, -⟩ := h.dormant hidle
    exact ⟨hnone, hbare, rfl⟩
  refine hemptied.of_wiring (wiring_applyPending m) fun hidle hnone => ?_
  exact @watches_of_dormant m hidle hnone .applyPending

/-- The work of a frame installs the intercepts and empties the queue of accesses. -/
lemma wiring_frame {m : Monitor} (hactive : m.active = true) :
    m.frame.state.wiring = { m.installIntercepts.state with pending := [] }.wiring := by
  have happlied := wiring_applyPending m.installIntercepts.state
  have hpolled : (settle m.installIntercepts.state.applyPending.state.poll).state.wiring =
      m.installIntercepts.state.applyPending.state.wiring :=
    (wiring_settle _).trans (wiring_poll _)
  simp only [frame, hactive, if_true]
  exact hpolled.trans happlied

/-- The work of a frame keeps a monitor wired. -/
lemma wired_frame {m : Monitor} (h : m.Wired) : m.frame.state.Wired := by
  cases hactive : m.active with
  | false =>
    simp only [frame, hactive, Bool.false_eq_true, if_false]
    exact h
  | true =>
    obtain ⟨hinstalled, hstarted⟩ := wired_installIntercepts h hactive
    have hemptied : { m.installIntercepts.state with pending := [] }.Wired := by
      refine ⟨hinstalled.live, hinstalled.bare, fun hidle => ?_⟩
      obtain ⟨hnone, hbare, -⟩ := hinstalled.dormant hidle
      exact ⟨hnone, hbare, rfl⟩
    refine hemptied.of_wiring (wiring_frame hactive) fun hidle => ?_
    have hidle' : m.installIntercepts.state.active = false := hidle
    rw [hstarted] at hidle'
    cases hidle'

/-- After a frame of a started monitor its intercepts are installed, and no access waits. -/
lemma intercepting_frame {m : Monitor} (hactive : m.active = true) :
    m.frame.state.intercepting = true ∧ m.frame.state.pending = [] ∧
      m.frame.state.options = m.options := by
  have hwiring := wiring_frame hactive
  simp only [wiring, Prod.mk.injEq] at hwiring
  obtain ⟨hoptions, -, hinstalled, hpending, -, -⟩ := hwiring
  rw [hoptions, hinstalled, hpending]
  unfold installIntercepts
  split
  · rename_i hbefore
    exact ⟨hbefore, rfl, rfl⟩
  · exact ⟨rfl, rfl, rfl⟩

/-! ## Operations on the memory -/

/-- **An operation on the memory of a wired monitor**: the slots stay, no hook is called, and the
access that is reported, if any, joins the queue when there is room. -/
theorem memoryStep_of_wired {m : Monitor} (h : m.Wired) {op : MemoryOp} (hop : op.hooks = false) :
    m.memoryStep op =
      ⟨(m.ram.step op).value,
        ({ m with ram := (m.ram.step op).ram }.accept
          (m.report op (m.ram.step op).value)).state,
        ({ m with ram := (m.ram.step op).ram }.accept
          (m.report op (m.ram.step op).value)).journal⟩ ∧
      (m.ram.step op).ram.readSlots = m.ram.readSlots ∧
      (m.ram.step op).ram.writeSlots = m.ram.writeSlots := by
  obtain ⟨hreads, hwrites⟩ := h.reports
  obtain ⟨hloads, hstores, hevents, hcaptured⟩ := Ram.step_of_reports hreads hwrites hop
  refine ⟨?_, hloads, hstores⟩
  simp only [memoryStep, hevents, hcaptured, Journal.empty_append, report]

/-- While there is room, a reported access joins the queue. -/
lemma accept_of_room {m : Monitor} (hroom : m.pending.length < m.capacity) (access : Access) :
    (m.accept (some access)).state = { m with pending := m.pending ++ [access] } := by
  simp only [accept, hroom, if_true]

/-- Accepting an access changes the queue at most. -/
lemma accept_cases (m : Monitor) (reported : Option Access) :
    (m.accept reported).state = m ∨ ∃ access, reported = some access ∧
      (m.accept reported).state = { m with pending := m.pending ++ [access] } := by
  cases reported with
  | none => exact Or.inl rfl
  | some access =>
    by_cases hroom : m.pending.length < m.capacity
    · exact Or.inr ⟨access, rfl, accept_of_room hroom access⟩
    · left
      simp only [accept, hroom, if_false]

/-- An operation on the memory keeps a monitor wired. -/
lemma wired_memoryStep {m : Monitor} (h : m.Wired) {op : MemoryOp} (hop : op.hooks = false) :
    (m.memoryStep op).state.Wired := by
  obtain ⟨hstep, hloads, hstores⟩ := memoryStep_of_wired h hop
  have hram : { m with ram := (m.ram.step op).ram }.Wired := by
    refine h.of_wiring ?_ fun _ hnone => hnone
    simp only [wiring, hloads, hstores]
  rw [hstep]
  rcases accept_cases { m with ram := (m.ram.step op).ram }
    (m.report op (m.ram.step op).value) with hsame | ⟨access, hreport, hqueued⟩
  · simp only [hsame]
    exact hram
  · simp only [hqueued]
    refine ⟨hram.live, hram.bare, fun hidle => ?_⟩
    -- a dormant monitor has no intercepts installed, so nothing was reported to it
    obtain ⟨-, hbare, -⟩ := h.dormant hidle
    rw [report_of_not_intercepting hbare] at hreport
    cases hreport

/-- **Every operation keeps the monitor wired**, if the host installs no intercept by it. -/
theorem wired_step {m : Monitor} (h : m.Wired) {op : MonitorOp} (hop : op.hooks = false) :
    (m.step op).state.Wired := by
  by_cases hrewires : op.rewires = false
  · exact h.of_wiring (wiring_step m hrewires) fun hidle hnone => watches_of_dormant hidle hnone op
  cases op with
  | start => exact wired_start h
  | shutdown => exact wired_shutdown h
  | frame => exact wired_frame h
  | applyPending => exact wired_applyPending h
  | memory op => exact wired_memoryStep h hop
  | _ => exact absurd rfl hrewires

/-- A monitor whose host installs no intercepts is wired. -/
theorem Unhooked.wired {m : Monitor} (h : Unhooked m) : m.Wired := by
  induction h with
  | make options now => exact wired_make options now
  | step h hop ih => exact wired_step ih hop

/-! ## Dormant monitors -/

/-- A gated operation does nothing on a monitor that is not started, where nothing waits. -/
lemma step_of_gated {m : Monitor} (hactive : m.active = false) (hpending : m.pending = [])
    (hqueue : m.followUps = []) {op : MonitorOp} (hop : op.gated = true) :
    (m.step op).state = m ∧ (m.step op).journal = {} := by
  have hbridged : m.bridged = false := by rw [bridged, hactive, Bool.false_and]
  cases op with
  | frame =>
    simp only [step, answer, frame, hactive, Bool.false_eq_true, if_false, and_self]
  | addWatch address size callback =>
    simp only [step, answer, addWatch, hactive, Bool.false_eq_true, if_false, and_self]
  | removeWatch address =>
    simp only [step, answer, removeWatch, hactive, Bool.false_eq_true, if_false, and_self]
  | clearWatches =>
    simp only [step, silently, clearWatches, hactive, Bool.false_eq_true, if_false, and_self]
  | writeObserved address size =>
    simp only [step, answer, writeObserved, hactive, Bool.false_eq_true, if_false, and_self]
  | applyPending =>
    simp only [step, answer, applyPending_of_nil hpending hqueue, and_self]
  | peek address =>
    simp only [step, answer, peek, hbridged, Bool.false_eq_true, if_false, and_self]
  | peekBytes address buffer =>
    simp only [step, answer, peekBytes, hbridged, Bool.false_eq_true, if_false, and_self]
  | pokeObserved address value =>
    simp only [step, answerDone, answer, pokeObserved, hbridged, Bool.false_eq_true, if_false,
      and_self]
  | _ => cases hop

/-- Nothing joins the queue of a dormant monitor. -/
lemma pending_of_dormant {m : Monitor} (h : m.Wired) (hactive : m.active = false) {op : MemoryOp}
    (hop : op.hooks = false) : (m.memoryStep op).state.pending = [] := by
  obtain ⟨-, hbare, hempty⟩ := h.dormant hactive
  obtain ⟨hstep, -, -⟩ := memoryStep_of_wired h hop
  rw [hstep, report_of_not_intercepting hbare]
  exact hempty

/-- **The lifecycle of a monitor** whose host installs no intercepts of its own, over any number of
starts, frames and shutdowns. While it is not started nothing is watched, no intercept is installed
and nothing waits. The intercepts are installed exactly when two slots for loads and two for stores
hold a handler, and otherwise no slot does; there are never more than two slots of a kind. On a
monitor that is not started, frames, changes and notices of watches, and the accesses of a game's
rules do nothing at all, and no access of the guest makes anything wait.

**Proof sketch.** Every operation keeps the monitor wired: those that do not rewire it leave the
slots and the queue as they are, a frame puts handlers over the windows where the slots are bare,
and a shutdown empties them. -/
theorem lifecycle {m : Monitor} (h : Unhooked m) :
    (m.active = false → m.watches.watches = [] ∧ m.intercepting = false ∧ m.pending = []) ∧
    (m.intercepting = true ↔
      Slot.installed m.ram.readSlots = 2 ∧ Slot.installed m.ram.writeSlots = 2) ∧
    (m.intercepting = false →
      Slot.installed m.ram.readSlots = 0 ∧ Slot.installed m.ram.writeSlots = 0) ∧
    m.ram.readSlots.length ≤ 2 ∧ m.ram.writeSlots.length ≤ 2 ∧
    (m.active = false → ∀ op : MonitorOp, op.gated = true →
      (m.step op).state = m ∧ (m.step op).journal = {}) ∧
    (m.active = false → ∀ op : MemoryOp, op.hooks = false →
      (m.step (.memory op)).state.pending = []) := by
  have hwired := h.wired
  have hgated : m.active = false → ∀ op : MonitorOp, op.gated = true →
      (m.step op).state = m ∧ (m.step op).journal = {} := by
    intro hactive op hop
    obtain ⟨-, -, hempty⟩ := hwired.dormant hactive
    exact step_of_gated hactive hempty h.reachable.followUps_eq_nil hop
  have hunseen : m.active = false → ∀ op : MemoryOp, op.hooks = false →
      (m.step (.memory op)).state.pending = [] :=
    fun hactive op hop => pending_of_dormant hwired hactive hop
  cases hinstalled : m.intercepting with
  | true =>
    obtain ⟨hreads, hwrites⟩ := hwired.live hinstalled
    have hdormant := hwired.dormant
    rw [hinstalled] at hdormant
    rw [hreads, hwrites]
    exact ⟨hdormant, ⟨fun _ => ⟨rfl, rfl⟩, fun _ => rfl⟩, (fun hbare => by cases hbare),
      Nat.le_refl 2, Nat.le_refl 2, hgated, hunseen⟩
  | false =>
    obtain ⟨hreads, hwrites⟩ := hwired.bare hinstalled
    obtain ⟨hloads, hloads'⟩ := hreads.counts
    obtain ⟨hstores, hstores'⟩ := hwrites.counts
    have hdormant := hwired.dormant
    rw [hinstalled] at hdormant
    refine ⟨hdormant, ⟨(fun hlive => by cases hlive), fun hlive => ?_⟩,
      fun _ => ⟨hloads, hstores⟩, hloads', hstores', hgated, hunseen⟩
    rw [hloads] at hlive
    exact absurd hlive.1 (by decide)

/-- A monitor is inactive after a shutdown. -/
lemma active_shutdown (m : Monitor) : m.shutdown.state.active = false := by
  unfold shutdown
  split
  · rfl
  · rename_i hactive
    exact Bool.eq_false_iff.mpr hactive

/-- A monitor that went through two lives. In each of them a frame was done, and the guest stored a
word that waited when the monitor was shut down. -/
def retired : Monitor :=
  (run [.start, .addWatch 0x1000 4 none, .frame, .memory (.storeWord 0x1000 7), .shutdown,
    .start, .frame, .memory (.storeWord 0x1000 8), .shutdown] (make {} 0)).state

/-- The monitor `retired` is dormant, and a store of the guest passes it unseen. -/
theorem lifecycle_retired :
    Unhooked retired ∧ retired.active = false ∧ retired.watches.watches = [] ∧
      retired.pending = [] ∧ Slot.installed retired.ram.writeSlots = 0 ∧
      (retired.step .frame).state = retired ∧
      (retired.step (.memory (.storeWord 0x1000 9))).state.pending = [] := by
  have hunhooked : Unhooked retired := (Unhooked.make {} 0).run (by decide)
  have hidle : retired.active = false := active_shutdown _
  obtain ⟨hdormant, -, hbare, -, -, hgated, hunseen⟩ := lifecycle hunhooked
  obtain ⟨hnone, hinstalled, hempty⟩ := hdormant hidle
  exact ⟨hunhooked, hidle, hnone, hempty, (hbare hinstalled).2, (hgated hidle .frame rfl).1,
    hunseen hidle (.storeWord 0x1000 9) rfl⟩

end Monitor

end GuestWatch
