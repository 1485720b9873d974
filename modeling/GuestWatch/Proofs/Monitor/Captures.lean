import GuestWatch.Proofs.Monitor.Intercepted

set_option relaxedAutoImplicit false
set_option autoImplicit false

/-!
# Where the accesses that wait come from

Accesses join the queue of the monitor in one way only: a slot of its own reports them. Such a slot
lies over a window, and what it reports is clipped to that window. The host may install hooks beside
these slots and over them; a hook reports nothing to the monitor. So whatever was done to a monitor,
the accesses that wait have legal ranges.

## Main definitions

* `GuestWatch.Slot.Fits` — a slot that reports to the monitor lies over the window of its handler.
* `GuestWatch.Monitor.Tapped` — all slots fit, and all accesses that wait are clipped.

## Main results

* `GuestWatch.Slot.dispatch_of_fits` — what slots that fit report is clipped.
* `GuestWatch.Monitor.tapped_step` — every operation keeps the monitor tapped.
-/

namespace GuestWatch

namespace Slot

/-- A slot whose handler reports accesses to the monitor lies over the window of that handler. -/
def Fits (slot : Slot) : Prop :=
  ∀ w kind, slot.handler = some (.capture w kind) → slot.start = w.start ∧ slot.size = w.size

variable {slots : List Slot}

/-- Installing a slot that fits leaves slots that fit. -/
lemma fits_install (h : ∀ other ∈ slots, other.Fits) {slot : Slot} (hslot : slot.Fits) :
    ∀ other ∈ install slot slots, other.Fits := by
  intro other hother
  rcases mem_of_mem_install hother with rfl | hmem
  · exact hslot
  · exact h other hmem

/-- **What slots that fit report** is clipped to a window, and they still fit afterwards. -/
theorem dispatch_of_fits (h : ∀ slot ∈ slots, slot.Fits) (address value : UInt32) :
    (∀ slot ∈ (dispatch address value slots).slots, slot.Fits) ∧
      ∀ access ∈ (dispatch address value slots).captured, access.Clipped := by
  unfold dispatch
  cases hwinner : winner? address slots with
  | none => exact ⟨h, fun _ hnone => by cases hnone⟩
  | some slot =>
    obtain ⟨hmem, hcovers⟩ := mem_of_winner? hwinner
    have hfits := h slot hmem
    simp only
    cases hhandler : slot.handler with
    | none => exact ⟨h, fun _ hnone => by cases hnone⟩
    | some handler =>
      cases handler with
      | capture w kind =>
        obtain ⟨hstart, hsize⟩ := hfits w kind hhandler
        refine ⟨fits_install h fun v direction hsame => ?_, fun access haccess => ?_⟩
        · cases hsame
          exact ⟨hstart, hsize⟩
        · cases haccess
          have howner : Window.of? address = some w := by
            rw [covers, hstart, hsize] at hcovers
            exact Window.of?_eq_some_iff.mpr hcovers
          refine ⟨by simp only [howner, Option.isSome_some], ?_⟩
          simp only [Access.clipped, howner, Option.map_some, Option.getD_some]
      | passThrough =>
        refine ⟨fits_install h fun v direction hsame => ?_, fun access hnone => ?_⟩
        · cases hsame
        · cases hnone
      | host hook =>
        refine ⟨fits_install h fun v direction hsame => ?_, fun access hnone => ?_⟩
        · cases hsame
        · cases hnone

end Slot

/-- A memory whose slots fit. -/
structure Ram.Fits (ram : Ram) : Prop where
  /-- The slots for loads fit. -/
  reads : ∀ slot ∈ ram.readSlots, slot.Fits
  /-- The slots for stores fit. -/
  writes : ∀ slot ∈ ram.writeSlots, slot.Fits

namespace Ram

variable {ram : Ram}

/-- Installing a slot that fits leaves a memory whose slots fit. -/
lemma Fits.installSlot (h : ram.Fits) {slot : Slot} (hslot : slot.Fits) (kind : Direction) :
    (ram.installSlot slot kind).Fits := by
  cases kind with
  | read => exact ⟨Slot.fits_install h.reads hslot, h.writes⟩
  | write => exact ⟨h.reads, Slot.fits_install h.writes hslot⟩

/-- The intercept of a store reports what is clipped. -/
lemma Fits.afterStore (h : ram.Fits) (address value : UInt32) :
    (ram.afterStore address value).ram.Fits ∧
      ∀ access ∈ (ram.afterStore address value).captured, access.Clipped := by
  obtain ⟨hslots, hcaptured⟩ := Slot.dispatch_of_fits h.writes address value
  exact ⟨⟨h.reads, hslots⟩, hcaptured⟩

/-- A raw read reports nothing. -/
lemma Fits.readReply (h : ram.Fits) (address : UInt32) (count : Nat) :
    (ram.readReply address count).ram.Fits ∧ (ram.readReply address count).captured = none := by
  rcases rawRead_cases address count ram with ⟨bytes, -, hraw⟩ | ⟨e, -, hraw⟩ <;>
    simp only [Ram.readReply, hraw, and_true] <;> exact ⟨h.reads, h.writes⟩

/-- **An operation on a memory whose slots fit** leaves slots that fit, and what it reports to the
monitor is clipped. -/
theorem Fits.step (h : ram.Fits) (op : MemoryOp) :
    (ram.step op).ram.Fits ∧ ∀ access ∈ (ram.step op).captured, access.Clipped := by
  have hnone : ∀ access ∈ (none : Option Access), access.Clipped := fun _ haccess => by cases haccess
  have hread : ∀ (address : UInt32) (count : Nat), (ram.readReply address count).ram.Fits ∧
      ∀ access ∈ (ram.readReply address count).captured, access.Clipped := by
    intro address count
    obtain ⟨hfits, hcaptured⟩ := h.readReply address count
    exact ⟨hfits, hcaptured ▸ hnone⟩
  cases op with
  | storeByte address value =>
    have hpoked : (ram.poke address [value]).Fits := ⟨h.reads, h.writes⟩
    exact hpoked.afterStore address value.toUInt32
  | storeWord address value =>
    have hset : (ram.setWord address value).Fits := ⟨h.reads, h.writes⟩
    exact hset.afterStore address value
  | loadWord address =>
    rcases rawRead_cases address 4 ram with ⟨bytes, -, hraw⟩ | ⟨e, -, hraw⟩
    · obtain ⟨hslots, hcaptured⟩ :=
        Slot.dispatch_of_fits h.reads address (UInt32.ofNat (ofLittleEndian bytes))
      simp only [Ram.step, loadWord, hraw, countRead]
      exact ⟨⟨hslots, h.writes⟩, hcaptured⟩
    · simp only [Ram.step, loadWord, hraw, countRead]
      exact ⟨⟨h.reads, h.writes⟩, hnone⟩
  | readByte address => exact hread address 1
  | readHalf address => exact hread address 2
  | readWord address => exact hread address 4
  | failAt address =>
    simp only [Ram.step, failAt]
    split <;> exact ⟨⟨h.reads, h.writes⟩, hnone⟩
  | installHook kind start size priority hook =>
    refine ⟨h.installSlot (fun w direction hsame => ?_) kind, hnone⟩
    -- a hook of the host is no capture
    cases hook <;> cases hsame
  | _ => exact ⟨⟨h.reads, h.writes⟩, hnone⟩

end Ram

namespace Monitor

/-- The slots of the memory fit, and the accesses that wait are clipped. -/
structure Tapped (m : Monitor) : Prop where
  /-- The slots fit. -/
  fits : m.ram.Fits
  /-- The accesses that wait are clipped. -/
  pending : ∀ access ∈ m.pending, access.Clipped

variable {m : Monitor}

/-- What leaves the wiring as it is keeps a monitor tapped. -/
lemma Tapped.of_wiring {m' : Monitor} (h : m.Tapped) (hwiring : m'.wiring = m.wiring) :
    m'.Tapped := by
  simp only [wiring, Prod.mk.injEq] at hwiring
  obtain ⟨-, -, -, hpending, hreads, hwrites⟩ := hwiring
  exact ⟨⟨hreads ▸ h.fits.reads, hwrites ▸ h.fits.writes⟩, hpending ▸ h.pending⟩

/-- Accesses may be taken off the queue. -/
lemma Tapped.emptied (h : m.Tapped) : { m with pending := [] }.Tapped :=
  ⟨h.fits, fun _ hmem => by cases hmem⟩

/-- The monitor installs slots over the windows of their handlers. -/
lemma Tapped.installSlot (h : m.Tapped) (w : Window) (kind : Direction) {handler : Option Handler}
    (hhandler : ∀ v direction, handler = some (.capture v direction) → v = w) :
    (m.installSlot w kind handler).Tapped := by
  refine ⟨h.fits.installSlot (fun v direction hsame => ?_) kind, h.pending⟩
  rw [hhandler v direction hsame]
  exact ⟨rfl, rfl⟩

/-- Installing the intercepts keeps a monitor tapped. -/
lemma Tapped.installIntercepts (h : m.Tapped) : m.installIntercepts.state.Tapped := by
  have hboth : ∀ (m : Monitor) (w : Window), m.Tapped →
      ((m.installSlot w .read (some (m.readHandler w))).installSlot w .write
        (some (.capture w .write))).Tapped := by
    intro m w h
    refine (h.installSlot w .read fun v direction hsame => ?_).installSlot w .write
      fun v direction hsame => ?_
    · unfold readHandler at hsame
      split at hsame <;> cases hsame
      rfl
    · cases hsame
      rfl
  unfold Monitor.installIntercepts
  split
  · exact h
  · have hinstalled := hboth _ .scratchpad (hboth m .ram h)
    exact ⟨hinstalled.fits, hinstalled.pending⟩

/-- Removing the intercepts keeps a monitor tapped. -/
lemma Tapped.removeIntercepts (h : m.Tapped) : m.removeIntercepts.state.Tapped := by
  have hboth : ∀ (m : Monitor) (w : Window), m.Tapped →
      ((m.installSlot w .read none).installSlot w .write none).Tapped := by
    intro m w h
    exact (h.installSlot w .read fun v direction hsame => by cases hsame).installSlot w .write
      fun v direction hsame => by cases hsame
  unfold Monitor.removeIntercepts
  split
  · have hremoved := hboth _ .scratchpad (hboth m .ram h)
    exact ⟨hremoved.fits, hremoved.pending⟩
  · exact h

/-- An operation on the memory keeps a monitor tapped. -/
lemma Tapped.memoryStep (h : m.Tapped) (op : MemoryOp) : (m.memoryStep op).state.Tapped := by
  obtain ⟨hfits, hcaptured⟩ := h.fits.step op
  have hram : { m with ram := (m.ram.step op).ram }.Tapped := ⟨hfits, h.pending⟩
  show ({ m with ram := (m.ram.step op).ram }.accept (m.ram.step op).captured).state.Tapped
  rcases accept_cases { m with ram := (m.ram.step op).ram } (m.ram.step op).captured with
    hsame | ⟨access, hreported, hqueued⟩
  · rw [hsame]
    exact hram
  · rw [hqueued]
    refine ⟨hfits, fun other hother => ?_⟩
    rcases List.mem_append.mp hother with hold | hnew
    · exact h.pending other hold
    · rw [List.mem_singleton.mp hnew]
      exact hcaptured access hreported

/-- Starting a monitor keeps it tapped. -/
lemma Tapped.start (h : m.Tapped) : m.start.state.Tapped := by
  have hstarted : { m with active := true }.Tapped := ⟨h.fits, h.pending⟩
  unfold Monitor.start
  split
  · exact h
  · simp only
    split
    · exact hstarted.of_wiring ((wiring_settle _).trans (wiring_switchHardcore _ true))
    · exact hstarted

/-- Shutting a monitor down keeps it tapped. -/
lemma Tapped.shutdown (h : m.Tapped) : m.shutdown.state.Tapped := by
  unfold Monitor.shutdown
  split
  · exact ⟨h.removeIntercepts.fits, h.removeIntercepts.emptied.pending⟩
  · exact h

/-- The work of a frame keeps a monitor tapped. -/
lemma Tapped.frame (h : m.Tapped) : m.frame.state.Tapped := by
  cases hactive : m.active with
  | false =>
    simp only [Monitor.frame, hactive, Bool.false_eq_true, if_false]
    exact h
  | true => exact h.installIntercepts.emptied.of_wiring (wiring_frame hactive)

/-- **Every operation keeps the monitor tapped.** -/
theorem tapped_step (h : m.Tapped) (op : MonitorOp) : (m.step op).state.Tapped := by
  by_cases hrewires : op.rewires = false
  · exact h.of_wiring (wiring_step m hrewires)
  cases op with
  | start => exact h.start
  | shutdown => exact h.shutdown
  | frame => exact h.frame
  | applyPending => exact h.emptied.of_wiring (wiring_applyPending m)
  | memory op => exact h.memoryStep op
  | _ => exact absurd rfl hrewires

/-- A reachable monitor is tapped. -/
theorem Reachable.tapped (h : Reachable m) : m.Tapped := by
  induction h with
  | make options now =>
    exact ⟨⟨List.forall_mem_nil _, List.forall_mem_nil _⟩, List.forall_mem_nil _⟩
  | step h op ih => exact tapped_step ih op

end Monitor

end GuestWatch
