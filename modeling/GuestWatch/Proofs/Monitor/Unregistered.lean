import GuestWatch.Proofs.Memory.Vacant
import GuestWatch.Proofs.Monitor.Lifecycle

set_option relaxedAutoImplicit false
set_option autoImplicit false

/-!
# Intercepts that were removed

An intercept is removed by installing a slot without a handler in its place, and so are those of the
monitor when it is shut down. At the addresses that the empty slot does not shadow, the guest then
finds what it would find had no slot with these bounds ever been there. At an address that it does
shadow, an intercept that the host has installed over a part of the range is not run, although no
handler is left that comes before it.

## Main definitions

* `GuestWatch.Ram.ServesAs` — two memories that serve the guest alike but for some addresses.
* `GuestWatch.Ram.installAll` — installs slots one after the other.
* `GuestWatch.Window.allBounds` — the bounds of the windows, for both kinds of access.

## Main results

* `GuestWatch.Monitor.distinct_slots_step` — every operation keeps the bounds of slots distinct.
* `GuestWatch.Monitor.unregistered` — removed intercepts are gone, but for the addresses they shadow.
* `GuestWatch.Monitor.unregistered_shadowing` — an intercept of the host that is not run after the
  monitor was shut down.
-/

namespace GuestWatch

/-! ## Slots that are installed -/

/-- An access stores the new state of a handler by installing its slot again. -/
lemma Slot.Distinct.dispatch {slots : List Slot} (h : Distinct slots) (address value : UInt32) :
    Distinct (Slot.dispatch address value slots).slots := by
  unfold Slot.dispatch
  cases winner? address slots with
  | none => exact h
  | some slot =>
    cases hhandler : slot.handler with
    | none => simpa only [hhandler] using h
    | some handler => simpa only [hhandler] using h.install _

namespace Ram

variable {ram : Ram}

lemma Distinct.installSlot (h : ram.Distinct) (slot : Slot) (kind : Direction) :
    (ram.installSlot slot kind).Distinct := by
  intro other
  cases kind with
  | read =>
    cases other with
    | read => exact (h .read).install slot
    | write => exact h .write
  | write =>
    cases other with
    | read => exact h .read
    | write => exact (h .write).install slot

/-- An operation on the memory keeps the bounds of slots distinct. -/
lemma Distinct.step (h : ram.Distinct) (op : MemoryOp) : (ram.step op).ram.Distinct := by
  intro kind
  rcases ram.slots_step_cases op kind with hsame | ⟨address, value, hran⟩ | ⟨-, slot, hinstalled⟩
  · exact hsame ▸ h kind
  · exact hran ▸ (h kind).dispatch address value
  · exact hinstalled ▸ (h kind).install slot

end Ram

namespace Monitor

variable {m : Monitor}

/-- Both slots of a window are installed one after the other. -/
lemma distinct_installBoth (h : m.ram.Distinct) (w : Window) (reads writes : Option Handler) :
    ((m.installSlot w .read reads).installSlot w .write writes).ram.Distinct :=
  (h.installSlot _ .read).installSlot _ .write

lemma distinct_installIntercepts (h : m.ram.Distinct) :
    m.installIntercepts.state.ram.Distinct := by
  unfold installIntercepts
  split
  · exact h
  · exact distinct_installBoth (distinct_installBoth h .ram _ _) .scratchpad _ _

lemma distinct_removeIntercepts (h : m.ram.Distinct) : m.removeIntercepts.state.ram.Distinct := by
  unfold removeIntercepts
  split
  · exact distinct_installBoth (distinct_installBoth h .ram _ _) .scratchpad _ _
  · exact h

/-- What leaves the wiring as it is keeps the bounds of slots distinct. -/
lemma distinct_of_wiring {m' : Monitor} (h : m.ram.Distinct) (hwiring : m'.wiring = m.wiring) :
    m'.ram.Distinct := by
  simp only [wiring, Prod.mk.injEq] at hwiring
  obtain ⟨-, -, -, -, hreads, hwrites⟩ := hwiring
  intro kind
  cases kind with
  | read =>
    show Slot.Distinct m'.ram.readSlots
    exact hreads ▸ h .read
  | write =>
    show Slot.Distinct m'.ram.writeSlots
    exact hwrites ▸ h .write

/-- **Every operation keeps the bounds of slots distinct**: slots are only changed by installing
some. -/
theorem distinct_slots_step (h : m.ram.Distinct) (op : MonitorOp) :
    (m.step op).state.ram.Distinct := by
  by_cases hrewires : op.rewires = false
  · exact distinct_of_wiring h (wiring_step m hrewires)
  cases op with
  | start =>
    show m.start.state.ram.Distinct
    have hstarted : { m with active := true }.ram.Distinct := h
    unfold start
    split
    · exact h
    · simp only
      split
      · exact distinct_of_wiring hstarted
          ((wiring_settle _).trans (wiring_switchHardcore _ true))
      · exact h
  | shutdown =>
    show m.shutdown.state.ram.Distinct
    unfold shutdown
    split
    · exact distinct_removeIntercepts h
    · exact h
  | frame =>
    show m.frame.state.ram.Distinct
    cases hactive : m.active with
    | false =>
      simp only [frame, hactive, Bool.false_eq_true, if_false]
      exact h
    | true =>
      have hinstalled : { m.installIntercepts.state with pending := [] }.ram.Distinct :=
        distinct_installIntercepts h
      exact distinct_of_wiring hinstalled (wiring_frame hactive)
  | applyPending =>
    have hemptied : { m with pending := [] }.ram.Distinct := h
    exact distinct_of_wiring hemptied (wiring_applyPending m)
  | memory op =>
    show (m.memoryStep op).state.ram.Distinct
    rw [ram_memoryStep]
    exact h.step op
  | _ => exact absurd rfl hrewires

/-- The slots of a reachable monitor have distinct bounds. -/
lemma Reachable.distinct_slots (h : Reachable m) : m.ram.Distinct := by
  induction h with
  | make options now => intro kind; cases kind <;> exact List.nodup_nil
  | step h op ih => exact distinct_slots_step ih op

end Monitor

/-! ## Memories that serve alike -/

namespace Ram

/-- Two memories serve the guest alike but for some addresses: at exactly the other ones the same
handler runs, and operations that access no other ones answer and report the same. -/
structure ServesAs (a b : Ram) (off : Direction → UInt32 → Prop) : Prop where
  /-- The same handler runs. -/
  responder : ∀ kind address, Slot.responder? address (a.slots kind) =
    Slot.responder? address (b.slots kind) ↔ ¬ off kind address
  /-- Operations answer and report the same. -/
  trace : ∀ later : List MemoryOp, (∀ op ∈ later, op.hooks = false) →
    (∀ op ∈ later, ∀ kind address, op.access? = some (kind, address) → ¬ off kind address) →
    trace later a = trace later b

/-- A memory with vacant slots serves as the one without them, but for what they shadow. -/
theorem Vacated.servesAs {gone : Direction → List (UInt32 × UInt32)} {ram : Ram}
    (h : ram.Vacated gone) : ram.ServesAs (ram.without gone) (ram.Shadowed gone) := by
  refine ⟨fun kind address => ?_, fun later hops hclear => (trace_without h hops hclear).symm⟩
  have hslots : (ram.without gone).slots kind = Slot.without (gone kind) (ram.slots kind) := by
    cases kind <;> rfl
  rw [hslots]
  exact Slot.responder?_eq_iff (h.vacant kind) address

/-- The bounds of one slot, for accesses of one kind. -/
def only (kind : Direction) (bounds : UInt32 × UInt32) (other : Direction) :
    List (UInt32 × UInt32) :=
  if other = kind then [bounds] else []

/-- Installs slots one after the other. -/
def installAll (inserts : List (Direction × Slot)) (ram : Ram) : Ram :=
  inserts.foldl (fun ram insert => ram.installSlot insert.2 insert.1) ram

/-- Installing a slot that is left out. -/
lemma without_installSlot_of_mem {gone : Direction → List (UInt32 × UInt32)} {slot : Slot}
    {kind : Direction} (h : slot.bounds ∈ gone kind) (ram : Ram) :
    (ram.installSlot slot kind).without gone = ram.without gone := by
  cases kind <;> simp only [installSlot, without, Slot.without_install_of_mem h]

/-- Installing one that is not left out. -/
lemma without_installSlot_of_notMem {gone : Direction → List (UInt32 × UInt32)} {slot : Slot}
    {kind : Direction} (h : slot.bounds ∉ gone kind) (ram : Ram) :
    (ram.installSlot slot kind).without gone = (ram.without gone).installSlot slot kind := by
  cases kind <;> simp only [installSlot, without, Slot.without_install_of_notMem h]

/-- **Slots may be left out before they are installed** or afterwards. -/
lemma without_installAll (gone : Direction → List (UInt32 × UInt32))
    (inserts : List (Direction × Slot)) (ram : Ram) :
    (installAll inserts ram).without gone =
      installAll (inserts.filter fun insert => insert.2.bounds ∉ gone insert.1)
        (ram.without gone) := by
  induction inserts generalizing ram with
  | nil => rfl
  | cons insert rest ih =>
    have hfirst := ih (ram.installSlot insert.2 insert.1)
    by_cases hgone : insert.2.bounds ∈ gone insert.1
    · rw [without_installSlot_of_mem hgone] at hfirst
      simp only [List.filter_cons, hgone, not_true_eq_false, decide_false, Bool.false_eq_true,
        if_false]
      exact hfirst
    · rw [without_installSlot_of_notMem hgone] at hfirst
      simp only [List.filter_cons, hgone, not_false_eq_true, decide_true, if_true]
      exact hfirst

/-- Slots that are installed one after the other have distinct bounds. -/
lemma Distinct.installAll {ram : Ram} (h : ram.Distinct) (inserts : List (Direction × Slot)) :
    (installAll inserts ram).Distinct := by
  induction inserts generalizing ram with
  | nil => exact h
  | cons insert rest ih => exact ih (h.installSlot insert.2 insert.1)

/-- An empty slot that is installed leaves its bounds vacant. -/
lemma Distinct.vacated_installSlot {ram : Ram} (h : ram.Distinct) {slot : Slot}
    (hslot : slot.handler = none) (kind : Direction) :
    (ram.installSlot slot kind).Vacated (only kind slot.bounds) := by
  refine ⟨h.installSlot slot kind, fun other => ?_⟩
  by_cases hother : other = kind
  · subst hother
    have hvacant := (Slot.vacant_nil (ram.slots other)).install (h other) hslot
    rw [only, if_pos rfl]
    cases other <;> exact hvacant
  · rw [only, if_neg hother]
    exact Slot.vacant_nil _

end Ram

/-- The bounds of the windows, whatever the kind of access. -/
def Window.allBounds (_ : Direction) : List (UInt32 × UInt32) :=
  Window.all.map fun w => (w.start, w.size)

namespace Monitor

/-- What is left of the intercepts of the monitor when they are removed: one empty slot over each
window for each kind of access. -/
def emptied (m : Monitor) : List (Direction × Slot) :=
  Window.all.flatMap fun w => [(.read, w.slot m.options.interceptPriority none),
    (.write, w.slot m.options.interceptPriority none)]

variable {m : Monitor}

/-- Shutting the monitor down empties the slots of its intercepts. -/
lemma ram_shutdown (hactive : m.active = true) (hinstalled : m.intercepting = true) :
    m.shutdown.state.ram = Ram.installAll m.emptied m.ram := by
  simp only [shutdown, hactive, removeIntercepts, hinstalled, if_true]
  rfl

/-- The slots over the windows are vacant then. -/
lemma Reachable.vacated_shutdown (h : Reachable m) (hactive : m.active = true)
    (hinstalled : m.intercepting = true) : m.shutdown.state.ram.Vacated Window.allBounds := by
  have hdistinct := h.distinct_slots
  refine ⟨(h.step .shutdown).distinct_slots, fun kind => ?_⟩
  have hslots : m.shutdown.state.ram.slots kind =
      Slot.install (Window.scratchpad.slot m.options.interceptPriority none)
        (Slot.install (Window.ram.slot m.options.interceptPriority none) (m.ram.slots kind)) := by
    rw [ram_shutdown hactive hinstalled]
    cases kind <;> rfl
  have hempty : ∀ w : Window, (w.slot m.options.interceptPriority none).handler = none :=
    fun _ => rfl
  have hfirst := (Slot.vacant_nil (m.ram.slots kind)).install (hdistinct kind) (hempty .ram)
  have hboth := hfirst.install ((hdistinct kind).install _) (hempty .scratchpad)
  rw [hslots]
  intro slot hmem hbounds
  refine hboth slot hmem ?_
  simpa [Window.allBounds, Window.all, Window.slot, Slot.bounds, or_comm] using hbounds

/-- Apart from the slots over the windows the memory is what it was. -/
lemma without_shutdown (hactive : m.active = true) (hinstalled : m.intercepting = true) :
    m.shutdown.state.ram.without Window.allBounds = m.ram.without Window.allBounds := by
  rw [ram_shutdown hactive hinstalled, Ram.without_installAll]
  have hnone : (m.emptied.filter fun insert =>
      insert.2.bounds ∉ Window.allBounds insert.1) = [] := by
    refine List.filter_eq_nil_iff.mpr fun insert hmem => ?_
    simp only [emptied, Window.all, List.flatMap_cons, List.flatMap_nil, List.append_nil,
      List.cons_append, List.nil_append, List.mem_cons, List.not_mem_nil, or_false] at hmem
    rcases hmem with rfl | rfl | rfl | rfl <;>
      simp [Window.allBounds, Window.all, Window.slot, Slot.bounds]
  rw [hnone]
  rfl

/-- **Removed intercepts are gone, but for the addresses they shadow.** Take a memory to which slots
were installed in any order, with any bounds, priorities and handlers, and install an empty slot.
The guest then meets the same handler, or none, as in a memory where no slot with its bounds was
ever installed for this kind of access, at exactly those addresses that the empty slot does not
shadow; and whatever the host and the guest do, loads answer the same values and the same calls are
made, unless the guest accesses a shadowed address. So it is when a monitor is shut down whose
intercepts are installed, whatever was done to it before: all is as if they were not there, but for
the addresses they shadow.

**Proof sketch.** Slots are only changed by installing some, so their bounds are distinct. Therefore
the slots with these bounds are vacant, and leaving them out of the memory is leaving them out of
what was installed. An access changes the state of one handler and nothing else, so the same
addresses are shadowed all the time. -/
theorem unregistered (inserts : List (Direction × Slot)) (kind : Direction)
    (start size priority : UInt32) :
    (let emptied := (Ram.installAll inserts {}).installSlot ⟨start, size, priority, none⟩ kind
      let never := Ram.installAll (inserts.filter fun insert =>
        ¬(insert.1 = kind ∧ insert.2.bounds = (start, size))) {}
      emptied.ServesAs never (emptied.Shadowed (Ram.only kind (start, size)))) ∧
    ∀ m : Monitor, Reachable m → m.active = true → m.intercepting = true →
      m.shutdown.state.ram.ServesAs (m.ram.without Window.allBounds)
        (m.shutdown.state.ram.Shadowed Window.allBounds) := by
  constructor
  · intro emptied never
    have hempty : ({} : Ram).Distinct := fun kind => by cases kind <;> exact List.nodup_nil
    have hslot : (⟨start, size, priority, none⟩ : Slot).handler = none := rfl
    have hvacated := (hempty.installAll inserts).vacated_installSlot hslot kind
    have hgone : ∀ insert : Direction × Slot, insert.2.bounds ∈ Ram.only kind (start, size) insert.1 ↔
        insert.1 = kind ∧ insert.2.bounds = (start, size) := by
      intro insert
      by_cases hkind : insert.1 = kind <;> simp [Ram.only, hkind]
    have hnever : emptied.without (Ram.only kind (start, size)) = never := by
      rw [Ram.without_installSlot_of_mem (by simp [Ram.only, Slot.bounds]), Ram.without_installAll]
      simp only [hgone]
      rfl
    rw [← hnever]
    exact hvacated.servesAs
  · intro m hreachable hactive hinstalled
    rw [← without_shutdown hactive hinstalled]
    exact (hreachable.vacated_shutdown hactive hinstalled).servesAs

/-! ## An intercept of the host beside those of the monitor -/

/-- An intercept of the host that lets values through. -/
def listener : Hook := Hook.flip "listener" 0

/-- A monitor that was started and did the work of a frame, after the host had intercepted the stores
to a part of main memory with some priority. -/
def overheard (priority : UInt32) : Monitor :=
  (run [.start, .memory (.installHook .write 0x1000 0x100 priority (some listener)), .frame]
    (make {} 0)).state

/-- The intercepts of the monitor `overheard` are installed after the one of the host. -/
lemma overheard_wiring (priority : UInt32) :
    (overheard priority).wiring = ({}, true, true, [],
      Window.slots 0 fun _ => some .passThrough,
      ⟨0x1000, 0x100, priority, some (.host listener)⟩ ::
        Window.slots 0 fun w => some (.capture w .write)) := by
  have hactive : (run [.start, .memory (.installHook .write 0x1000 0x100 priority (some listener))]
      (make {} 0)).state.active = true := rfl
  exact (wiring_frame hactive).trans rfl

/-- The slots for stores once the monitor `overheard` is shut down, and in its memory without the
slots over the windows. -/
lemma overheard_slots (priority : UInt32) :
    Reachable (overheard priority) ∧ (overheard priority).active = true ∧
      (overheard priority).intercepting = true ∧
      (overheard priority).shutdown.state.ram.writeSlots =
        ⟨0x1000, 0x100, priority, some (.host listener)⟩ :: Window.slots 0 (fun _ => none) ∧
      ((overheard priority).ram.without Window.allBounds).writeSlots =
        [⟨0x1000, 0x100, priority, some (.host listener)⟩] := by
  have hwiring := overheard_wiring priority
  simp only [wiring, Prod.mk.injEq] at hwiring
  obtain ⟨hoptions, hactive, hinstalled, -, -, hwrites⟩ := hwiring
  refine ⟨(Reachable.make {} 0).run _, hactive, hinstalled, ?_, ?_⟩
  · rw [ram_shutdown hactive hinstalled]
    simp only [emptied, hoptions]
    show Slot.install _ (Slot.install _ (overheard priority).ram.writeSlots) = _
    rw [hwrites]
    rfl
  · show Slot.without _ (overheard priority).ram.writeSlots = _
    rw [hwrites]
    rfl

/-- Two intercepts of the host for stores: one over the start of main memory, and over a part of it
one of a greater priority. -/
def hosted : List (Direction × Slot) :=
  [(.write, ⟨0, 0x2000, 0, some (.host (Hook.flip "warden" 0))⟩),
    (.write, ⟨0x1000, 0x100, 1, some (.host listener)⟩)]

/-- The memory in which the host has installed both intercepts and removed the first one again. -/
def disbanded : Ram := (Ram.installAll hosted {}).installSlot ⟨0, 0x2000, 0, none⟩ .write

/-- When the host removes an intercept of its own, another one with the greater priority is run as if
the first had never been installed, and where there is no other one, none is run. Where the intercept
of the host has the greater priority, it is run after the monitor was shut down as if the monitor had
not been there. -/
theorem unregistered_outranking :
    Ram.trace [.storeWord 0x1000 7, .storeWord 0x10 9] disbanded =
        Ram.trace [.storeWord 0x1000 7, .storeWord 0x10 9]
          (Ram.installAll [(.write, ⟨0x1000, 0x100, 1, some (.host listener)⟩)] {}) ∧
      Ram.trace [.storeWord 0x1000 7, .storeWord 0x10 9] disbanded =
        [(.done, [.intercepted "listener" 0x1000 7 1], none), (.done, [], none)] ∧
      Ram.trace [.storeWord 0x1000 7] (overheard 1).shutdown.state.ram =
        Ram.trace [.storeWord 0x1000 7] ((overheard 1).ram.without Window.allBounds) ∧
      Ram.trace [.storeWord 0x1000 7] (overheard 1).shutdown.state.ram =
        [(.done, [.intercepted "listener" 0x1000 7 1], none)] := by
  obtain ⟨hremoved, -⟩ := unregistered hosted .write 0 0x2000 0
  obtain ⟨hreachable, hactive, hinstalled, hslots, -⟩ := overheard_slots 1
  have hclear : ¬ (overheard 1).shutdown.state.ram.Shadowed Window.allBounds .write 0x1000 := by
    have hmem : (⟨0x1000, 0x100, 1, some (.host listener)⟩ : Slot) ∈
        (overheard 1).shutdown.state.ram.slots .write := by
      show _ ∈ (overheard 1).shutdown.state.ram.writeSlots
      rw [hslots]
      exact List.mem_cons_self
    refine Slot.not_shadowed_of_outranked hmem rfl ?_
    show ∀ slot ∈ (overheard 1).shutdown.state.ram.writeSlots, _
    rw [hslots]
    intro slot hslot hbounds
    rcases List.mem_cons.mp hslot with rfl | hwindow
    · revert hbounds
      decide
    · obtain ⟨w, -, rfl⟩ := List.mem_map.mp hwindow
      show (0 : UInt32) < 1
      decide
  obtain ⟨-, hshutdown⟩ := unregistered [] .write 0x1000 0x100 0
  have hserves := hshutdown (overheard 1) hreachable hactive hinstalled
  refine ⟨hremoved.trace _ (by simp [MemoryOp.hooks]) ?_, rfl,
    hserves.trace _ (by simp [MemoryOp.hooks]) ?_, ?_⟩
  · intro op hop kind address haccess
    rw [List.mem_cons, List.mem_singleton] at hop
    -- neither address is shadowed, because at each the same handler is found in both memories
    rcases hop with rfl | rfl
    · cases haccess
      exact (hremoved.responder .write 0x1000).mp rfl
    · cases haccess
      exact (hremoved.responder .write 0x10).mp rfl
  · intro op hop kind address haccess
    obtain rfl := List.mem_singleton.mp hop
    cases haccess
    exact hclear
  · show [(MemoryReply.done, (Slot.dispatch _ _ _).events, (Slot.dispatch _ _ _).captured)] = _
    rw [show ((overheard 1).shutdown.state.ram.setWord 0x1000 7).writeSlots = _ from hslots]
    rfl

/-- Where it has the same priority, it is not: the empty slots that the monitor leaves behind shadow
it. So does an empty slot that the host installs itself. -/
theorem unregistered_shadowing :
    (Reachable (overheard 0) ∧ (overheard 0).active = true ∧ (overheard 0).intercepting = true ∧
      Ram.trace [.storeWord 0x1000 7] (overheard 0).shutdown.state.ram = [(.done, [], none)] ∧
      Ram.trace [.storeWord 0x1000 7] ((overheard 0).ram.without Window.allBounds) =
        [(.done, [.intercepted "listener" 0x1000 7 1], none)]) ∧
    ¬ ∀ (inserts : List (Direction × Slot)) (kind : Direction) (start size priority address : UInt32),
      Slot.responder? address
          (((Ram.installAll inserts {}).installSlot ⟨start, size, priority, none⟩ kind).slots kind) =
        Slot.responder? address ((Ram.installAll (inserts.filter fun insert =>
          ¬(insert.1 = kind ∧ insert.2.bounds = (start, size))) {}).slots kind) := by
  obtain ⟨hreachable, hactive, hinstalled, hslots, hbare⟩ := overheard_slots 0
  refine ⟨⟨hreachable, hactive, hinstalled, ?_, ?_⟩, fun hall => ?_⟩
  · show [(MemoryReply.done, (Slot.dispatch _ _ _).events, (Slot.dispatch _ _ _).captured)] = _
    rw [show ((overheard 0).shutdown.state.ram.setWord 0x1000 7).writeSlots = _ from hslots]
    rfl
  · show [(MemoryReply.done, (Slot.dispatch _ _ _).events, (Slot.dispatch _ _ _).captured)] = _
    rw [show (((overheard 0).ram.without Window.allBounds).setWord 0x1000 7).writeSlots = _
      from hbare]
    rfl
  · have hsame := hall [(.write, ⟨0x1000, 0x100, 0, some (.host listener)⟩)] .write 0 0x2000 0 0x1000
    cases hsame

end Monitor

end GuestWatch
