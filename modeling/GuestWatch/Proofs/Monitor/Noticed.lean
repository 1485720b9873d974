import GuestWatch.Proofs.Memory.Stores
import GuestWatch.Proofs.Monitor.Intercepted
import GuestWatch.Proofs.Monitor.Tables

set_option relaxedAutoImplicit false
set_option autoImplicit false

/-!
# Stores that watches notice

A store of the guest that starts inside a window is reported to the monitor, and applying what was
reported reads again every active watch that the report overlaps. So as long as there is room in the
queue, no such store changes what a watch sees without the watch being told. The one exception is a
word stored across the first address of a window: it starts outside, no intercept covers it, and
what it changes inside the window is seen by the next poll only.

## Main definitions

* `GuestWatch.Access.notifies` — whether an applied access makes a watch be read again.

## Main results

* `GuestWatch.Monitor.watches_observeAll` — what applying accesses makes of the watches.
* `GuestWatch.Monitor.memoryStep_of_unowned` — a store that starts outside the windows is not
  reported.
* `GuestWatch.Monitor.store_noticed` — a store that changes what a watch sees is noticed.
* `GuestWatch.Monitor.store_unnoticed_vigilant` — a word stored across the start of a window is not.
-/

namespace GuestWatch

open Journal Watch

/-- Whether an applied access makes a watch be read again. -/
def Access.notifies (access : Access) (w : Watch) : Bool :=
  access.kind == .write && WatchList.isNotified access.address access.size w

/-- Only active watches are notified. -/
lemma Access.active_of_notifies {access : Access} {w : Watch} (h : access.notifies w = true) :
    w.active = true :=
  WatchList.active_of_isNotified (Bool.and_eq_true_iff.mp h).2

/-- A watch that remembers another value now was read again, and reported what came of that. -/
lemma Watch.Stays.changes_of_ne {look : Look} {w w' : Watch} {changes : List (String × Change)}
    {endings : List (UInt32 × Fault)} (h : w.Stays look changes endings w')
    (hne : w'.lastValue ≠ w.lastValue) : changes = w.report look := by
  cases h with
  | untouched => exact absurd rfl hne
  | reread _ => rfl

/-! ## Reports that reach a watch -/

/-- A store that reaches into a window, but not across its first address, starts inside it. -/
lemma Window.of?_of_reached {w : Window} {address place : UInt32} {count : Nat}
    (hplace : Window.of? place = some w) (hlow : address.toNat ≤ place.toNat)
    (hhigh : place.toNat < address.toNat + count)
    (hedge : ¬(address.toNat < w.start.toNat ∧ w.start.toNat < address.toNat + count)) :
    Window.of? address = some w := by
  obtain ⟨hstart, hstop⟩ := contains_iff.mp (of?_eq_some_iff.mp hplace)
  refine of?_eq_some_iff.mpr (contains_iff.mpr ⟨?_, by omega⟩)
  by_contra hbefore
  have hbelow : address.toNat < w.start.toNat := by omega
  by_cases hreach : w.start.toNat < address.toNat + count
  · exact hedge ⟨hbelow, hreach⟩
  · omega

/-- The report of a store of four bytes or fewer overlaps each watch of which it reaches a byte. -/
lemma Access.notifies_of_reached {w : Watch} {v : Window} {address place : UInt32}
    (value : UInt32) (hactive : w.active = true) (howner : Window.of? address = some v)
    (hplace : Window.of? place = some v)
    (hwatched : w.address.toNat ≤ place.toNat ∧ place.toNat < w.address.toNat + w.size.toNat)
    (hreached : address.toNat ≤ place.toNat ∧ place.toNat < address.toNat + 4) :
    (Access.clipped .write address value).notifies w = true := by
  have hclipped : (Access.clipped .write address value).Clipped := by
    refine ⟨?_, rfl⟩
    simp only [Access.clipped, howner, Option.isSome_some]
  obtain ⟨v', howner', hsize, -⟩ := hclipped.range
  have hsame : v' = v := Option.some.inj (howner'.symm.trans howner)
  rw [hsame] at hsize
  have haddress : (Access.clipped .write address value).address = address := rfl
  rw [haddress] at hsize
  obtain ⟨-, hstop⟩ := Window.contains_iff.mp (Window.of?_eq_some_iff.mp hplace)
  have hoverlap : rangesOverlap w.address w.size address
      (Access.clipped .write address value).size = true := by
    rw [rangesOverlap_iff]
    omega
  rw [Access.notifies, WatchList.isNotified, haddress, hactive, hoverlap]
  rfl

/-- No store of the guest stores more than four bytes. -/
lemma MemoryOp.length_of_stored {op : MemoryOp} {address : UInt32} {bytes : List UInt8}
    (h : op.stored? = some (address, bytes)) : bytes.length ≤ 4 := by
  cases op with
  | storeByte place value =>
    cases h
    exact Nat.le_of_ble_eq_true rfl
  | storeWord place value =>
    cases h
    rw [Word.length_bytes]
  | _ => cases h

namespace Monitor

/-! ## Watches that are read again -/

/-- Applying an access reads the watches again that it notifies. -/
lemma watches_observe (m : Monitor) (access : Access) :
    (m.observe access).state.watches.watches =
      m.watches.watches.map fun w => if access.notifies w then w.reread m.ram.look else w := by
  unfold observe Access.notifies
  cases access.kind with
  | read => exact (List.map_id _).symm
  | write => exact (notify_pass (m.track access).state access.address access.size).watches

/-- Applying accesses keeps the memory alike. -/
lemma alike_observe (m : Monitor) (access : Access) :
    (m.observe access).state.ram.Alike m.ram :=
  ((@path_observe .frame m access).follows rfl).alike

/-- **Applying accesses one after the other** reads the watches again that one of them notifies.

**Proof sketch.** By induction on the accesses. The first leaves the memory alike, so all reads
answer the same. A watch that was read again and is still active shows nothing new when it is read
once more, and one that ended is notified no more. -/
theorem watches_observeAll (accesses : List Access) (m : Monitor) :
    (observeAll accesses m).state.watches.watches =
      m.watches.watches.map fun w =>
        if accesses.any fun access => access.notifies w then w.reread m.ram.look else w := by
  induction accesses generalizing m with
  | nil => exact (List.map_id _).symm
  | cons access rest ih =>
    have hlook := (alike_observe m access).look_eq
    simp only [observeAll, ih, hlook, watches_observe, List.map_map]
    refine List.map_congr_left fun w _ => ?_
    have hlater : ∀ v : Watch, (rest.any fun other => other.notifies v) = true → v.active = true := by
      intro v hagain
      obtain ⟨other, -, hother⟩ := List.any_eq_true.mp hagain
      exact Access.active_of_notifies hother
    simp only [Function.comp_apply, List.any_cons]
    exact reread_twice hlater w

/-! ## Stores -/

/-- What a store reports depends on where it starts. -/
lemma report_of_stored (m : Monitor) {op : MemoryOp} {address : UInt32} {bytes : List UInt8}
    (hstore : op.stored? = some (address, bytes)) (reply : MemoryReply) :
    op.hooks = false ∧ ∃ value, m.report op reply = m.storeReport address value := by
  cases op with
  | storeByte place value =>
    cases hstore
    exact ⟨rfl, value.toUInt32, rfl⟩
  | storeWord place value =>
    cases hstore
    exact ⟨rfl, value, rfl⟩
  | _ => cases hstore

/-- While there is room, a store that starts inside a window joins the queue. -/
lemma memoryStep_of_stored {m : Monitor} (h : m.Wired) (hinstalled : m.intercepting = true)
    (hroom : m.pending.length < m.capacity) {op : MemoryOp} {address : UInt32}
    {bytes : List UInt8} (hstore : op.stored? = some (address, bytes))
    (howned : (Window.of? address).isSome = true) :
    ∃ value, (m.memoryStep op).state =
      { m with
        ram := (m.ram.step op).ram
        pending := m.pending ++ [Access.clipped .write address value] } := by
  obtain ⟨hop, value, hreport⟩ := m.report_of_stored hstore (m.ram.step op).value
  obtain ⟨hstep, -, -⟩ := memoryStep_of_wired h hop
  have hsome : m.storeReport address value = some (Access.clipped .write address value) := by
    simp only [storeReport, hinstalled, howned, Bool.and_self, if_true]
  refine ⟨value, ?_⟩
  rw [hstep, hreport, hsome]
  exact @accept_of_room { m with ram := (m.ram.step op).ram } hroom _

/-- A store that starts outside the windows is not reported, whatever it changes inside them. -/
lemma memoryStep_of_unowned {m : Monitor} (h : m.Wired) {op : MemoryOp} {address : UInt32}
    {bytes : List UInt8} (hstore : op.stored? = some (address, bytes))
    (hunowned : Window.of? address = none) :
    (m.memoryStep op).state = { m with ram := (m.ram.step op).ram } := by
  obtain ⟨hop, value, hreport⟩ := m.report_of_stored hstore (m.ram.step op).value
  obtain ⟨hstep, -, -⟩ := memoryStep_of_wired h hop
  have hnone : m.storeReport address value = none := by
    simp only [storeReport, hunowned, Option.isSome_none, Bool.and_false, Bool.false_eq_true,
      if_false]
  rw [hstep, hreport, hnone]
  rfl

/-- A store that changes a byte of what an active watch sees is reported, and its report notifies the
watch. The byte that changed lies inside the window of the watch and among the bytes that were
stored; so the store, which does not lie across the first address of a window, starts inside that
window. -/
lemma memoryStep_of_changed {m : Monitor} (h : m.Wired) (hinstalled : m.intercepting = true)
    (hroom : m.pending.length < m.capacity) {op : MemoryOp} {address : UInt32}
    {bytes : List UInt8} (hstore : op.stored? = some (address, bytes))
    (hedge : ∀ v : Window,
      ¬(address.toNat < v.start.toNat ∧ v.start.toNat < address.toNat + bytes.length))
    {w : Watch} (hactive : w.active = true) (hlegal : Legal w.address w.size) {i : Nat}
    (hi : i < w.size.toNat)
    (hbyte : (m.ram.step op).ram.byteAt (w.address + UInt32.ofNat i) ≠
      m.ram.byteAt (w.address + UInt32.ofNat i)) :
    ∃ access : Access, (m.memoryStep op).state =
        { m with ram := (m.ram.step op).ram, pending := m.pending ++ [access] } ∧
      access.notifies w = true := by
  obtain ⟨v, hrange⟩ := legal_iff.mp hlegal
  obtain ⟨-, hstart, hstop⟩ := checkRange_eq_ok_iff.mp hrange
  have hplace := hlegal.toNat_offset hi
  have howner : Window.of? (w.address + UInt32.ofNat i) = some v :=
    Window.of?_eq_some_iff.mpr (Window.contains_iff.mpr (by omega))
  have hreached := Ram.within_of_changed hstore hbyte
  have hfour := MemoryOp.length_of_stored hstore
  have hsource : Window.of? address = some v :=
    Window.of?_of_reached howner hreached.1 hreached.2 (hedge v)
  obtain ⟨value, hqueued⟩ := memoryStep_of_stored h hinstalled hroom hstore (by rw [hsource]; rfl)
  exact ⟨_, hqueued,
    Access.notifies_of_reached value hactive hsource howner (by omega) (by omega)⟩

/-- Where nobody asks for a command, applying the accesses that wait carries out none. -/
lemma applyPending_of_hushed {m : Monitor} (hactive : m.active = true) (hhushed : m.Hushed) :
    m.applyPending =
      ⟨m.pending.length, (observeAll m.pending { m with pending := [] }).state,
        (observeAll m.pending { m with pending := [] }).journal⟩ := by
  have hemptied : { m with pending := [] }.Hushed := ⟨hhushed.followUps, hhushed.asks⟩
  rw [applyPending_of_active hactive]
  exact settle_of_nil (balances_observeAll m.pending hemptied).hushed.followUps

/-- **Applying what waits, when it notifies a watch** whose value has changed: the watch reports the
change and remembers the value that memory holds.

**Proof sketch.** No callback asks for a command, so nothing but passes over the watches happens, and
one of them reads the watch again. The watch is alone at its address, so over all passes it is read
again once in effect, and what is reported there is what comes of that. -/
lemma applyPending_of_notified {m : Monitor} (hactive : m.active = true) (hhushed : m.Hushed)
    (hdistinct : (m.watches.watches.map Watch.address).Nodup) {w : Watch}
    (hw : w ∈ m.watches.watches)
    (hnotified : (m.pending.any fun access => access.notifies w) = true) {value : UInt32}
    (hlook : m.ram.look w.address w.size = .ok value) (hchanged : value ≠ w.lastValue) :
    changesAt w.address m.applyPending.journal.changes =
        (w.callback.map fun c => (c.name, w.changeTo value)).toList ∧
      w.reread m.ram.look ∈ m.applyPending.state.watches.watches ∧
      m.applyPending.state.ram.look = m.ram.look := by
  have hdone := applyPending_of_hushed hactive hhushed
  have hreread : w.reread m.ram.look ∈ m.applyPending.state.watches.watches := by
    rw [hdone]
    simp only [watches_observeAll]
    refine List.mem_map.mpr ⟨w, hw, ?_⟩
    rw [if_pos hnotified]
  have hcourse := ((@path_observeAll .frame m.pending { m with pending := [] }).follows rfl).course
  obtain ⟨w', hstays, hsole⟩ := hcourse.stays hdistinct (Watch.sole_of_mem hdistinct hw)
  have hsame : w.reread m.ram.look = w' := by
    refine hsole _ ?_ ((reread_address _ w).trans hstays.address_eq.symm)
    rw [hdone] at hreread
    exact hreread
  have hremembered : (w.reread m.ram.look).lastValue = value := by
    simp only [Watch.reread, hlook, hchanged, if_false]
  refine ⟨?_, hreread, ?_⟩
  · have hreport : w.report m.ram.look =
        (w.callback.map fun c => (c.name, w.changeTo value)).toList := by
      simp only [Watch.report, hlook, hchanged, if_false]
    have htold := hstays.changes_of_ne (by rw [← hsame, hremembered]; exact hchanged)
    rw [hdone, ← hreport]
    exact htold
  · exact (balances_applyPending hhushed).alike.look_eq

/-- **No store of the guest escapes its watches** while there is room in the queue. Take a monitor
whose intercepts are installed, on whose memory the host has no hooks, and whose watches have
callbacks that ask for no commands. When a store changes one of the bytes that an active watch sees,
and the watch had seen what memory held, then applying what waits reports the change at once, and
the watch remembers what memory holds. The store must not lie across the first address of a window:
one that starts outside is not reported.

**Proof sketch.** The store is reported, and its report notifies the watch. What the watch reads now
differs from what it remembers, because a word shows each of its bytes. So applying what waits reads
the watch again and finds the change. -/
theorem store_noticed {m : Monitor} (h : Unhooked m) (hinstalled : m.intercepting = true)
    (hmute : ∀ w ∈ m.watches.watches, ∀ c ∈ w.callback, c.Mute)
    (hroom : m.pending.length < m.capacity) {w : Watch} (hw : w ∈ m.watches.watches)
    (hactive : w.active = true) (hfresh : m.ram.look w.address w.size = .ok w.lastValue)
    {op : MemoryOp} {address : UInt32} {bytes : List UInt8}
    (hstore : op.stored? = some (address, bytes))
    (hedge : ∀ v : Window,
      ¬(address.toNat < v.start.toNat ∧ v.start.toNat < address.toNat + bytes.length))
    (hchanged : ∃ i < min 4 w.size.toNat,
      (m.memoryStep op).state.ram.byteAt (w.address + UInt32.ofNat i) ≠
        m.ram.byteAt (w.address + UInt32.ofNat i)) :
    ∃ value, (m.memoryStep op).state.ram.look w.address w.size = .ok value ∧
      value ≠ w.lastValue ∧
      changesAt w.address (m.memoryStep op).state.applyPending.journal.changes =
        (w.callback.map fun c => (c.name, w.changeTo value)).toList ∧
      ∃ w' ∈ (m.memoryStep op).state.applyPending.state.watches.watches,
        w'.address = w.address ∧ w'.size = w.size ∧ w'.active = true ∧ w'.lastValue = value ∧
        (m.memoryStep op).state.applyPending.state.ram.look w'.address w'.size =
          .ok w'.lastValue := by
  have hwired := h.wired
  have hreach := h.reachable
  obtain ⟨i, hi, hbyte⟩ := hchanged
  have hram : (m.memoryStep op).state.ram = (m.ram.step op).ram := by
    obtain ⟨pending, hframe⟩ := memoryStep_frame m op
    rw [hframe]
  rw [hram] at hbyte
  obtain ⟨hwidth, hlegal⟩ := hreach.tables.watches w hw
  have hwidth' := Watch.isWidth_of_mem hwidth
  obtain ⟨access, hqueued, hnotifies⟩ := memoryStep_of_changed hwired hinstalled hroom hstore hedge
    hactive hlegal (Nat.lt_of_lt_of_le hi (Nat.min_le_right _ _)) hbyte
  -- the watch reads something else now
  obtain ⟨v, hrange⟩ := legal_iff.mp hlegal
  obtain ⟨hvalue, hlook⟩ := Ram.look_of_stored hstore hwidth' hrange hfresh
  have hdiffers : (m.ram.step op).ram.wordFrom w.address (min 4 w.size.toNat) ≠ w.lastValue := by
    intro hsame
    rw [hvalue] at hsame
    exact hbyte (Ram.byteAt_of_wordFrom (Nat.min_le_left _ _) hsame hi)
  rw [← hram] at hlook hdiffers
  -- applying what waits reads the watch again
  have hstarted : (m.memoryStep op).state.active = true := by
    rw [hqueued]
    exact hwired.active_of_intercepting hinstalled
  have hhushed : (m.memoryStep op).state.Hushed := by
    refine Hushed.of_mute ?_ ?_
    · rw [hqueued]
      exact hreach.followUps_eq_nil
    · rw [hqueued]
      exact hmute
  have hwatches : (m.memoryStep op).state.watches = m.watches := by rw [hqueued]
  have hnotified :
      ((m.memoryStep op).state.pending.any fun access => access.notifies w) = true := by
    rw [hqueued, List.any_append, List.any_cons, hnotifies, Bool.true_or, Bool.or_true]
  obtain ⟨hreport, hmem, hsame⟩ := applyPending_of_notified hstarted hhushed
    (by rw [hwatches]; exact hreach.distinct) (by rw [hwatches]; exact hw) hnotified hlook hdiffers
  have hagain : (w.reread (m.memoryStep op).state.ram.look).active = true ∧
      (w.reread (m.memoryStep op).state.ram.look).lastValue =
        (m.memoryStep op).state.ram.wordFrom w.address (min 4 w.size.toNat) := by
    simp only [Watch.reread, hlook, hdiffers, if_false]
    exact ⟨hactive, trivial⟩
  refine ⟨_, hlook, hdiffers, hreport, _, hmem, reread_address _ w, reread_size _ w, hagain.1,
    hagain.2, ?_⟩
  rw [hsame]
  exact look_reread hagain.1

/-- A monitor with intercepts that watches the first word of the scratchpad. -/
def vigilant : Monitor :=
  (run [.start, .frame, .addWatch 0x70000000 4 (some recorder)] (make {} 0)).state

/-- The frame of the monitor `vigilant` installed the intercepts, and did nothing else. -/
lemma vigilant_eq :
    vigilant = ((make {} 0).start.state.installIntercepts.state.addWatch 0x70000000 4
      (some recorder)).state := by
  have hframe : (make {} 0).start.state.frame.state =
      (make {} 0).start.state.installIntercepts.state := by
    rw [frame_of_unasked rfl rfl rfl rfl]
    rfl
  have hrun : vigilant =
      ((make {} 0).start.state.frame.state.addWatch 0x70000000 4 (some recorder)).state := rfl
  rw [hrun, hframe]

/-- The monitor `vigilant` watches one word, and has seen what is there. -/
lemma vigilant_watches :
    Unhooked vigilant ∧ vigilant.intercepting = true ∧ vigilant.pending.length < vigilant.capacity ∧
      vigilant.watches.watches = [⟨0x70000000, 4, 0, true, some recorder⟩] ∧
      vigilant.ram.look 0x70000000 4 = .ok 0 := by
  have hunhooked : Unhooked vigilant := (Unhooked.make {} 0).run (by decide)
  refine ⟨hunhooked, ?_⟩
  rw [vigilant_eq]
  refine ⟨rfl, by decide, rfl, rfl⟩

/-- A word stored where `vigilant` watches is noticed. -/
theorem store_noticed_vigilant :
    Unhooked vigilant ∧ vigilant.intercepting = true ∧ vigilant.pending.length < vigilant.capacity ∧
      vigilant.ram.look 0x70000000 4 = .ok 0 ∧
      changesAt 0x70000000
          (vigilant.memoryStep (.storeWord 0x70000000 5)).state.applyPending.journal.changes =
        [("recorder", ⟨0x70000000, 4, 0, 5⟩)] := by
  obtain ⟨hunhooked, hinstalled, hroom, hwatches, hfresh⟩ := vigilant_watches
  have hmute : ∀ w ∈ vigilant.watches.watches, ∀ c ∈ w.callback, c.Mute := by
    intro w hw c hc history
    rw [hwatches] at hw
    obtain rfl := List.mem_singleton.mp hw
    cases hc
    rfl
  have hw : ⟨0x70000000, 4, 0, true, some recorder⟩ ∈ vigilant.watches.watches := by
    rw [hwatches]
    exact List.mem_singleton_self _
  have hbyte : (vigilant.memoryStep (.storeWord 0x70000000 5)).state.ram.byteAt 0x70000000 ≠
      vigilant.ram.byteAt 0x70000000 := by
    rw [vigilant_eq]
    decide
  have hvalue : (vigilant.memoryStep (.storeWord 0x70000000 5)).state.ram.look 0x70000000 4 =
      .ok 5 := by
    rw [vigilant_eq]
    rfl
  have hedge : ∀ v : Window, ¬((0x70000000 : UInt32).toNat < v.start.toNat ∧
      v.start.toNat < (0x70000000 : UInt32).toNat + (Word.bytes 5).length) := by
    intro v
    cases v <;> decide
  have hstore : (MemoryOp.storeWord 0x70000000 5).stored? = some (0x70000000, Word.bytes 5) := rfl
  obtain ⟨value, hlook, -, hchanges, -⟩ := store_noticed hunhooked hinstalled hmute hroom hw rfl
    hfresh hstore hedge ⟨0, by decide, hbyte⟩
  obtain rfl : value = 5 := Except.ok.inj (hlook.symm.trans hvalue)
  exact ⟨hunhooked, hinstalled, hroom, hfresh, hchanges⟩

/-- The monitor `vigilant` after a word was stored across the start of the scratchpad. -/
def breached : Monitor := (vigilant.memoryStep (.storeWord 0x6ffffffe 0x10000)).state

/-- A word stored across the start of the scratchpad changes what `vigilant` watches, and is not
reported: no watch is read again, and the value that is remembered is not the one that memory
holds. -/
theorem store_unnoticed_vigilant :
    Unhooked vigilant ∧ vigilant.intercepting = true ∧ vigilant.pending.length < vigilant.capacity ∧
      vigilant.watches.watches = [⟨0x70000000, 4, 0, true, some recorder⟩] ∧ recorder.Mute ∧
      vigilant.ram.look 0x70000000 4 = .ok 0 ∧
      breached.ram.byteAt 0x70000000 ≠ vigilant.ram.byteAt 0x70000000 ∧
      breached.applyPending.value = 0 ∧ breached.applyPending.journal.changes = [] ∧
      breached.applyPending.state.watches.watches =
        [⟨0x70000000, 4, 0, true, some recorder⟩] ∧
      breached.applyPending.state.ram.look 0x70000000 4 = .ok 1 := by
  obtain ⟨hunhooked, hinstalled, hroom, hwatches, hfresh⟩ := vigilant_watches
  have hmute : recorder.Mute := fun _ => rfl
  have hbyte : breached.ram.byteAt 0x70000000 ≠ vigilant.ram.byteAt 0x70000000 := by
    rw [breached, vigilant_eq]
    decide
  have hstore : (MemoryOp.storeWord 0x6ffffffe 0x10000).stored? =
      some (0x6ffffffe, Word.bytes 0x10000) := rfl
  have hbreached : breached =
      { vigilant with ram := (vigilant.ram.step (.storeWord 0x6ffffffe 0x10000)).ram } :=
    memoryStep_of_unowned hunhooked.wired hstore (by decide)
  have hunreported : breached.pending = [] := by
    rw [hbreached, vigilant_eq]
    rfl
  have hnobody : breached.followUps = [] := by
    rw [hbreached]
    exact hunhooked.reachable.followUps_eq_nil
  -- so there is nothing to apply, and the watch stays as it is
  rw [applyPending_of_nil hunreported hnobody]
  refine ⟨hunhooked, hinstalled, hroom, hwatches, hmute, hfresh, hbyte, rfl, rfl, ?_, ?_⟩
  · rw [hbreached]
    exact hwatches
  · rw [breached, vigilant_eq]
    rfl

end Monitor

end GuestWatch
