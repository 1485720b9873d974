import GuestWatch.Proofs.Monitor.Accounting
import GuestWatch.Proofs.Watch.Chain

set_option relaxedAutoImplicit false
set_option autoImplicit false

/-!
# Stores that are noticed at once

The guest may tell the monitor of each of its stores right after it. Then each watch goes through
every value that the stores give it, whether or not an intercept saw the store, and nothing is left
for the accesses that wait and for the poll: what they read again has been seen before.

This is so because a notice reads again all watches that the store overlaps, and a watch that it
does not overlap shows what it showed before. So a notice is as good as reading every watch again.

## Main definitions

* `GuestWatch.GuestStore` — a store of the guest; `noticed` is the store with its notice.
* `GuestWatch.Ram.lowWords` — what a watch shows after each of some stores.
* `GuestWatch.Monitor.Attentive` — a started monitor whose watches have seen what memory holds.
* `GuestWatch.Monitor.Synchronous` — what comes of stores that are noticed at once.

## Main results

* `GuestWatch.Monitor.Attentive.catches` — what comes of one store and its notice.
* `GuestWatch.Monitor.Attentive.run` — what comes of many.
* `GuestWatch.Monitor.Attentive.frame` — a frame of an attentive monitor has nothing to report.
* `GuestWatch.Monitor.synchronous` — the watches see every change, and see it once.
-/

namespace GuestWatch

open Journal Watch

/-! ## Stores of the guest -/

/-- A store of the guest. -/
inductive GuestStore where
  /-- The guest stores a byte. -/
  | byte (address : UInt32) (value : UInt8)
  /-- The guest stores a word. -/
  | word (address value : UInt32)
  deriving DecidableEq, Repr

namespace GuestStore

/-- The store as an operation on the memory. -/
def op : GuestStore → MemoryOp
  | byte address value => .storeByte address value
  | word address value => .storeWord address value

/-- The first address that is stored to. -/
def address : GuestStore → UInt32
  | byte address _ => address
  | word address _ => address

/-- How many bytes are stored. -/
def width : GuestStore → UInt32
  | byte _ _ => 1
  | word _ _ => 4

/-- The store, and the notice of it right after. -/
def noticed (s : GuestStore) : List MonitorOp := [.memory s.op, .writeObserved s.address s.width]

/-- The memory after the store. -/
def into (s : GuestStore) (ram : Ram) : Ram := (ram.step s.op).ram

/-- A store stores as many bytes as its width says. -/
lemma stored (s : GuestStore) :
    ∃ bytes, s.op.stored? = some (s.address, bytes) ∧ bytes.length = s.width.toNat := by
  cases s with
  | byte address value => exact ⟨[value], rfl, rfl⟩
  | word address value => exact ⟨Word.bytes value, rfl, Word.length_bytes value⟩

/-- The memory answers a store with nothing. -/
lemma reply (s : GuestStore) (ram : Ram) : (ram.step s.op).value = .done := by
  cases s <;> rfl

/-- Memories that are alike are alike after a store. -/
lemma alike_into {a b : Ram} (h : a.Alike b) (s : GuestStore) : (s.into a).Alike (s.into b) := by
  obtain ⟨bytes, hstore, -⟩ := s.stored
  obtain ⟨hcells, hfailing⟩ := @Ram.step_of_stored a _ _ _ hstore
  obtain ⟨hcells', hfailing'⟩ := @Ram.step_of_stored b _ _ _ hstore
  constructor
  · rw [into, into, hcells, hcells', h.cells]
  · rw [into, into, hfailing, hfailing', h.failing]

end GuestStore

/-! ## What watches show -/

namespace Ram

/-- The number of the low four bytes of a range, or of all its bytes when there are fewer. -/
def lowWord (ram : Ram) (address size : UInt32) : UInt32 :=
  ram.wordFrom address (min 4 size.toNat)

/-- The low words of a range after each of some stores. -/
def lowWords (address size : UInt32) : List GuestStore → Ram → List UInt32
  | [], _ => []
  | s :: rest, ram =>
    (s.into ram).lowWord address size :: lowWords address size rest (s.into ram)

/-- For each of some stores, of how many watches it changes the low word. -/
def changedCounts (ws : List Watch) : List GuestStore → Ram → List Nat
  | [], _ => []
  | s :: rest, ram =>
    (ws.countP fun w => (s.into ram).lowWord w.address w.size != ram.lowWord w.address w.size) ::
      changedCounts ws rest (s.into ram)

lemma Alike.lowWord_eq {a b : Ram} (h : a.Alike b) (address size : UInt32) :
    a.lowWord address size = b.lowWord address size :=
  wordFrom_congr fun _ _ => by rw [byteAt, byteAt, h.cells]

/-- The counts depend on the ranges of the watches only. -/
lemma changedCounts_reread (look : Look) (ws : List Watch) (stores : List GuestStore) (ram : Ram) :
    changedCounts (ws.map (Watch.reread look)) stores ram = changedCounts ws stores ram := by
  induction stores generalizing ram with
  | nil => rfl
  | cons s rest ih =>
    simp only [changedCounts, ih, List.countP_map, Function.comp_def, reread_address, reread_size]

end Ram

namespace WatchList

/-- A poll of watches that have seen what memory holds reports nothing. -/
lemma pollWatches_of_fresh {ws : List Watch} {probe : Probe Ram} {ledger : Ledger}
    (hfresh : ∀ w ∈ ws, probe.memory.look w.address w.size = .ok w.lastValue) :
    (pollWatches ws probe ledger).value = {} := by
  have hchanged : ws.countP (differs probe.memory.look) = 0 :=
    List.countP_eq_zero.mpr fun w hw => by simp [not_differs_of_same (hfresh w hw)]
  have hfailed : ws.countP (unreadable probe.memory.look) = 0 :=
    List.countP_eq_zero.mpr fun w hw => by simp [not_differs_of_same (hfresh w hw)]
  rw [value_pollWatches, hchanged, hfailed]

end WatchList

namespace Monitor

variable {m m' : Monitor}

/-! ## Attentive monitors -/

/-- A started monitor without commands that wait. All its watches are active, their callbacks ask
for no commands, and they have seen what memory holds. -/
structure Attentive (m : Monitor) : Prop where
  /-- It is started. -/
  active : m.active = true
  /-- No command waits. -/
  followUps : m.followUps = []
  /-- No two watches share an address. -/
  distinct : (m.watches.watches.map Watch.address).Nodup
  /-- Each watch has a width that is read as it is, and a legal range. -/
  ranges : ∀ w ∈ m.watches.watches, Probe.isWidth w.size = true ∧ Legal w.address w.size
  /-- The callbacks ask for no commands. -/
  mute : ∀ w ∈ m.watches.watches, ∀ c ∈ w.callback, c.Mute
  /-- Each watch is active. -/
  awake : ∀ w ∈ m.watches.watches, w.active = true
  /-- Each watch has seen what memory holds. -/
  fresh : ∀ w ∈ m.watches.watches, m.ram.look w.address w.size = .ok w.lastValue

/-- The watches of a reachable monitor are in order, and no command waits in it. -/
lemma Reachable.attentive (hreach : Reachable m) (hactive : m.active = true)
    (hmute : ∀ w ∈ m.watches.watches, ∀ c ∈ w.callback, c.Mute)
    (hawake : ∀ w ∈ m.watches.watches, w.active = true)
    (hfresh : ∀ w ∈ m.watches.watches, m.ram.look w.address w.size = .ok w.lastValue) :
    m.Attentive where
  active := hactive
  followUps := hreach.followUps_eq_nil
  distinct := hreach.distinct
  ranges w hw :=
    let ⟨hwidth, hlegal⟩ := hreach.tables.watches w hw
    ⟨Watch.isWidth_of_mem hwidth, hlegal⟩
  mute := hmute
  awake := hawake
  fresh := hfresh

namespace Attentive

lemma hushed (h : m.Attentive) : m.Hushed := Hushed.of_mute h.followUps h.mute

/-- Reading all watches again, with success, keeps a monitor attentive. -/
lemma reread (h : m.Attentive) (hactive : m'.active = true) (hfollow : m'.followUps = [])
    (hwatches : m'.watches.watches = m.watches.watches.map (Watch.reread m'.ram.look))
    (hlook : ∀ w ∈ m.watches.watches, ∃ value, m'.ram.look w.address w.size = .ok value) :
    m'.Attentive := by
  have hmem : ∀ w' ∈ m'.watches.watches, ∃ w ∈ m.watches.watches, w.reread m'.ram.look = w' := by
    intro w' hw'
    rw [hwatches] at hw'
    exact List.mem_map.mp hw'
  have hawake : ∀ w' ∈ m'.watches.watches, w'.active = true := by
    intro w' hw'
    obtain ⟨w, hw, rfl⟩ := hmem w' hw'
    obtain ⟨value, hvalue⟩ := hlook w hw
    rw [(reread_of_ok hvalue).2]
    exact h.awake w hw
  refine ⟨hactive, hfollow, ?_, ?_, ?_, hawake, ?_⟩
  · rw [hwatches, List.map_map]
    simp only [Function.comp_def, reread_address]
    exact h.distinct
  · intro w' hw'
    obtain ⟨w, hw, rfl⟩ := hmem w' hw'
    rw [reread_address, reread_size]
    exact h.ranges w hw
  · intro w' hw' c hc
    obtain ⟨w, hw, rfl⟩ := hmem w' hw'
    obtain ⟨value, hvalue⟩ := hlook w hw
    rw [(reread_of_ok hvalue).2] at hc
    obtain ⟨c₀, hc₀, rfl⟩ := Option.map_eq_some_iff.mp hc
    exact h.mute w hw c₀ hc₀
  · intro w' hw'
    obtain ⟨w, -, rfl⟩ := hmem w' hw'
    exact look_reread (hawake _ hw')

/-- What leaves the watches and the contents of memory alone keeps a monitor attentive. -/
lemma of_same (h : m.Attentive) (hactive : m'.active = true) (hfollow : m'.followUps = [])
    (hwatches : m'.watches.watches = m.watches.watches) (halike : m'.ram.Alike m.ram) :
    m'.Attentive := by
  have hlook := halike.look_eq
  refine h.reread hactive hfollow ?_ fun w hw => ⟨w.lastValue, hlook ▸ h.fresh w hw⟩
  rw [hwatches, hlook]
  conv_lhs => rw [← List.map_id m.watches.watches]
  exact List.map_congr_left fun w hw => (reread_of_same (h.fresh w hw)).1.symm

/-! ## One store -/

/-- A watch has seen the low word of its range, and shows the new one after a store. -/
lemma look_stored (h : m.Attentive) (s : GuestStore) {w : Watch} (hw : w ∈ m.watches.watches) :
    w.lastValue = m.ram.lowWord w.address w.size ∧
      (s.into m.ram).look w.address w.size = .ok ((s.into m.ram).lowWord w.address w.size) := by
  obtain ⟨bytes, hstore, -⟩ := s.stored
  obtain ⟨hwidth, hlegal⟩ := h.ranges w hw
  obtain ⟨v, hrange⟩ := legal_iff.mp hlegal
  exact Ram.look_of_stored hstore hwidth hrange (h.fresh w hw)

/-- A watch that the notice of a store does not hit shows what it has seen. -/
lemma look_of_unnotified (h : m.Attentive) (s : GuestStore) {w : Watch}
    (hw : w ∈ m.watches.watches)
    (hmissed : WatchList.isNotified s.address s.width w = false) :
    (s.into m.ram).look w.address w.size = .ok w.lastValue := by
  obtain ⟨bytes, hstore, hlength⟩ := s.stored
  obtain ⟨hwidth, hlegal⟩ := h.ranges w hw
  refine Ram.look_of_missed hstore hwidth hlegal ?_ (h.fresh w hw)
  rw [WatchList.isNotified, h.awake w hw, Bool.true_and, ← Bool.not_eq_true,
    rangesOverlap_iff] at hmissed
  omega

end Attentive

/-- The guest stores, and the monitor is told right after. -/
def storeNoticed (m : Monitor) (s : GuestStore) : Outcome Monitor Nat :=
  (m.memoryStep s.op).state.writeObserved s.address s.width

/-- What an attentive monitor makes of a store that it is told of at once. -/
structure Catches (m : Monitor) (s : GuestStore) : Prop where
  /-- It counts the watches whose low word the store changed. -/
  counted : (m.storeNoticed s).value = m.watches.watches.countP fun w =>
    (s.into m.ram).lowWord w.address w.size != m.ram.lowWord w.address w.size
  /-- The watches are as if each was read again. -/
  watches : (m.storeNoticed s).state.watches.watches =
    m.watches.watches.map (Watch.reread (s.into m.ram).look)
  /-- The same changes are reported. -/
  changes : (m.storeNoticed s).journal.changes =
    m.watches.watches.flatMap (Watch.report (s.into m.ram).look)
  /-- Memory is as the store left it. -/
  alike : (m.storeNoticed s).state.ram.Alike (s.into m.ram)
  /-- The watches have seen that. -/
  attentive : (m.storeNoticed s).state.Attentive

/-- **One store that is noticed at once** has the effect of reading every watch again.

**Proof sketch.** The notice is a pass over the watches that the store overlaps. No byte of another
watch is among those that were stored, so that watch has nothing new to show, and the pass is as
good as one over all of them. -/
theorem Attentive.catches (h : m.Attentive) (s : GuestStore) : m.Catches s := by
  obtain ⟨pending, hframe⟩ := memoryStep_frame m s.op
  have hhushed : { m with ram := s.into m.ram, pending := pending }.Hushed :=
    Hushed.of_mute h.followUps h.mute
  have hbalances := balances_notify hhushed s.address s.width
  have hdone : m.storeNoticed s =
      { m with ram := s.into m.ram, pending := pending }.notify s.address s.width := by
    rw [storeNoticed, hframe]
    exact writeObserved_of_unasked h.active hbalances.hushed.followUps
  have hpass := (notify_pass { m with ram := s.into m.ram, pending := pending }
    s.address s.width).widen fun w hw => h.look_of_unnotified s hw
  refine ⟨?_, hdone ▸ hpass.watches, hdone ▸ hpass.changes, hdone ▸ hbalances.alike, ?_⟩
  · have hvalue := WatchList.value_notifyWatches s.address s.width m.watches.watches
      ⟨s.into m.ram, m.tally⟩
    rw [hdone]
    refine hvalue.trans (List.countP_congr fun w hw => ?_)
    obtain ⟨hseen, hshows⟩ := h.look_stored s hw
    rw [bne_iff_ne, ← hseen]
    cases hhit : WatchList.isNotified s.address s.width w with
    | true =>
      by_cases hnew : (s.into m.ram).lowWord w.address w.size = w.lastValue <;>
        simp [Watch.differs, hshows, hnew]
    | false =>
      have hold := Except.ok.inj (hshows.symm.trans (h.look_of_unnotified s hw hhit))
      simp [hold]
  · have hlook := hbalances.alike.look_eq
    rw [hdone]
    refine h.reread h.active hbalances.hushed.followUps (hlook ▸ hpass.watches) fun w hw => ?_
    rw [hlook]
    exact ⟨_, (h.look_stored s hw).2⟩

/-! ## Many stores -/

/-- Stores that are noticed at once are the first of them, and then the others. -/
lemma run_noticed_cons (m : Monitor) (s : GuestStore) (rest : List GuestStore) :
    (run ((s :: rest).flatMap GuestStore.noticed) m).value =
        .memory .done :: .count (m.storeNoticed s).value ::
          (run (rest.flatMap GuestStore.noticed) (m.storeNoticed s).state).value ∧
      (run ((s :: rest).flatMap GuestStore.noticed) m).journal.changes =
        (m.storeNoticed s).journal.changes ++
          (run (rest.flatMap GuestStore.noticed) (m.storeNoticed s).state).journal.changes ∧
      (run ((s :: rest).flatMap GuestStore.noticed) m).state =
        (run (rest.flatMap GuestStore.noticed) (m.storeNoticed s).state).state := by
  have hreply : (m.memoryStep s.op).value = .done := s.reply m.ram
  have hquiet : (m.memoryStep s.op).journal.changes = [] :=
    (@quiet_step m (.memory s.op) rfl).changes
  have hvalue : (run ((s :: rest).flatMap GuestStore.noticed) m).value =
      .memory (m.memoryStep s.op).value :: .count (m.storeNoticed s).value ::
        (run (rest.flatMap GuestStore.noticed) (m.storeNoticed s).state).value := rfl
  have hjournal : (run ((s :: rest).flatMap GuestStore.noticed) m).journal =
      (m.memoryStep s.op).journal ++ ((m.storeNoticed s).journal ++
        (run (rest.flatMap GuestStore.noticed) (m.storeNoticed s).state).journal) := rfl
  refine ⟨?_, ?_, rfl⟩
  · rw [hvalue, hreply]
  · rw [hjournal, changes_append, changes_append, hquiet, List.nil_append]

namespace Attentive

/-- **Stores that are noticed at once**, one after the other, beside a memory that is alike and sees
the stores only.

**Proof sketch.** By induction on the stores. What a watch reports of the first store is the change
it goes through, if any; it then remembers the new low word, which is where the changes along the
rest begin. -/
theorem run (h : m.Attentive) {ram : Ram} (halike : m.ram.Alike ram) (stores : List GuestStore) :
    (run (stores.flatMap GuestStore.noticed) m).value =
        (ram.changedCounts m.watches.watches stores).flatMap
          (fun n => [.memory .done, .count n]) ∧
      (∀ w ∈ m.watches.watches,
        changesAt w.address (run (stores.flatMap GuestStore.noticed) m).journal.changes =
          tellings w.callback
            (Change.along w.address w.size w.lastValue (ram.lowWords w.address w.size stores))) ∧
      (run (stores.flatMap GuestStore.noticed) m).state.Attentive := by
  induction stores generalizing m ram with
  | nil => exact ⟨rfl, fun w _ => (tellings_nil w.callback).symm, h⟩
  | cons s rest ih =>
    have hcatches := h.catches s
    have hinto := GuestStore.alike_into halike s
    obtain ⟨hvalue, hchanges, hattentive⟩ := ih hcatches.attentive (hcatches.alike.trans hinto)
    obtain ⟨hvalues, htold, hstate⟩ := run_noticed_cons m s rest
    refine ⟨?_, fun w hw => ?_, hstate ▸ hattentive⟩
    · have hcounted := hcatches.counted
      simp only [halike.lowWord_eq, hinto.lowWord_eq] at hcounted
      rw [hvalues, hvalue, hcounted, hcatches.watches, Ram.changedCounts_reread]
      rfl
    · obtain ⟨hreport, hreread⟩ := reread_of_ok (h.look_stored s hw).2
      have hfirst := changesAt_reports (s.into m.ram).look h.distinct hw
      have hrest := hchanges (w.reread (s.into m.ram).look)
        (hcatches.watches ▸ List.mem_map_of_mem hw)
      rw [hreport, ← hcatches.changes, hinto.lowWord_eq] at hfirst
      rw [hreread, hinto.lowWord_eq] at hrest
      rw [htold, changesAt_append, hfirst, hrest, ← tellings_append, ← Change.along_cons]
      rfl

/-! ## Nothing is left -/

/-- The watches of an attentive monitor are due to report nothing. -/
lemma due_eq_nil (h : m.Attentive) : m.watches.watches.flatMap (due m.ram.look) = [] := by
  refine List.flatMap_eq_nil_iff.mpr fun w hw => ?_
  rw [due, if_pos (h.awake w hw)]
  exact (reread_of_same (h.fresh w hw)).2.1

/-- What waits in the queue makes no difference to whether a monitor is attentive. -/
lemma withPending (h : m.Attentive) (pending : List Access) : { m with pending := pending }.Attentive :=
  h.of_same h.active h.followUps rfl (Ram.Alike.refl _)

/-- Applying the accesses that wait reports nothing, whatever they are. -/
lemma applyPending (h : m.Attentive) :
    m.applyPending.journal.changes = [] ∧ m.applyPending.value = m.pending.length ∧
      m.applyPending.state.Attentive := by
  have hdone := applyPending_of_hushed h.active h.hushed
  have hbalances := balances_applyPending h.hushed
  have hbalanced := hbalances.balanced.changes
  rw [h.due_eq_nil] at hbalanced
  have hactive : m.applyPending.state.active = true := by
    have hwiring := wiring_observeAll m.pending { m with pending := [] }
    rw [hdone]
    exact (congrArg (fun wiring => wiring.2.1) hwiring).trans h.active
  have hwatches : m.applyPending.state.watches.watches = m.watches.watches := by
    rw [hdone]
    refine (watches_observeAll m.pending { m with pending := [] }).trans ?_
    conv_rhs => rw [← List.map_id m.watches.watches]
    refine List.map_congr_left fun w hw => ?_
    rw [(reread_of_same (h.fresh w hw)).1, ite_self, id_eq]
  refine ⟨(List.append_eq_nil_iff.mp hbalanced.eq_nil).1, by rw [hdone], ?_⟩
  exact h.of_same hactive hbalances.hushed.followUps hwatches hbalances.alike

/-- The intercepts make no difference to whether a monitor is attentive. -/
lemma installIntercepts (h : m.Attentive) : m.installIntercepts.state.Attentive := by
  have halike := alike_installIntercepts m
  obtain ⟨reads, writes, installed, hstate⟩ := m.installIntercepts_frame
  rw [hstate] at halike ⊢
  exact h.of_same h.active h.followUps rfl halike

/-- A poll of an attentive monitor drops no watch, finds no change and gives up no watch. -/
lemma poll (h : m.Attentive) : m.poll.value = {} := by
  have hpolled : (WatchList.pollWatches m.watches.activeWatches m.probe m.ledger).value = {} := by
    exact WatchList.pollWatches_of_fresh fun w hw => h.fresh w (List.mem_of_mem_filter hw)
  have hpruned : m.watches.inactiveCount = 0 := by
    refine List.countP_eq_zero.mpr fun w hw => ?_
    rw [h.awake w hw]
    decide
  have hvalue : m.poll.value =
      { (WatchList.pollWatches m.watches.activeWatches m.probe m.ledger).value with
        pruned := m.watches.inactiveCount } := rfl
  rw [hvalue, hpolled, hpruned]

/-- **A frame of an attentive monitor has nothing to report**, whatever waits in its queue. -/
theorem frame (h : m.Attentive) : m.frame.journal.changes = [] ∧ m.frame.value = {} := by
  have hchanges := (settles_frame h.hushed h.active).changes
  rw [h.due_eq_nil] at hchanges
  refine ⟨hchanges.eq_nil, ?_⟩
  rw [(frame_of_active h.active).1]
  exact h.installIntercepts.applyPending.2.2.poll

end Attentive

/-- What comes of stores of the guest that are noticed at once. -/
structure Synchronous (m : Monitor) (stores : List GuestStore) : Prop where
  /-- The callback of each watch is told the changes along the low words of its range after each
  store, in their order. -/
  told : ∀ w ∈ m.watches.watches,
    changesAt w.address (run (stores.flatMap GuestStore.noticed) m).journal.changes =
      tellings w.callback
        (Change.along w.address w.size w.lastValue (m.ram.lowWords w.address w.size stores))
  /-- Each notice answers the number of watches whose low word the store changed. -/
  answers : (run (stores.flatMap GuestStore.noticed) m).value =
    (m.ram.changedCounts m.watches.watches stores).flatMap fun n => [.memory .done, .count n]
  /-- Whatever waits in the queue after that, neither applying it nor the next frame reports
  anything more. -/
  settled : ∀ pending, let after := { (run (stores.flatMap GuestStore.noticed) m).state with pending }
    (run [.applyPending, .frame] after).journal.changes = [] ∧
      (run [.applyPending, .frame] after).value = [.count pending.length, .report {}]

/-- **The watches see every change, and see it once**, when each store of the guest is noticed at
once. Take a started monitor all of whose watches are active and have seen what memory holds, with
callbacks that ask for no commands, and any stores of bytes or words by the guest, each followed by
its notice. Then:

* the callback of each watch is told the changes along the low words of its range after each store,
  from the value on that was seen before, in their order;
* each notice answers the number of watches whose low word the store changed;
* after that, applying the accesses that wait and the next frame report nothing more, whatever the
  queue holds.

**Proof sketch.** One store and its notice have the effect of reading every watch again, so the
monitor stays attentive. What waits in the queue at the end leads to reads of watches that have seen
what memory holds, and so does the poll. -/
theorem synchronous (hreach : Reachable m) (hactive : m.active = true)
    (hmute : ∀ w ∈ m.watches.watches, ∀ c ∈ w.callback, c.Mute)
    (hawake : ∀ w ∈ m.watches.watches, w.active = true)
    (hfresh : ∀ w ∈ m.watches.watches, m.ram.look w.address w.size = .ok w.lastValue)
    (stores : List GuestStore) : m.Synchronous stores := by
  have hattentive := hreach.attentive hactive hmute hawake hfresh
  obtain ⟨hanswers, htold, hafter⟩ := hattentive.run (Ram.Alike.refl m.ram) stores
  refine ⟨htold, hanswers, fun pending => ?_⟩
  obtain ⟨hchanges, hvalue, happlied⟩ := (hafter.withPending pending).applyPending
  obtain ⟨hchanges', hvalue'⟩ := happlied.frame
  constructor
  · simp only [Monitor.run, step, answer, changes_append, hchanges, hchanges', List.nil_append]
    rfl
  · simp only [Monitor.run, step, answer, hvalue, hvalue']

/-- A started monitor that watches the first two words of the scratchpad, and a byte of the first. -/
def doubled : Monitor :=
  (run [.start, .addWatch 0x70000000 8 (some recorder), .addWatch 0x70000001 1 none]
    (make {} 0)).state

/-- A word that is stored across the start of the scratchpad, a byte, and a word of which the double
word shows nothing. -/
def straddling : List GuestStore :=
  [.word 0x6ffffffe 0x10000, .byte 0x70000001 3, .word 0x70000004 9]

/-- The first store changes what one watch shows, the second what both show, and the third what none
does. -/
theorem synchronous_doubled :
    Reachable doubled ∧ doubled.active = true ∧
      changesAt 0x70000000 (run (straddling.flatMap GuestStore.noticed) doubled).journal.changes =
        [("recorder", ⟨0x70000000, 8, 0, 1⟩), ("recorder", ⟨0x70000000, 8, 1, 0x301⟩)] ∧
      (run (straddling.flatMap GuestStore.noticed) doubled).value =
        [.memory .done, .count 1, .memory .done, .count 2, .memory .done, .count 0] ∧
      (run [.applyPending, .frame]
        (run (straddling.flatMap GuestStore.noticed) doubled).state).journal.changes = [] := by
  have hreach : Reachable doubled := (Reachable.make {} 0).run _
  have hwatches : doubled.watches.watches =
      [⟨0x70000000, 8, 0, true, some recorder⟩, ⟨0x70000001, 1, 0, true, none⟩] := rfl
  have hmute : ∀ w ∈ doubled.watches.watches, ∀ c ∈ w.callback, c.Mute := by
    intro w hw c hc history
    rw [hwatches] at hw
    rcases List.mem_cons.mp hw with rfl | hrest
    · cases hc
      rfl
    · obtain rfl := List.mem_singleton.mp hrest
      cases hc
  have hawake : ∀ w ∈ doubled.watches.watches, w.active = true := by
    rw [hwatches]
    simp
  have hfresh : ∀ w ∈ doubled.watches.watches,
      doubled.ram.look w.address w.size = .ok w.lastValue := by
    rw [hwatches]
    intro w hw
    rcases List.mem_cons.mp hw with rfl | hrest
    · rfl
    · obtain rfl := List.mem_singleton.mp hrest
      rfl
  have hsynchronous := synchronous hreach rfl hmute hawake hfresh straddling
  have hcounts : doubled.ram.changedCounts doubled.watches.watches straddling = [1, 2, 0] := rfl
  have hwords : doubled.ram.lowWords 0x70000000 8 straddling = [1, 0x301, 0x301] := rfl
  have hw : ⟨0x70000000, 8, 0, true, some recorder⟩ ∈ doubled.watches.watches := by
    rw [hwatches]
    exact List.mem_cons_self
  refine ⟨hreach, rfl, ?_, ?_, (hsynchronous.settled _).1⟩
  · rw [hsynchronous.told _ hw, hwords]
    rfl
  · rw [hsynchronous.answers, hcounts]
    rfl

end Monitor

end GuestWatch
