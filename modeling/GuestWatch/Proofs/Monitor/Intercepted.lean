import GuestWatch.Proofs.Monitor.Lifecycle
import GuestWatch.Proofs.Monitor.Records

set_option relaxedAutoImplicit false
set_option autoImplicit false

/-!
# The accesses that intercepts queue

While the intercepts are installed, each store of the guest that starts inside a window is reported,
and so is each load that answers a value, if the monitor is made to track loads. What is reported
joins the queue while there is room, and what does not find room is dropped. So the queue holds the
first accesses of the guest, as many as there is room for, and they are applied in their order.

## Main definitions

* `GuestWatch.MemoryOp.touch?` — the access that an operation of the guest makes.
* `GuestWatch.Monitor.touches` — the accesses of a run of the guest.

## Main results

* `GuestWatch.Monitor.pending_run` — what a run of the guest adds to the queue.
* `GuestWatch.Monitor.queue_exact` — the queue holds exactly the first accesses.
-/

namespace GuestWatch

/-! ## Clipped accesses -/

/-- An access inside the windows, as an intercept reports it. -/
structure Access.Clipped (access : Access) : Prop where
  /-- Some window owns its address. -/
  owned : (Window.of? access.address).isSome = true
  /-- It reaches as far as the window goes on, four bytes at most. -/
  eq_clipped : access = Access.clipped access.kind access.address access.value

/-- A clipped access does not reach past its window, so its range is a legal one. -/
lemma Access.Clipped.range {access : Access} (h : access.Clipped) :
    ∃ w, Window.of? access.address = some w ∧
      access.size.toNat = min 4 (w.stop - access.address.toNat) ∧
      checkRange access.address access.size = .ok w := by
  obtain ⟨w, howner⟩ := Option.isSome_iff_exists.mp h.owned
  obtain ⟨hlow, hhigh⟩ := Window.contains_iff.mp (Window.of?_eq_some_iff.mp howner)
  have hclip : access.size = w.clip access.address := by
    have hsize := congrArg Access.size h.eq_clipped
    simpa only [Access.clipped, howner, Option.map_some, Option.getD_some] using hsize
  have hsize : access.size.toNat = min 4 (w.stop - access.address.toNat) := by
    rw [hclip, Window.clip, UInt32.toNat_ofNat', Nat.mod_eq_of_lt (by omega)]
  refine ⟨w, howner, hsize, checkRange_eq_ok_iff.mpr ⟨by omega, hlow, by omega⟩⟩

/-! ## Accesses of the guest -/

/-- Whether an operation is a load of the guest. -/
def MemoryOp.loads : MemoryOp → Bool
  | .loadWord _ => true
  | _ => false

/-- The access that an operation of the guest makes, given its answer: a store whose address a window
owns, and a load that answers a value, if loads are tracked. -/
def MemoryOp.touch? (tracked : Bool) : MemoryOp → MonitorReply → Option Access
  | .storeByte address value, _ =>
    if (Window.of? address).isSome then some (.clipped .write address value.toUInt32) else none
  | .storeWord address value, _ =>
    if (Window.of? address).isSome then some (.clipped .write address value) else none
  | .loadWord address, .memory (.loaded (some value)) =>
    if tracked then some (.clipped .read address value) else none
  | _, _ => none

/-- A load answers a value only where a window owns the address. -/
lemma Ram.owned_of_loadWord {ram : Ram} {address value : UInt32}
    (h : (ram.loadWord address).value = some value) : (Window.of? address).isSome = true := by
  rcases rawRead_cases address 4 ram with ⟨bytes, hfetch, -⟩ | ⟨e, -, hraw⟩
  · obtain ⟨hreadable, -⟩ := fetchRun_eq_ok_iff.mp hfetch
    have hfirst := (readableFrom_succ.mp hreadable).1
    exact hfirst.2
  · simp only [loadWord, hraw] at h
    cases h

namespace Monitor

/-- The accesses that operations of the guest make, in their order, given their answers. -/
def touches (tracked : Bool) (ops : List MemoryOp) (replies : List MonitorReply) : List Access :=
  (ops.zip replies).filterMap fun asked => asked.1.touch? tracked asked.2

/-- The access of the first operation comes first. -/
lemma touches_cons (tracked : Bool) (op : MemoryOp) (ops : List MemoryOp) (reply : MonitorReply)
    (replies : List MonitorReply) : touches tracked (op :: ops) (reply :: replies) =
      (op.touch? tracked reply).toList ++ touches tracked ops replies := by
  simp only [touches, List.zip_cons_cons, List.filterMap_cons]
  cases op.touch? tracked reply <;> rfl

/-- The access that an operation makes lies inside the windows. -/
lemma clipped_touch (m : Monitor) (tracked : Bool) {op : MemoryOp} {access : Access}
    (h : op.touch? tracked (.memory (m.memoryStep op).value) = some access) : access.Clipped := by
  cases op with
  | storeByte address value =>
    obtain ⟨howned, hsome⟩ := Option.ite_none_right_eq_some.mp h
    cases hsome
    exact ⟨howned, rfl⟩
  | storeWord address value =>
    obtain ⟨howned, hsome⟩ := Option.ite_none_right_eq_some.mp h
    cases hsome
    exact ⟨howned, rfl⟩
  | loadWord address =>
    cases hvalue : (m.ram.loadWord address).value with
    | none =>
      simp only [memoryStep, Ram.step, hvalue, MemoryOp.touch?] at h
      cases h
    | some value =>
      simp only [memoryStep, Ram.step, hvalue, MemoryOp.touch?] at h
      obtain ⟨-, hsome⟩ := Option.ite_none_right_eq_some.mp h
      cases hsome
      exact ⟨Ram.owned_of_loadWord hvalue, rfl⟩
  | _ => cases h

/-- The accesses of a run of the guest lie inside the windows. -/
lemma clipped_touches (m : Monitor) (tracked : Bool) (ops : List MemoryOp) :
    ∀ access ∈ touches tracked ops (run (ops.map .memory) m).value, access.Clipped := by
  induction ops generalizing m with
  | nil =>
    intro access hmem
    cases hmem
  | cons op rest ih =>
    intro access hmem
    rw [List.map_cons, run, touches_cons, List.mem_append] at hmem
    rcases hmem with hhead | hrest
    · exact m.clipped_touch tracked (Option.mem_toList.mp hhead)
    · exact ih (m.memoryStep op).state access hrest

/-! ## The queue -/

/-- While the intercepts are installed, an operation of the guest is reported exactly when it makes
an access. -/
lemma report_eq_touch {m : Monitor} (hinstalled : m.intercepting = true) (op : MemoryOp) :
    m.report op (m.ram.step op).value =
      op.touch? m.options.trackReads (.memory (m.memoryStep op).value) := by
  cases op with
  | storeByte address value =>
    simp only [report, Ram.reported, storeReport, hinstalled, Bool.true_and, MemoryOp.touch?]
  | storeWord address value =>
    simp only [report, Ram.reported, storeReport, hinstalled, Bool.true_and, MemoryOp.touch?]
  | loadWord address =>
    cases hvalue : (m.ram.loadWord address).value with
    | none =>
      simp only [memoryStep, Ram.step, hvalue, report, Ram.reported, MemoryOp.touch?]
    | some value =>
      have howned := Ram.owned_of_loadWord hvalue
      simp only [memoryStep, Ram.step, hvalue, report, Ram.reported, MemoryOp.touch?, loadReport,
        hinstalled, howned, Bool.true_and, Bool.and_true]
  | _ => rfl

/-- Accepting an access cuts the queue off where there is no more room. -/
lemma pending_accept {m : Monitor} (hroom : m.pending.length ≤ m.capacity)
    (reported : Option Access) :
    (m.accept reported).state.pending = (m.pending ++ reported.toList).take m.capacity := by
  cases reported with
  | none =>
    rw [Option.toList_none, List.append_nil, List.take_of_length_le hroom]
    rfl
  | some access =>
    rw [Option.toList_some]
    by_cases hspace : m.pending.length < m.capacity
    · have hfits : (m.pending ++ [access]).length ≤ m.capacity := by
        rw [List.length_append, List.length_singleton]
        omega
      rw [List.take_of_length_le hfits, accept_of_room hspace]
    · have hfull : m.capacity = m.pending.length := by omega
      rw [hfull, List.take_left]
      simp only [accept, hspace, if_false]

/-- What was cut off before makes no difference to what is cut off after more joined. -/
lemma take_append_take {α : Type} (n : Nat) (first second : List α) :
    (first.take n ++ second).take n = (first ++ second).take n := by
  rw [List.take_append, List.take_append, List.take_take, Nat.min_self, List.length_take]
  by_cases hlong : n ≤ first.length
  · rw [Nat.min_eq_left hlong, Nat.sub_self, Nat.sub_eq_zero_of_le hlong]
  · rw [Nat.min_eq_right (by omega)]

/-- An operation on the memory changes the memory and the queue of accesses at most. -/
lemma memoryStep_frame (m : Monitor) (op : MemoryOp) :
    ∃ pending, (m.memoryStep op).state =
      { m with ram := (m.ram.step op).ram, pending := pending } := by
  rcases accept_cases { m with ram := (m.ram.step op).ram } (m.ram.step op).captured with
    hsame | ⟨access, -, hqueued⟩
  · exact ⟨m.pending, hsame⟩
  · exact ⟨_, hqueued⟩

/-- So does a run of the guest. -/
lemma run_frame (m : Monitor) (ops : List MemoryOp) :
    ∃ ram pending, (run (ops.map .memory) m).state = { m with ram := ram, pending := pending } := by
  induction ops generalizing m with
  | nil => exact ⟨m.ram, m.pending, rfl⟩
  | cons op rest ih =>
    obtain ⟨pending, hstep⟩ := memoryStep_frame m op
    obtain ⟨ram', pending', hrest⟩ := ih (m.memoryStep op).state
    rw [hstep] at hrest
    refine ⟨ram', pending', ?_⟩
    rw [List.map_cons, run]
    simp only [step, answer, hstep]
    exact hrest

/-- **What a run of the guest adds to the queue** of a monitor with installed intercepts: its
accesses, as long as there is room.

**Proof sketch.** By induction on the run. What an operation reports is the access it makes, and
cutting the queue off after each operation comes to the same as cutting it off once. -/
theorem pending_run {m : Monitor} (h : m.Wired) (hinstalled : m.intercepting = true)
    (hroom : m.pending.length ≤ m.capacity) {ops : List MemoryOp}
    (hops : ∀ op ∈ ops, op.hooks = false) :
    (run (ops.map .memory) m).state.pending =
      (m.pending ++
        touches m.options.trackReads ops (run (ops.map .memory) m).value).take m.capacity := by
  induction ops generalizing m with
  | nil =>
    rw [touches, List.zip_nil_left, List.filterMap_nil, List.append_nil,
      List.take_of_length_le hroom]
    rfl
  | cons op rest ih =>
    have hop := hops op List.mem_cons_self
    obtain ⟨pending, hframe⟩ := memoryStep_frame m op
    have hoptions : (m.memoryStep op).state.options = m.options := by rw [hframe]
    have hcapacity : (m.memoryStep op).state.capacity = m.capacity := by
      rw [capacity, capacity, hoptions]
    have hinstalled' : (m.memoryStep op).state.intercepting = true := by
      rw [hframe]
      exact hinstalled
    have hpending : (m.memoryStep op).state.pending = (m.pending ++ (op.touch?
        m.options.trackReads (.memory (m.memoryStep op).value)).toList).take m.capacity := by
      obtain ⟨hstep, -, -⟩ := memoryStep_of_wired h hop
      rw [← report_eq_touch hinstalled, hstep]
      exact @pending_accept { m with ram := (m.ram.step op).ram } hroom _
    have hroom' : (m.memoryStep op).state.pending.length ≤ (m.memoryStep op).state.capacity := by
      rw [hpending, hcapacity]
      exact List.length_take_le _ _
    have htail := ih (wired_memoryStep h hop) hinstalled' hroom'
      fun other hother => hops other (List.mem_cons_of_mem op hother)
    rw [hoptions, hcapacity, hpending, take_append_take, List.append_assoc] at htail
    rw [List.map_cons, run, touches_cons]
    exact htail

/-! ## Loads -/

/-- Where loads are not tracked, what an operation makes does not depend on its answer. -/
lemma touch_untracked (op : MemoryOp) (reply : MonitorReply) :
    op.touch? false reply = op.touch? false .done := by
  cases op with
  | loadWord address =>
    unfold MemoryOp.touch?
    split
    · rename_i heq
      cases heq
    · rename_i heq
      cases heq
    · rfl
    · rfl
  | _ => rfl

/-- Where loads are not tracked, leaving out the loads leaves the same accesses. -/
lemma touches_untracked {ops : List MemoryOp} {replies : List MonitorReply}
    (hlength : replies.length = ops.length) : touches false ops replies =
      (ops.filter fun op => !op.loads).filterMap fun op => op.touch? false .done := by
  induction ops generalizing replies with
  | nil => rfl
  | cons op rest ih =>
    obtain ⟨reply, others, rfl⟩ := List.exists_cons_of_length_eq_add_one hlength
    have hrest := ih (Nat.succ.inj hlength)
    rw [touches_cons, touch_untracked, hrest]
    cases op with
    | loadWord address => rfl
    | _ =>
      rw [List.filter_cons_of_pos rfl, List.filterMap_cons]
      split <;> rename_i hsome <;> rw [hsome] <;> rfl

/-- A run answers each of its operations. -/
lemma length_run (m : Monitor) (ops : List MonitorOp) : (run ops m).value.length = ops.length := by
  induction ops generalizing m with
  | nil => rfl
  | cons op rest ih => exact congrArg (· + 1) (ih (m.step op).state)

/-- **The queue of intercepted accesses is exact.** Take a monitor whose intercepts are installed, on
whose memory the host has no hooks, and whose queue is empty. After any run of the guest the first
accesses of the run wait, as many as there is room for: the stores that start inside a window and,
if loads are tracked, the loads that answer a value. Applying what waits applies exactly these, in
their order, and answers their number. Each reaches as far as its window goes on, four bytes at
most, so its range is a legal one, and each callback of the ledger is told it once while recording
is switched on. Where loads are not tracked, a run waits as if there were no loads in it.

**Proof sketch.** What waits is the run's accesses, cut off where there is no more room. Applying
them may ask for commands, but carrying those out tells no callback of the ledger. -/
theorem queue_exact {m : Monitor} (h : Unhooked m) (hinstalled : m.intercepting = true)
    (hempty : m.pending = []) {ops : List MemoryOp} (hops : ∀ op ∈ ops, op.hooks = false) :
    let ran := run (ops.map .memory) m
    let made := touches m.options.trackReads ops ran.value
    let applied := made.take (max 1 m.options.pendingCapacity)
    let seen := observeAll applied { ran.state with pending := [] }
    ran.state.pending = applied ∧
    ran.state.applyPending = settle ⟨applied.length, seen.state, seen.journal⟩ ∧
    ran.state.applyPending.value = min made.length (max 1 m.options.pendingCapacity) ∧
    (∀ access ∈ applied, ∃ w, Window.of? access.address = some w ∧
      access.size.toNat = min 4 (w.stop - access.address.toNat) ∧
      checkRange access.address access.size = .ok w) ∧
    (m.ledger.tracking = true →
      ran.state.applyPending.journal.recorded = applied.flatMap m.ledger.tellings) ∧
    (m.options.trackReads = false →
      (run ((ops.filter fun op => !op.loads).map .memory) m).state.pending = applied) := by
  intro ran made applied seen
  have hwired := h.wired
  have hroom : m.pending.length ≤ m.capacity := by
    rw [hempty]
    exact Nat.zero_le _
  have hpending : ran.state.pending = applied := by
    have hran := pending_run hwired hinstalled hroom hops
    rwa [hempty, List.nil_append] at hran
  obtain ⟨ram, pending, hframe⟩ := run_frame m ops
  have hactive : ran.state.active = true := by
    rw [show ran.state = _ from hframe]
    exact hwired.active_of_intercepting hinstalled
  have hledger : ran.state.ledger = m.ledger := by rw [show ran.state = _ from hframe]
  have happly : ran.state.applyPending = settle ⟨applied.length, seen.state, seen.journal⟩ := by
    have hopen := applyPending_of_active hactive
    rwa [hpending] at hopen
  have hranges : ∀ access ∈ applied, ∃ w, Window.of? access.address = some w ∧
      access.size.toNat = min 4 (w.stop - access.address.toNat) ∧
      checkRange access.address access.size = .ok w := by
    intro access hmem
    exact (clipped_touches m m.options.trackReads ops access (List.mem_of_mem_take hmem)).range
  refine ⟨hpending, happly, ?_, hranges, fun htracking => ?_, fun huntracked => ?_⟩
  · rw [happly]
    exact (List.length_take).trans (Nat.min_comm _ _)
  · rw [happly, recorded_settle]
    have hlegal : ∀ access ∈ applied, ∃ w, checkRange access.address access.size = .ok w := by
      intro access hmem
      obtain ⟨w, -, -, hrange⟩ := hranges access hmem
      exact ⟨w, hrange⟩
    have hrecorded := @recorded_observeAll applied { ran.state with pending := [] }
      (by rw [← htracking, ← hledger]) hlegal
    rw [← hledger]
    exact hrecorded
  · have hstores : ∀ op ∈ ops.filter fun op => !op.loads, op.hooks = false :=
      fun op hop => hops op (List.mem_of_mem_filter hop)
    have hfewer := pending_run hwired hinstalled hroom hstores
    have hmade : touches false (ops.filter fun op => !op.loads)
        (run ((ops.filter fun op => !op.loads).map .memory) m).value =
          touches false ops ran.value := by
      rw [touches_untracked (by rw [length_run, List.length_map]),
        touches_untracked (by rw [length_run, List.length_map]), List.filter_filter]
      simp only [Bool.and_self]
    rw [hempty, List.nil_append, huntracked, hmade] at hfewer
    rw [hfewer, ← huntracked]
    rfl

/-- A monitor that queues two accesses at most, after its first frame. -/
def alert : Monitor := (run [.start, .frame] (make { pendingCapacity := 2 } 0)).state

/-- Of four stores, one before the scratchpad and one across the end of main memory, the first two
that start inside a window wait. -/
theorem queue_exact_alert :
    Unhooked alert ∧ alert.intercepting = true ∧ alert.pending = [] ∧
      (run ([.storeWord 0x6ffffffe 1, .storeWord 0x01fffffe 2, .storeByte 0x1000 3,
        .storeWord 0x70000000 4].map .memory) alert).state.pending =
          [⟨0x01fffffe, 2, 2, .write⟩, ⟨0x1000, 4, 3, .write⟩] := by
  have hunhooked : Unhooked alert := (Unhooked.make { pendingCapacity := 2 } 0).run (by decide)
  obtain ⟨hinstalled, hempty, hoptions⟩ :=
    @intercepting_frame (make { pendingCapacity := 2 } 0).start.state rfl
  have hqueue := @queue_exact alert hunhooked hinstalled hempty [.storeWord 0x6ffffffe 1,
    .storeWord 0x01fffffe 2, .storeByte 0x1000 3, .storeWord 0x70000000 4] (by decide)
  refine ⟨hunhooked, hinstalled, hempty, hqueue.1.trans ?_⟩
  have hcapacity : alert.options = { pendingCapacity := 2 } := hoptions
  rw [hcapacity]
  rfl

end Monitor

end GuestWatch
