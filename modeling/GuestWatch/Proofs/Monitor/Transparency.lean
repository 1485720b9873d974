import GuestWatch.Proofs.Monitor.Lifecycle

set_option relaxedAutoImplicit false
set_option autoImplicit false

/-!
# The monitor leaves the guest alone

The intercepts of the monitor stand on the way of the guest's loads and stores, the monitor reads the
memory, and it is told of writes that look like stores. Nevertheless the guest cannot tell whether a
monitor watches it. Take a run in which the host installs no intercepts of its own, and leave out all
that is done with the monitor: the guest finds the same bytes and sees the same values.

The two runs are compared operation by operation. Their memories agree throughout: an operation on
the memory does the same to memories that agree, as no slot changes the value of a load, and any
other operation leaves a memory that agrees with the one before.

## Main definitions

* `GuestWatch.MonitorOp.isMemory` — the operations of the host and the guest on the memory.
* `GuestWatch.Monitor.memoryReplies` — what these answer in a run.

## Main results

* `GuestWatch.Ram.Agrees.step` — operations on memories that agree.
* `GuestWatch.Monitor.agrees_step` — operations of the monitor leave the contents of the memory.
* `GuestWatch.Monitor.agrees_run` — a run agrees with what is left of it without the monitor.
* `GuestWatch.Monitor.guest_undisturbed` — the guest cannot tell whether a monitor watches it.
-/

namespace GuestWatch

/-- Whether an operation is one of the host or the guest on the memory. -/
def MonitorOp.isMemory : MonitorOp → Bool
  | .memory _ => true
  | _ => false

namespace Ram

variable {a b ram : Ram} {reads reads' : UInt32 → UInt32 → Option Access}

/-! ## Memories that agree -/

/-- Bytes that are stored in memories that agree. -/
lemma Agrees.poke (h : a.Agrees b) (address : UInt32) (bytes : List UInt8) :
    (a.poke address bytes).Agrees (b.poke address bytes) := by
  refine ⟨⟨?_, h.failing⟩, h.rejected⟩
  simp only [Ram.poke, h.cells]

/-- A read that is made to fail in memories that agree. -/
lemma Agrees.failAt (h : a.Agrees b) (address : UInt32) :
    (a.failAt address).Agrees (b.failAt address) := by
  unfold Ram.failAt
  rw [h.failing]
  split
  · exact h
  · exact ⟨⟨h.cells, rfl⟩, h.rejected⟩

/-- What runs after a store changes slots at most. -/
lemma agrees_afterStore (ram : Ram) (address value : UInt32) :
    (ram.afterStore address value).ram.Agrees ram := ⟨⟨rfl, rfl⟩, rfl⟩

/-- So memories that agree still do after the intercepts of a store. -/
lemma Agrees.afterStore (h : a.Agrees b) (address value : UInt32) :
    (a.afterStore address value).ram.Agrees (b.afterStore address value).ram :=
  ((agrees_afterStore a address value).trans h).trans (agrees_afterStore b address value).symm

/-- A raw read answers alike. -/
lemma Agrees.readReply (h : a.Agrees b) (address : UInt32) (count : Nat) :
    (a.readReply address count).value = (b.readReply address count).value ∧
      (a.readReply address count).ram.Agrees (b.readReply address count).ram := by
  have hfetch := fetchRun_congr h.toAlike address count
  rw [(readReply_counts a address count).1, (readReply_counts b address count).1]
  refine ⟨?_, ⟨⟨h.cells, h.failing⟩, h.rejected⟩⟩
  simp only [Ram.readReply, rawRead, hfetch]
  cases b.fetchRun address count <;> rfl

/-- **A load of the guest sees the word in the memory**, where the slots for loads let values
through. -/
lemma loadWord_of_reports (h : Slot.Reports ram.readSlots reads) (address : UInt32) :
    (ram.loadWord address).value = (ram.fetchRun address 4).toOption.map
        (fun bytes => UInt32.ofNat (ofLittleEndian bytes)) ∧
      (ram.loadWord address).ram.Agrees ram := by
  rcases rawRead_cases address 4 ram with ⟨bytes, hfetch, hraw⟩ | ⟨e, hfetch, hraw⟩
  · have hran := h address (UInt32.ofNat (ofLittleEndian bytes))
    simp only [loadWord, hraw, countRead, hran, hfetch]
    exact ⟨rfl, ⟨⟨rfl, rfl⟩, rfl⟩⟩
  · simp only [loadWord, hraw, hfetch]
    exact ⟨rfl, ⟨⟨rfl, rfl⟩, rfl⟩⟩

/-- **An operation on memories that agree** answers alike and leaves memories that agree, if their
slots for loads let values through. -/
theorem Agrees.step (h : a.Agrees b) (ha : Slot.Reports a.readSlots reads)
    (hb : Slot.Reports b.readSlots reads') {op : MemoryOp} (hop : op.hooks = false) :
    (a.step op).value = (b.step op).value ∧ (a.step op).ram.Agrees (b.step op).ram := by
  cases op with
  | poke address bytes => exact ⟨rfl, h.poke address bytes⟩
  | setWord address value => exact ⟨rfl, h.poke address (Word.bytes value)⟩
  | storeByte address value =>
    exact ⟨rfl, (h.poke address [value]).afterStore address value.toUInt32⟩
  | storeWord address value =>
    exact ⟨rfl, (h.poke address (Word.bytes value)).afterStore address value⟩
  | loadWord address =>
    obtain ⟨hvalue, hram⟩ := loadWord_of_reports ha address
    obtain ⟨hvalue', hram'⟩ := loadWord_of_reports hb address
    refine ⟨?_, (hram.trans h).trans hram'.symm⟩
    simp only [Ram.step, hvalue, hvalue', fetchRun_congr h.toAlike]
  | failAt address => exact ⟨rfl, h.failAt address⟩
  | clearFailures => exact ⟨rfl, ⟨⟨h.cells, rfl⟩, h.rejected⟩⟩
  | reject start stop =>
    refine ⟨rfl, ⟨⟨h.cells, h.failing⟩, ?_⟩⟩
    simp only [Ram.step, reject, h.rejected]
  | setProtection on => exact ⟨rfl, ⟨⟨h.cells, h.failing⟩, h.rejected⟩⟩
  | readByte address => exact h.readReply address 1
  | readHalf address => exact h.readReply address 2
  | readWord address => exact h.readReply address 4
  | checkContents start stop =>
    refine ⟨?_, ⟨⟨h.cells, h.failing⟩, h.rejected⟩⟩
    simp only [Ram.step, checkContents, h.rejected]
  | installHook kind start size priority hook => cases hop

end Ram

namespace Monitor

/-! ## Operations of the monitor -/

/-- To empty the slots of the intercepts is no matter of the contents. -/
lemma agrees_shutdown (m : Monitor) : m.shutdown.state.ram.Agrees m.ram := by
  unfold shutdown removeIntercepts
  split
  · split <;> exact ⟨⟨rfl, rfl⟩, rfl⟩
  · exact Ram.Agrees.refl m.ram

/-- **Every operation of the monitor** leaves a memory that agrees with the one before, whatever
callbacks run and whatever commands they ask for. -/
theorem agrees_step (m : Monitor) {op : MonitorOp} (hop : op.isMemory = false) :
    (m.step op).state.ram.Agrees m.ram := by
  by_cases hsettles : op.settles = true
  · exact (path_step m op).agrees hsettles
  rw [Bool.not_eq_true] at hsettles
  by_cases hdisturbs : op.disturbs = false
  · exact (recounted_step m hdisturbs).agrees
  cases op with
  | shutdown => exact agrees_shutdown m
  | checkMemory =>
    obtain ⟨checked, hstate⟩ := checkMemory_frame m
    rw [hstate]
    exact ⟨⟨rfl, rfl⟩, rfl⟩
  | checkSystem =>
    obtain ⟨checked, hstate⟩ := checkSystem_frame m
    rw [hstate]
    exact ⟨⟨rfl, rfl⟩, rfl⟩
  | memory op => cases hop
  | _ => first | exact absurd rfl hdisturbs | cases hsettles

/-- An operation on the memories of two wired monitors, where the memories agree. -/
lemma agrees_memoryStep {m n : Monitor} (hm : m.Wired) (hn : n.Wired) (h : m.ram.Agrees n.ram)
    {op : MemoryOp} (hop : op.hooks = false) :
    (m.memoryStep op).value = (n.memoryStep op).value ∧
      (m.memoryStep op).state.ram.Agrees (n.memoryStep op).state.ram := by
  rw [ram_memoryStep, ram_memoryStep]
  exact h.step hm.reports.1 hn.reports.1 hop

/-! ## Runs with and without the monitor -/

/-- What the operations on the memory answer in a run, given all answers. -/
def memoryReplies (ops : List MonitorOp) (replies : List MonitorReply) : List MonitorReply :=
  ((ops.zip replies).filter fun asked => asked.1.isMemory).map Prod.snd

lemma memoryReplies_cons (op : MonitorOp) (ops : List MonitorOp) (reply : MonitorReply)
    (replies : List MonitorReply) : memoryReplies (op :: ops) (reply :: replies) =
      if op.isMemory then reply :: memoryReplies ops replies else memoryReplies ops replies := by
  simp only [memoryReplies, List.zip_cons_cons, List.filter_cons]
  split <;> rfl

/-- **A run agrees with what is left of it without the monitor**: start the two runs in wired monitors
whose memories agree, and the memories agree at the end; the operations on the memory answer alike.

**Proof sketch.** By induction on the run. An operation of the monitor is made in the one run only
and leaves a memory that agrees. One on the memory is made in both. -/
theorem agrees_run {m n : Monitor} (hm : m.Wired) (hn : n.Wired) (h : m.ram.Agrees n.ram)
    {ops : List MonitorOp} (hops : ∀ op ∈ ops, op.hooks = false) :
    (run ops m).state.ram.Agrees (run (ops.filter MonitorOp.isMemory) n).state.ram ∧
      memoryReplies ops (run ops m).value = (run (ops.filter MonitorOp.isMemory) n).value := by
  induction ops generalizing m n with
  | nil => exact ⟨h, rfl⟩
  | cons op rest ih =>
    have hop := hops op List.mem_cons_self
    have hrest : ∀ other ∈ rest, other.hooks = false :=
      fun other hother => hops other (List.mem_cons_of_mem op hother)
    have hm' := wired_step hm hop
    rw [run, memoryReplies_cons, List.filter_cons]
    cases hmemory : op.isMemory with
    | false => exact ih hm' hn ((agrees_step m hmemory).trans h) hrest
    | true =>
      have hboth : (m.step op).value = (n.step op).value ∧
          (m.step op).state.ram.Agrees (n.step op).state.ram := by
        cases op with
        | memory op =>
          obtain ⟨hvalue, hram⟩ := agrees_memoryStep hm hn h hop
          exact ⟨congrArg MonitorReply.memory hvalue, hram⟩
        | _ => cases hmemory
      obtain ⟨hend, hreplies⟩ := ih hm' (wired_step hn hop) hboth.2 hrest
      simp only [if_true, run]
      rw [hboth.1, hreplies]
      exact ⟨hend, rfl⟩

/-- **The monitor does not disturb the guest.** Take any run of a monitor whose host installs no
intercepts of its own: the monitor is started, polled, told of writes, asked to check, switched and
shut down in any order, with any options and any callbacks, and in between the host and the guest
store, load and let reads fail. Leave out of the run all operations but those on the memory. Up to
any point of the run each byte of the memory is the same with and without the operations left out,
and throughout the run so is each answer of the memory, loads of the guest among them. -/
theorem guest_undisturbed {m : Monitor} (h : Unhooked m) {ops : List MonitorOp}
    (hops : ∀ op ∈ ops, op.hooks = false) :
    (∀ (k : Nat) (address : UInt32), (run (ops.take k) m).state.ram.byteAt address =
      (run ((ops.take k).filter MonitorOp.isMemory) m).state.ram.byteAt address) ∧
    memoryReplies ops (run ops m).value = (run (ops.filter MonitorOp.isMemory) m).value := by
  refine ⟨fun k address => ?_, (agrees_run h.wired h.wired (Ram.Agrees.refl m.ram) hops).2⟩
  have hprefix : ∀ op ∈ ops.take k, op.hooks = false :=
    fun op hop => hops op (List.mem_of_mem_take hop)
  exact congrFun (agrees_run h.wired h.wired (Ram.Agrees.refl m.ram) hprefix).1.byteAt_eq address

/-- A monitor that tracks loads is started, watches a word, is told of a write that the guest did not
make, and is shut down; the guest stores that word and loads it, before and after the shutdown. -/
def visit : List MonitorOp :=
  [.start, .loadGame "mirror", .frame, .memory (.storeWord 0x1000 7), .addWatch 0x1000 4 none,
    .pokeObserved 0x1000 9, .memory (.loadWord 0x1000), .frame, .shutdown,
    .memory (.loadWord 0x1000)]

/-- In the run `visit` the guest loads the word it stored, both times. -/
theorem guest_undisturbed_visit :
    memoryReplies visit (run visit (make { trackReads := true } 0)).value =
        [.memory .done, .memory (.loaded (some 7)), .memory (.loaded (some 7))] ∧
      (run visit (make { trackReads := true } 0)).state.ram.byteAt 0x1000 = 7 := by
  have hops : ∀ op ∈ visit, op.hooks = false := by decide
  obtain ⟨hbytes, hreplies⟩ := guest_undisturbed (Unhooked.make { trackReads := true } 0) hops
  have hend := hbytes visit.length 0x1000
  rw [List.take_length] at hend
  rw [hreplies, hend]
  exact ⟨rfl, rfl⟩

end Monitor

end GuestWatch
