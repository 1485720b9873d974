import GuestWatch.Proofs.Memory.Look

set_option relaxedAutoImplicit false
set_option autoImplicit false

/-!
# Slots over the windows

The monitor installs one slot over each window. The windows are disjoint, so the slot that answers
for an address is that of the window owning it. A list of slots without a hook of the host lets each
value through and stays as it is, whatever passes: all it may do is report the access.

## Main definitions

* `GuestWatch.Window.slots` — one slot over each window.
* `GuestWatch.Handler.Plain` — a handler that is no hook of the host.
* `GuestWatch.Slot.Reports` — slots that let every access through and report some of them.

## Main results

* `GuestWatch.Slot.winner?_slots` — the slot over the window that owns an address answers for it.
* `GuestWatch.Slot.reports_slots` — what slots over the windows report.
* `GuestWatch.Slot.foldl_install_slots` — installing slots over the windows, again or for the first
  time, leaves exactly these.
* `GuestWatch.Ram.step_of_reports` — what an operation on a memory does to such slots, and what it
  reports.
-/

namespace GuestWatch

namespace Window

/-- A slot over a window. -/
def slot (w : Window) (priority : UInt32) (handler : Option Handler) : Slot :=
  ⟨w.start, w.size, priority, handler⟩

/-- One slot over each window, with a handler for each window or none. -/
def slots (priority : UInt32) (handler : Window → Option Handler) : List Slot :=
  all.map fun w => w.slot priority (handler w)

end Window

/-- A handler that is no hook of the host. -/
def Handler.Plain : Handler → Prop
  | capture _ _ => True
  | passThrough => True
  | host _ => False

namespace Slot

open Window

/-! ## Slots that are installed, and the slot that answers -/

/-- Installing a slot adds no other one. -/
lemma mem_of_mem_install {slot other : Slot} {slots : List Slot}
    (h : other ∈ install slot slots) : other = slot ∨ other ∈ slots := by
  induction slots with
  | nil => exact Or.inl (List.mem_singleton.mp h)
  | cons first rest ih =>
    unfold install at h
    split at h
    · rcases List.mem_cons.mp h with hslot | hrest
      · exact Or.inl hslot
      · exact Or.inr (List.mem_cons_of_mem first hrest)
    · rcases List.mem_cons.mp h with hfirst | hrest
      · exact Or.inr (hfirst ▸ List.mem_cons_self)
      · exact (ih hrest).imp id (List.mem_cons_of_mem first)

/-- The slot that answers for an address is one of the slots, and covers the address. -/
lemma mem_of_winner? {address : UInt32} {slot : Slot} {slots : List Slot}
    (h : winner? address slots = some slot) : slot ∈ slots ∧ slot.covers address = true := by
  induction slots with
  | nil => cases h
  | cons first rest ih =>
    simp only [winner?] at h
    cases hbest : winner? address rest with
    | some best =>
      simp only [hbest] at h
      split at h
      · rename_i hfirst
        cases h
        exact ⟨List.mem_cons_self, (Bool.and_eq_true_iff.mp hfirst).1⟩
      · obtain ⟨hmem, hcovers⟩ := ih (hbest.trans h)
        exact ⟨List.mem_cons_of_mem first hmem, hcovers⟩
    | none =>
      simp only [hbest] at h
      split at h
      · rename_i hfirst
        cases h
        exact ⟨List.mem_cons_self, hfirst⟩
      · cases h

/-- The slot over the window that owns an address answers for it. -/
theorem winner?_slots (priority : UInt32) (handler : Window → Option Handler) (address : UInt32) :
    winner? address (slots priority handler) =
      (of? address).map fun w => w.slot priority (handler w) := by
  have hcovers : ∀ w : Window, (w.slot priority (handler w)).covers address = w.contains address :=
    fun _ => rfl
  simp only [slots, all, List.map_cons, List.map_nil, winner?, of?, hcovers]
  by_cases hram : ram.contains address = true
  · simp [hram, not_contains_scratchpad hram]
  · by_cases hpad : scratchpad.contains address = true <;> simp [hram, hpad]

/-- Installing the slot of a window again leaves the slots as they are. -/
lemma install_slots (priority : UInt32) (handler : Window → Option Handler) (w : Window) :
    install (w.slot priority (handler w)) (slots priority handler) = slots priority handler := by
  cases w <;> rfl

/-- Installing a slot over each window, where there were none or where there were such slots
before, leaves one slot over each window. -/
theorem foldl_install_slots (priority : UInt32) (handler old : Window → Option Handler)
    {before : List Slot} (h : before = [] ∨ before = slots priority old) :
    all.foldl (fun rest w => install (w.slot priority (handler w)) rest) before =
      slots priority handler := by
  rcases h with rfl | rfl <;> rfl

/-! ## What slots report -/

/-- Slots that let every access through and stay as they are. An access at an address with a value
makes them report what `reported` says. -/
def Reports (slots : List Slot) (reported : UInt32 → UInt32 → Option Access) : Prop :=
  ∀ address value, dispatch address value slots =
    { value, slots, captured := reported address value }

/-- Where there is no slot, nothing is reported. -/
lemma reports_nil : Reports [] fun _ _ => none := fun _ _ => rfl

/-- A plain handler lets the value through and stays as it is. -/
lemma run_of_plain {handler : Handler} (h : handler.Plain) (address value : UInt32) :
    handler.run address value =
      { value, handler, captured := (handler.run address value).captured } := by
  cases handler with
  | capture window kind => rfl
  | passThrough => rfl
  | host hook => cases h

/-- **Slots over the windows with plain handlers** report what the handler of the window that owns
the address captures. -/
theorem reports_slots (priority : UInt32) {handler : Window → Option Handler}
    (h : ∀ w, ∀ c ∈ handler w, c.Plain) :
    Reports (slots priority handler) fun address value =>
      (of? address).bind fun w => (handler w).bind fun c => (c.run address value).captured := by
  intro address value
  rw [dispatch, winner?_slots]
  cases howner : of? address with
  | none => simp only [howner, Option.map_none, Option.bind_none]
  | some w =>
    have hinstall := install_slots priority handler w
    simp only [howner, Option.map_some, Option.bind_some, slot] at hinstall ⊢
    cases hc : handler w with
    | none => simp only [Option.bind_none]
    | some c =>
      rw [hc] at hinstall
      have hrun := run_of_plain (h w c hc) address value
      simp only [Option.bind_some]
      rw [hrun, hinstall]

end Slot

/-! ## Operations on a memory -/

/-- Whether an operation on the memory installs a slot of the host. -/
def MemoryOp.hooks : MemoryOp → Bool
  | .installHook .. => true
  | _ => false

namespace Ram

variable {ram : Ram} {reads writes : UInt32 → UInt32 → Option Access}

/-- What an operation on a memory reports, given what it answers: a store what the slots for stores
report, and a load that answers a value what the slots for loads do. -/
def reported (reads writes : UInt32 → UInt32 → Option Access) :
    MemoryOp → MemoryReply → Option Access
  | .storeByte address value, _ => writes address value.toUInt32
  | .storeWord address value, _ => writes address value
  | .loadWord address, .loaded (some value) => reads address value
  | _, _ => none

/-- A raw read counts, calls no hook and reports nothing. -/
lemma readReply_counts (ram : Ram) (address : UInt32) (count : Nat) :
    (ram.readReply address count).ram = ram.countRead ∧
      (ram.readReply address count).events = [] ∧
      (ram.readReply address count).captured = none := by
  rcases rawRead_cases address count ram with ⟨bytes, -, hraw⟩ | ⟨e, -, hraw⟩ <;>
    simp only [readReply, hraw, and_self]

/-- **An operation on a memory whose slots report** leaves the slots as they are, unless it installs
one, calls no hook and reports what the slots do. -/
theorem step_of_reports (hreads : Slot.Reports ram.readSlots reads)
    (hwrites : Slot.Reports ram.writeSlots writes) {op : MemoryOp} (h : op.hooks = false) :
    (ram.step op).ram.readSlots = ram.readSlots ∧ (ram.step op).ram.writeSlots = ram.writeSlots ∧
      (ram.step op).events = [] ∧
      (ram.step op).captured = reported reads writes op (ram.step op).value := by
  cases op with
  | storeByte address value =>
    have hran := hwrites address value.toUInt32
    simp only [step, storeByte, afterStore, poke, hran, reported, and_self]
  | storeWord address value =>
    have hran := hwrites address value
    simp only [step, storeWord, setWord, afterStore, poke, hran, reported, and_self]
  | loadWord address =>
    rcases rawRead_cases address 4 ram with ⟨bytes, -, hraw⟩ | ⟨e, -, hraw⟩
    · have hran := hreads address (UInt32.ofNat (ofLittleEndian bytes))
      simp only [step, loadWord, hraw, countRead, hran, reported, and_self]
    · simp only [step, loadWord, hraw, countRead, reported, and_self]
  | failAt address =>
    simp only [step, failAt, reported]
    split <;> simp only [and_self]
  | readByte address =>
    obtain ⟨hram, hevents, hcaptured⟩ := ram.readReply_counts address 1
    simp only [step, hram, hevents, hcaptured, countRead, reported, and_self]
  | readHalf address =>
    obtain ⟨hram, hevents, hcaptured⟩ := ram.readReply_counts address 2
    simp only [step, hram, hevents, hcaptured, countRead, reported, and_self]
  | readWord address =>
    obtain ⟨hram, hevents, hcaptured⟩ := ram.readReply_counts address 4
    simp only [step, hram, hevents, hcaptured, countRead, reported, and_self]
  | installHook kind start size priority hook => cases h
  | _ => exact ⟨rfl, rfl, rfl, rfl⟩

end Ram

end GuestWatch
