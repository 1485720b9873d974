import GuestWatch.Memory.Basic
import GuestWatch.Memory.Intercept
import GuestWatch.Word
import Std.Data.TreeMap

set_option relaxedAutoImplicit false
set_option autoImplicit false

/-!
# A memory of bytes

The reference memory holds one byte for each address of the two windows and nothing elsewhere. Only
bytes that were stored are kept; all others are zero. It plays the guest's side as well: guest loads
and stores run the installed intercepts, and reads can be made to fail address by address.

## Main definitions

* `GuestWatch.Ram` — the memory; `byteAt` is the byte at an address.
* `GuestWatch.Ram.poke` — stores bytes without running an intercept.
* `GuestWatch.Ram.fetch` — the byte at an address, or why it cannot be read.
* `GuestWatch.Ram.storeByte`, `GuestWatch.Ram.storeWord`, `GuestWatch.Ram.loadWord` — what the guest
  does.
* `GuestWatch.Ram.step` — the operations on a memory as one function on `MemoryOp`.

## Main results

* `GuestWatch.Ram.byteAt_storeCells` — after bytes were stored, an address inside the windows holds
  the byte stored to it, if there was one, and its old byte otherwise.
-/

namespace GuestWatch

/-- The bytes that were stored, by address. -/
abbrev Cells := Std.TreeMap UInt32 UInt8

/-- The byte at an address; a byte that was never stored is zero. -/
def Cells.byteAt (cells : Cells) (address : UInt32) : UInt8 := cells.getD address 0

/-- Storing one byte changes the byte at its address only. -/
theorem Cells.byteAt_insert (cells : Cells) (address other : UInt32) (b : UInt8) :
    Cells.byteAt (cells.insert address b) other =
      if address = other then b else cells.byteAt other := by
  simp [Cells.byteAt, Std.TreeMap.getD_insert]

/-- The address a number stands for, when something is mapped there. -/
def mapped? (n : Nat) : Option UInt32 :=
  if n < UInt32.size then
    if (Window.of? (UInt32.ofNat n)).isSome then some (UInt32.ofNat n) else none
  else none

/-- Stores bytes from a position on. Bytes outside the windows, and those past the last address,
are dropped. -/
def Cells.store : Nat → List UInt8 → Cells → Cells
  | _, [], cells => cells
  | n, b :: rest, cells =>
    match mapped? n with
    | some address => store (n + 1) rest (cells.insert address b)
    | none => store (n + 1) rest cells

/-- The reference memory. -/
structure Ram where
  /-- The stored bytes. -/
  cells : Cells := ∅
  /-- The slots for guest loads. -/
  readSlots : List Slot := []
  /-- The slots for guest stores. -/
  writeSlots : List Slot := []
  /-- The addresses at which reads fail. -/
  failing : List UInt32 := []
  /-- The ranges, as start and end, whose contents do not pass the check. -/
  rejected : List (UInt32 × UInt32) := []
  /-- The ranges that were checked, in order. -/
  checked : List (UInt32 × UInt32) := []
  /-- The switch of write protection. -/
  protection : Bool := false
  /-- How many raw reads were asked for. -/
  rawReads : Nat := 0

namespace Ram

/-- The byte at an address. -/
def byteAt (ram : Ram) (address : UInt32) : UInt8 := ram.cells.byteAt address

/-! ## Host side -/

/-- Stores bytes without running an intercept. -/
def poke (ram : Ram) (address : UInt32) (bytes : List UInt8) : Ram :=
  { ram with cells := ram.cells.store address.toNat bytes }

/-- Stores a word without running an intercept. -/
def setWord (ram : Ram) (address value : UInt32) : Ram := ram.poke address (Word.bytes value)

/-- Makes reads at an address fail. -/
def failAt (ram : Ram) (address : UInt32) : Ram :=
  if ram.failing.contains address then ram else { ram with failing := ram.failing ++ [address] }

/-- Lets all reads succeed again. -/
def clearFailures (ram : Ram) : Ram := { ram with failing := [] }

/-- Makes the check of exactly this range fail. -/
def reject (ram : Ram) (start stop : UInt32) : Ram :=
  { ram with rejected := ram.rejected ++ [(start, stop)] }

/-- Installs a slot for guest accesses of one kind. -/
def installSlot (ram : Ram) (slot : Slot) : Direction → Ram
  | .read => { ram with readSlots := slot.install ram.readSlots }
  | .write => { ram with writeSlots := slot.install ram.writeSlots }

/-! ## Raw reads -/

/-- The byte at an address, or why it cannot be read: injected failures come before missing
storage. -/
def fetch (ram : Ram) (address : UInt32) : Except AccessError UInt8 :=
  if ram.failing.contains address then .error (.deviceFault address)
  else if (Window.of? address).isSome then .ok (ram.byteAt address)
  else .error (.unmapped address)

/-- The bytes at `count` addresses from one on, or the error of the first that cannot be read. After
the last address comes the first again. -/
def fetchRun (ram : Ram) : UInt32 → Nat → Except AccessError (List UInt8)
  | _, 0 => .ok []
  | address, count + 1 =>
    match ram.fetch address with
    | .error e => .error e
    | .ok b =>
      match ram.fetchRun (address + 1) count with
      | .error e => .error e
      | .ok rest => .ok (b :: rest)

/-- The memory after one more raw read was asked for. -/
def countRead (ram : Ram) : Ram := { ram with rawReads := ram.rawReads + 1 }

/-- A raw read of some bytes as a little-endian number. -/
def rawRead (address : UInt32) (count : Nat) : EStateM AccessError Ram Nat := fun ram =>
  match ram.fetchRun address count with
  | .ok bytes => .ok (ofLittleEndian bytes) ram.countRead
  | .error e => .error e ram.countRead

/-- Checks a range: it passes unless exactly this range was rejected. -/
def checkContents (start stop : UInt32) (ram : Ram) : Bool × Ram :=
  (!ram.rejected.contains (start, stop), { ram with checked := ram.checked ++ [(start, stop)] })

instance : GuestMemory Ram where
  readByte address := UInt8.ofNat <$> rawRead address 1
  readHalf address := UInt16.ofNat <$> rawRead address 2
  readWord address := UInt32.ofNat <$> rawRead address 4
  checkContents := checkContents
  setProtection on ram := { ram with protection := on }

/-! ## Guest side -/

/-- What an operation on the memory yields. -/
structure Reaction (α : Type) where
  /-- The answer. -/
  value : α
  /-- The memory afterwards. -/
  ram : Ram
  /-- The reports of hook calls. -/
  events : List Event := []
  /-- The access that is reported to the monitor. -/
  captured : Option Access := none

/-- Runs the intercept of a store that has been carried out. -/
def afterStore (ram : Ram) (address value : UInt32) : Reaction Unit :=
  let ran := Slot.dispatch address value ram.writeSlots
  ⟨(), { ram with writeSlots := ran.slots }, ran.events, ran.captured⟩

/-- The guest stores a byte: memory changes, then the intercept runs. -/
def storeByte (ram : Ram) (address : UInt32) (value : UInt8) : Reaction Unit :=
  (ram.poke address [value]).afterStore address value.toUInt32

/-- The guest stores a word: memory changes, then the intercept runs. -/
def storeWord (ram : Ram) (address value : UInt32) : Reaction Unit :=
  (ram.setWord address value).afterStore address value

/-- The guest loads a word: it sees what the intercept makes of the word in memory. There is nothing
to see, and no intercept runs, when the word cannot be read. -/
def loadWord (ram : Ram) (address : UInt32) : Reaction (Option UInt32) :=
  match rawRead address 4 ram with
  | .error _ ram => ⟨none, ram, [], none⟩
  | .ok n ram =>
    let ran := Slot.dispatch address (UInt32.ofNat n) ram.readSlots
    ⟨some ran.value, { ram with readSlots := ran.slots }, ran.events, ran.captured⟩

/-- A memory on one line. -/
def text (ram : Ram) : String :=
  Text.openRecord "RamBackend" [("read_maps", Nat.repr (Slot.installed ram.readSlots)),
    ("write_maps", Nat.repr (Slot.installed ram.writeSlots)),
    ("protection_enabled", Text.flag ram.protection), ("raw_reads", Nat.repr ram.rawReads)]

end Ram

/-! ## Operations as data -/

/-- An operation of the host or the guest on the memory. -/
inductive MemoryOp where
  /-- Stores bytes without an intercept. -/
  | poke (address : UInt32) (bytes : List UInt8)
  /-- Stores a word without an intercept. -/
  | setWord (address value : UInt32)
  /-- The guest stores a byte. -/
  | storeByte (address : UInt32) (value : UInt8)
  /-- The guest stores a word. -/
  | storeWord (address value : UInt32)
  /-- The guest loads a word. -/
  | loadWord (address : UInt32)
  /-- Makes reads at an address fail. -/
  | failAt (address : UInt32)
  /-- Lets all reads succeed again. -/
  | clearFailures
  /-- Makes the check of a range fail. -/
  | reject (start stop : UInt32)
  /-- Switches write protection. -/
  | setProtection (on : Bool)
  /-- Reads a byte. -/
  | readByte (address : UInt32)
  /-- Reads a half-word. -/
  | readHalf (address : UInt32)
  /-- Reads a word. -/
  | readWord (address : UInt32)
  /-- Checks the contents of a range. -/
  | checkContents (start stop : UInt32)
  /-- The host installs a hook, or an empty slot, for guest accesses of one kind. -/
  | installHook (kind : Direction) (start size priority : UInt32) (hook : Option Hook)

/-- The answer of an operation on the memory. -/
inductive MemoryReply where
  /-- Nothing to tell. -/
  | done
  /-- What the guest saw. -/
  | loaded (value : Option UInt32)
  /-- What was read, as a number. -/
  | fetched (result : Except AccessError Nat)
  /-- Whether the contents passed the check. -/
  | passed (ok : Bool)

namespace Ram

/-- The answer and the memory of a raw read. -/
def readReply (address : UInt32) (count : Nat) (ram : Ram) : Reaction MemoryReply :=
  match rawRead address count ram with
  | .ok n ram => ⟨.fetched (.ok n), ram, [], none⟩
  | .error e ram => ⟨.fetched (.error e), ram, [], none⟩

/-- Carries out an operation on the memory. -/
def step (ram : Ram) : MemoryOp → Reaction MemoryReply
  | .poke address bytes => ⟨.done, ram.poke address bytes, [], none⟩
  | .setWord address value => ⟨.done, ram.setWord address value, [], none⟩
  | .storeByte address value =>
    let r := ram.storeByte address value
    ⟨.done, r.ram, r.events, r.captured⟩
  | .storeWord address value =>
    let r := ram.storeWord address value
    ⟨.done, r.ram, r.events, r.captured⟩
  | .loadWord address =>
    let r := ram.loadWord address
    ⟨.loaded r.value, r.ram, r.events, r.captured⟩
  | .failAt address => ⟨.done, ram.failAt address, [], none⟩
  | .clearFailures => ⟨.done, ram.clearFailures, [], none⟩
  | .reject start stop => ⟨.done, ram.reject start stop, [], none⟩
  | .setProtection on => ⟨.done, GuestMemory.setProtection on ram, [], none⟩
  | .readByte address => ram.readReply address 1
  | .readHalf address => ram.readReply address 2
  | .readWord address => ram.readReply address 4
  | .checkContents start stop =>
    let r := ram.checkContents start stop
    ⟨.passed r.1, r.2, [], none⟩
  | .installHook kind start size priority hook =>
    ⟨.done, ram.installSlot ⟨start, size, priority, hook.map .host⟩ kind, [], none⟩

end Ram

/-! ## What a store changes -/

/-- A number that stands for a mapped address is that address. -/
theorem toNat_of_mapped? {n : Nat} {address : UInt32} (h : mapped? n = some address) :
    address.toNat = n := by
  unfold mapped? at h
  split at h
  · split at h
    · cases h
      rw [UInt32.toNat_ofNat', Nat.mod_eq_of_lt (by assumption)]
    · cases h
  · cases h

/-- Something is mapped at the number of an address exactly when a window owns the address. -/
theorem mapped?_toNat (address : UInt32) :
    mapped? address.toNat = if (Window.of? address).isSome then some address else none := by
  have h : address.toNat < UInt32.size := address.toNat_lt
  unfold mapped?
  rw [if_pos h, UInt32.ofNat_toNat]

/-- After bytes were stored, an address inside the windows holds the byte stored to it, if there was
one, and its old byte otherwise. -/
theorem Ram.byteAt_storeCells (n : Nat) (bytes : List UInt8) (cells : Cells) (address : UInt32)
    (howned : (Window.of? address).isSome = true) :
    (cells.store n bytes).byteAt address =
      if n ≤ address.toNat then bytes[address.toNat - n]?.getD (cells.byteAt address)
      else cells.byteAt address := by
  induction bytes generalizing n cells with
  | nil => simp [Cells.store]
  | cons b rest ih =>
    have hmap := mapped?_toNat address
    rw [if_pos howned] at hmap
    have hother : ∀ a, mapped? n = some a → address.toNat ≠ n →
        Cells.byteAt (cells.insert a b) address = cells.byteAt address := by
      intro a ha hne
      rw [Cells.byteAt_insert, if_neg]
      rintro rfl
      exact hne (toNat_of_mapped? ha)
    rcases Nat.lt_trichotomy address.toNat n with hlt | rfl | hgt
    · have hsame : ∀ c, (Cells.store (n + 1) rest c).byteAt address = c.byteAt address := by
        intro c
        rw [ih, if_neg (by omega)]
      rw [if_neg (by omega)]
      unfold Cells.store
      split
      · rename_i a ha
        rw [hsame, hother a ha (by omega)]
      · exact hsame cells
    · unfold Cells.store
      rw [hmap]
      simp only [ih, Cells.byteAt_insert]
      rw [if_neg (by omega)]
      simp
    · have hidx : address.toNat - n = address.toNat - (n + 1) + 1 := by omega
      have hrec : ∀ c : Cells, c.byteAt address = cells.byteAt address →
          (Cells.store (n + 1) rest c).byteAt address =
            if n ≤ address.toNat then (b :: rest)[address.toNat - n]?.getD (cells.byteAt address)
            else cells.byteAt address := by
        intro c hc
        rw [ih, if_pos (by omega), if_pos (by omega), hc, hidx, List.getElem?_cons_succ]
      unfold Cells.store
      split
      · rename_i a ha
        exact hrec _ (hother a ha (by omega))
      · exact hrec cells rfl

end GuestWatch
