import GuestWatch.Address.Range
import GuestWatch.Fault.Tally
import GuestWatch.Journal.Basic
import GuestWatch.Memory.Basic
import GuestWatch.Word

set_option relaxedAutoImplicit false
set_option autoImplicit false

/-!
# Checked reads

A probe reads memory inside the windows only, and only reads. Bytes, half-words and words are read
in one piece when they are aligned and byte by byte otherwise. A double word is two words, of which
a 32-bit read keeps the lower one. Any other width is read as a word.

## Main definitions

* `GuestWatch.Probe` — a memory together with the fault counters its reads are charged to.
* `GuestWatch.Reading` — a read that may fault and may change the memory's bookkeeping.
* `GuestWatch.Probe.readRange` — the checked read of a width.
* `GuestWatch.Probe.readDouble` — the checked read of all eight bytes of a double word.
* `GuestWatch.Probe.attempt`, `GuestWatch.Probe.read` — the same through a probe; the second answers
  zero and counts the fault when there is one. -/

namespace GuestWatch

variable {β : Type} [GuestMemory β]

/-- A read that may fault and may change the memory's bookkeeping. -/
abbrev Reading (β α : Type) := EStateM Fault β α

/-- A memory together with the fault counters its reads are charged to. -/
structure Probe (β : Type) where
  /-- The memory. -/
  memory : β
  /-- The fault counters. -/
  tally : Tally

namespace Probe

/-- Reads one byte. -/
def readByte (address : UInt32) : Reading β UInt8 :=
  (GuestMemory.readByte address).adaptExcept (Fault.readFailure address 1)

/-- Reads bytes one by one, in ascending order. -/
def readBytes : UInt32 → Nat → Reading β (List UInt8)
  | _, 0 => pure []
  | address, count + 1 => do
    let b ← readByte address
    let rest ← readBytes (address + 1) count
    pure (b :: rest)

/-- Reads two bytes: in one piece at an even address, byte by byte at an odd one. -/
def readHalf (address : UInt32) : Reading β UInt32 :=
  if address.toNat % 2 = 0 then
    UInt16.toUInt32 <$> (GuestMemory.readHalf address).adaptExcept (Fault.readFailure address 2)
  else (fun bytes => UInt32.ofNat (ofLittleEndian bytes)) <$> readBytes address 2

/-- Reads four bytes: in one piece at a multiple of four, byte by byte elsewhere. -/
def readWord (address : UInt32) : Reading β UInt32 :=
  if address.toNat % 4 = 0 then
    (GuestMemory.readWord address).adaptExcept (Fault.readFailure address 4)
  else (fun bytes => UInt32.ofNat (ofLittleEndian bytes)) <$> readBytes address 4

/-- Reads eight bytes as two words, the lower one first. -/
def readWords (address : UInt32) : Reading β UInt64 := do
  let low ← readWord address
  let high ← readWord (address + 4)
  pure (Double.ofWords low high)

/-- Whether a width is read as it is. -/
def isWidth (size : UInt32) : Bool := size == 1 || size == 2 || size == 4 || size == 8

/-- Faults unless the range lies inside one window. -/
def requireRange (address size : UInt32) : Reading β Unit := fun memory =>
  match checkRange address size with
  | .ok _ => .ok () memory
  | .error fault => .error fault memory

/-- Reads a range of which the low four bytes are wanted. -/
def readRange (address size : UInt32) : Reading β UInt32 := do
  requireRange address size
  if size = 1 then UInt8.toUInt32 <$> readByte address
  else if size = 2 then readHalf address
  else if size = 4 then readWord address
  else if size = 8 then Double.low <$> readWords address
  else do
    requireRange address 4
    readWord address

/-- Reads all eight bytes of a double word. -/
def readDouble (address : UInt32) : Reading β UInt64 := do
  requireRange address 8
  readWords address

/-- What a read of a range notes: that its width is unusual, when the range is a legal one. -/
def readNotes (address size : UInt32) : List Note :=
  match checkRange address size with
  | .ok _ => if isWidth size then [] else [.unusualWidth size address]
  | .error _ => []

/-- Makes a read through a probe. -/
def run {α : Type} (probe : Probe β) (reading : Reading β α) : Except Fault α × Probe β :=
  match reading probe.memory with
  | .ok a memory => (.ok a, { probe with memory })
  | .error fault memory => (.error fault, { probe with memory })

/-- Reads a range through a probe. -/
def attempt (probe : Probe β) (address size : UInt32) : Outcome (Probe β) (Except Fault UInt32) :=
  let ran := probe.run (readRange address size)
  ⟨ran.1, ran.2, { notes := readNotes address size }⟩

/-- Counts a fault. -/
def record (probe : Probe β) (fault : Fault) : Probe β :=
  { probe with tally := probe.tally.record fault }

/-- Reads a range through a probe; a fault is noted and counted, and answers zero. -/
def read (probe : Probe β) (address size : UInt32) : Outcome (Probe β) UInt32 :=
  let tried := probe.attempt address size
  match tried.value with
  | .ok value => ⟨value, tried.state, tried.journal⟩
  | .error fault =>
    ⟨0, tried.state.record fault, tried.journal ++ Journal.note (.readFailed address size fault)⟩

end Probe

end GuestWatch
