import GuestWatch.Proofs.Memory.Composed
import GuestWatch.Proofs.Memory.Slots

set_option relaxedAutoImplicit false
set_option autoImplicit false

/-!
# Memory as an array of bytes

The reference memory is two arrays of bytes, one for each window. Bytes that are put into it, from
whatever address on and however many, are found where they were put: each address of the windows
holds the last byte put there. What falls outside the windows is dropped, and what reaches past the
last address does not come in again at the first. A read of several bytes is their little-endian
number, whatever its alignment.

## Main definitions

* `GuestWatch.MemoryOp.placed?` — the address and the bytes that an operation puts into memory.
* `GuestWatch.Ram.bank` — the bytes of a window.
* `GuestWatch.Ram.Shows` — what raw reads answer after a word was put into memory.
* `GuestWatch.Ram.carry`, `GuestWatch.Ram.LastWins` — operations one after the other, and what they
  leave at each address.

## Main results

* `GuestWatch.Ram.stored_step` — an operation that puts bytes into memory stores them.
* `GuestWatch.Ram.Stored.rawRead_part` — a raw read of some of the bytes that were stored.
* `GuestWatch.Ram.Stored.answer_rawRead` — a raw read of none of them.
* `GuestWatch.Ram.lastWins_carry` — the last byte that is put somewhere stays.
* `GuestWatch.Ram.bytes_faithful` — memory is a faithful array of bytes.
-/

namespace GuestWatch

namespace MemoryOp

/-- The address and the bytes that an operation puts into memory. -/
def placed? : MemoryOp → Option (UInt32 × List UInt8)
  | .poke address bytes => some (address, bytes)
  | .setWord address value => some (address, Word.bytes value)
  | op => op.stored?

/-- An operation puts a byte into memory at an address. -/
def Places (op : MemoryOp) (place : UInt32) : Prop :=
  ∃ start bytes, op.placed? = some (start, bytes) ∧ Covers start bytes place

/-- Whether an operation puts a byte at an address can be decided. -/
instance (op : MemoryOp) (place : UInt32) : Decidable (op.Places place) :=
  decidable_of_iff (∃ run ∈ op.placed?, Covers run.1 run.2 place)
    ⟨fun ⟨run, hplaced, hcovers⟩ => ⟨run.1, run.2, hplaced, hcovers⟩,
      fun ⟨start, bytes, hplaced, hcovers⟩ => ⟨(start, bytes), hplaced, hcovers⟩⟩

end MemoryOp

namespace Ram

variable {ram before after : Ram} {start place : UInt32} {bytes : List UInt8} {op : MemoryOp}

/-! ## Putting bytes into memory -/

/-- **An operation that puts bytes into memory stores them**, with and without an intercept. -/
theorem stored_step (ram : Ram) (h : op.placed? = some (start, bytes)) :
    ram.Stored start bytes (ram.step op).ram := by
  cases op with
  | poke | setWord | storeByte | storeWord =>
    cases h
    exact stored_of_cells rfl rfl
  | _ => cases h

/-- Any other operation leaves the bytes as they are. -/
lemma cells_step_of_placed?_none (ram : Ram) (h : op.placed? = none) :
    (ram.step op).ram.cells = ram.cells := by
  have hread : ∀ address count, (ram.readReply address count).ram.cells = ram.cells := by
    intro address count
    rw [(ram.readReply_counts address count).1]
    rfl
  cases op with
  | poke | setWord | storeByte | storeWord => cases h
  | loadWord address =>
    rcases rawRead_cases address 4 ram with ⟨bytes, -, hraw⟩ | ⟨e, -, hraw⟩ <;>
      simp only [step, loadWord, hraw, countRead]
  | failAt address =>
    simp only [step, failAt]
    split <;> rfl
  | readByte address => exact hread address 1
  | readHalf address => exact hread address 2
  | readWord address => exact hread address 4
  | installHook kind => cases kind <;> rfl
  | _ => rfl

/-! ## Two arrays -/

/-- The bytes of a window, in their order. -/
def bank (ram : Ram) (w : Window) : List UInt8 := ram.bytesFrom w.start w.size.toNat

/-- **An address of a window is a position in its array**, counted from the start of the window
without wrapping, and the byte at the address is the one in this position. -/
theorem bank_getElem? (ram : Ram) {w : Window} (h : Window.of? place = some w) :
    w.start ≤ place ∧ (ram.bank w)[(place - w.start).toNat]? = some (ram.byteAt place) := by
  obtain ⟨hlow, hhigh⟩ := Window.contains_iff.mp (Window.of?_eq_some_iff.mp h)
  have hle : w.start ≤ place := UInt32.le_iff_toNat_le.mpr hlow
  have hindex : (place - w.start).toNat = place.toNat - w.start.toNat :=
    UInt32.toNat_sub_of_le _ _ hle
  have hinside : (place - w.start).toNat < w.size.toNat := by
    unfold Window.stop at hhigh
    omega
  have hplace : w.start + UInt32.ofNat (place - w.start).toNat = place := by
    rw [UInt32.ofNat_toNat, UInt32.add_comm, UInt32.sub_add_cancel]
  refine ⟨hle, ?_⟩
  rw [bank, bytesFrom_getElem? _ _ hinside, hplace]

/-! ## Raw reads -/

/-- A byte is fetched as before where none was put into memory. -/
lemma Stored.fetch_eq (h : before.Stored start bytes after) (hmissed : ¬Covers start bytes place) :
    after.fetch place = before.fetch place := by
  simp only [fetch, h.failing, h.missed place hmissed]

/-- A run of bytes is fetched alike where each of them is. -/
lemma fetchRun_of_fetch {a b : Ram} {address : UInt32} {count : Nat}
    (h : ∀ i < count, a.fetch (address + UInt32.ofNat i) = b.fetch (address + UInt32.ofNat i)) :
    a.fetchRun address count = b.fetchRun address count := by
  induction count generalizing address with
  | zero => rfl
  | succ count ih =>
    have hhere : address + UInt32.ofNat 0 = address := UInt32.add_zero address
    have hfirst := h 0 (Nat.succ_pos count)
    rw [hhere] at hfirst
    have hrest : a.fetchRun (address + 1) count = b.fetchRun (address + 1) count := by
      refine ih fun i hi => ?_
      rw [← add_ofNat_succ]
      exact h (i + 1) (by omega)
    simp only [fetchRun, hfirst, hrest]

/-- **A raw read of bytes none of which was put into memory** answers as before. -/
theorem Stored.answer_rawRead (h : before.Stored start bytes after) {count : Nat}
    (hmissed : ∀ i < count, ¬Covers start bytes (place + UInt32.ofNat i)) :
    answer (rawRead place count after) = answer (rawRead place count before) := by
  have hrun := fetchRun_of_fetch fun i hi => h.fetch_eq (hmissed i hi)
  simp only [rawRead, hrun]
  cases before.fetchRun place count <;> rfl

/-- The bytes of a legal range are those that were put there. -/
lemma Stored.bytesFrom_eq {size : UInt32} (h : before.Stored start bytes after)
    (hlegal : Legal start size) (hlength : bytes.length = size.toNat) :
    after.bytesFrom start size.toNat = bytes := by
  refine List.ext_getElem? fun i => ?_
  by_cases hi : i < size.toNat
  · have hplace := hlegal.toNat_offset hi
    have hcovers : Covers start bytes (start + UInt32.ofNat i) := by
      unfold Covers
      omega
    have hhit := h.hit _ (hlegal.owned hi) hcovers
    rw [hplace, Nat.add_sub_cancel_left] at hhit
    rw [bytesFrom_getElem? _ _ hi, hhit]
  · have hpast : (after.bytesFrom start size.toNat).length ≤ i := by
      rw [length_bytesFrom]
      omega
    rw [List.getElem?_eq_none hpast, List.getElem?_eq_none (by omega)]

/-- **A raw read of some of the bytes that were put at a legal range** answers their part of the
number, at any alignment. -/
theorem Stored.rawRead_part {size : UInt32} (h : before.Stored start bytes after)
    (hlegal : Legal start size) (hlength : bytes.length = size.toNat)
    (hserved : ∀ i < size.toNat, start + UInt32.ofNat i ∉ before.failing) {i count : Nat}
    (hpart : i + count ≤ size.toNat) :
    rawRead (start + UInt32.ofNat i) count after =
      .ok (ofLittleEndian bytes / 256 ^ i % 256 ^ count) after.countRead := by
  obtain ⟨rest, hrest⟩ := Nat.exists_eq_add_of_le hpart
  have hreadable : after.ReadableFrom start (i + count + rest) := by
    rw [← hrest]
    intro k hk
    refine ⟨?_, hlegal.owned hk⟩
    rw [h.failing]
    exact hserved k hk
  have hpartial : after.ReadableFrom (start + UInt32.ofNat i) count :=
    (readableFrom_add.mp (readableFrom_add.mp hreadable).1).2
  -- what is read is the middle one of three parts of what was stored
  have hsplit : bytes = after.bytesFrom start i ++
      (after.bytesFrom (start + UInt32.ofNat i) count ++
        after.bytesFrom (start + UInt32.ofNat i + UInt32.ofNat count) rest) := by
    rw [← bytesFrom_add, ← bytesFrom_add, ← Nat.add_assoc, ← hrest, h.bytesFrom_eq hlegal hlength]
  have hbytes : after.bytesFrom (start + UInt32.ofNat i) count = (bytes.drop i).take count := by
    rw [hsplit, List.drop_left' (length_bytesFrom ..), List.take_left' (length_bytesFrom ..)]
  have hrun := fetchRun_eq_ok_iff.mpr ⟨hpartial, rfl⟩
  simp only [rawRead, hrun, hbytes, ofLittleEndian_take, ofLittleEndian_drop]

/-- What raw reads answer after a word was put into memory at an address. -/
structure Shows (before : Ram) (address value : UInt32) (after : Ram) : Prop where
  /-- The word is read there. -/
  word : GuestMemory.readWord address after = .ok value after.countRead
  /-- Its halves are read in it. -/
  half : ∀ i < 3, GuestMemory.readHalf (address + UInt32.ofNat i) after =
    .ok (UInt16.ofNat (value.toNat / 256 ^ i)) after.countRead
  /-- Its bytes are read in it. -/
  byte : ∀ i < 4, GuestMemory.readByte (address + UInt32.ofNat i) after =
    .ok (UInt8.ofNat (value.toNat / 256 ^ i)) after.countRead
  /-- Reads of other bytes, however many, answer as before. -/
  others : ∀ place count,
    (∀ i < count, ¬Covers address (Word.bytes value) (place + UInt32.ofNat i)) →
    answer (rawRead place count after) = answer (rawRead place count before)

/-- **A word that was put into memory is read there**, and so are its parts. -/
theorem Stored.shows {address value : UInt32} (h : before.Stored address (Word.bytes value) after)
    (hlegal : Legal address 4) (hserved : ∀ i < 4, address + UInt32.ofNat i ∉ before.failing) :
    before.Shows address value after := by
  have hpart : ∀ {i count : Nat}, i + count ≤ 4 → rawRead (address + UInt32.ofNat i) count after =
      .ok (value.toNat / 256 ^ i % 256 ^ count) after.countRead := by
    intro i count hfits
    rw [h.rawRead_part hlegal (Word.length_bytes value) hserved hfits, Word.ofLittleEndian_bytes]
  constructor
  · have hhere : address + UInt32.ofNat 0 = address := UInt32.add_zero address
    have hword := hpart (Nat.le_refl (0 + 4))
    have hfits : value.toNat % 256 ^ 4 = value.toNat := Nat.mod_eq_of_lt value.toNat_lt
    rw [hhere, Nat.pow_zero, Nat.div_one, hfits] at hword
    simp only [GuestMemory.readWord, Functor.map, EStateM.map, hword, UInt32.ofNat_toNat]
  · intro i hi
    simp only [GuestMemory.readHalf, Functor.map, EStateM.map, hpart (show i + 2 ≤ 4 by omega)]
    rw [show 256 ^ 2 = UInt16.size from rfl, UInt16.ofNat_mod_size]
  · intro i hi
    simp only [GuestMemory.readByte, Functor.map, EStateM.map, hpart (show i + 1 ≤ 4 by omega)]
    rw [show 256 ^ 1 = UInt8.size from rfl, UInt8.ofNat_mod_size]
  · exact fun place count hmissed => h.answer_rawRead hmissed

/-- A byte that can be fetched is read. -/
lemma readByte_of_readable (h : ram.Readable place) :
    GuestMemory.readByte place ram = .ok (ram.byteAt place) ram.countRead := by
  have hfetch : ram.fetch place = .ok (ram.byteAt place) := fetch_eq_ok_iff.mpr ⟨h, rfl⟩
  simp [GuestMemory.readByte, Functor.map, EStateM.map, rawRead, fetchRun, hfetch, ofLittleEndian]

/-! ## Operations one after the other -/

variable {ops : List MemoryOp}

/-- The memory after operations, one after the other. -/
def carry : List MemoryOp → Ram → Ram
  | [], ram => ram
  | op :: rest, ram => carry rest (ram.step op).ram

lemma carry_append (ops more : List MemoryOp) (ram : Ram) :
    carry (ops ++ more) ram = carry more (carry ops ram) := by
  induction ops generalizing ram with
  | nil => rfl
  | cons op rest ih => exact ih _

/-- An operation leaves the bytes where it puts none. -/
lemma byteAt_step (ram : Ram) (h : ¬op.Places place) :
    (ram.step op).ram.byteAt place = ram.byteAt place := by
  cases hplaced : op.placed? with
  | none => rw [byteAt, cells_step_of_placed?_none ram hplaced, byteAt]
  | some run =>
    exact (ram.stored_step hplaced).missed place fun hcovers => h ⟨_, _, hplaced, hcovers⟩

/-- Operations leave the bytes where none of them puts any. -/
lemma byteAt_carry (ram : Ram) (h : ∀ op ∈ ops, ¬op.Places place) :
    (carry ops ram).byteAt place = ram.byteAt place := by
  induction ops generalizing ram with
  | nil => rfl
  | cons op rest ih =>
    obtain ⟨hfirst, hrest⟩ := List.forall_mem_cons.mp h
    rw [carry, ih _ hrest, byteAt_step ram hfirst]

/-- Putting bytes into memory lets reads fail where they failed. -/
lemma failing_carry (ram : Ram) (h : ∀ op ∈ ops, op.placed?.isSome = true) :
    (carry ops ram).failing = ram.failing := by
  induction ops generalizing ram with
  | nil => rfl
  | cons op rest ih =>
    obtain ⟨hfirst, hrest⟩ := List.forall_mem_cons.mp h
    obtain ⟨run, hplaced⟩ := Option.isSome_iff_exists.mp hfirst
    rw [carry, ih _ hrest, (ram.stored_step hplaced).failing]

/-- What operations leave in a memory at each address. -/
structure LastWins (before : Ram) (ops : List MemoryOp) (after : Ram) : Prop where
  /-- Where bytes are put, those of the last operation that puts one there. -/
  last : ∀ earlier op later start bytes place, ops = earlier ++ op :: later →
    op.placed? = some (start, bytes) → Covers start bytes place →
    (∀ other ∈ later, ¬other.Places place) → (Window.of? place).isSome = true →
    bytes[place.toNat - start.toNat]? = some (after.byteAt place)
  /-- Elsewhere the byte from before. -/
  untouched : ∀ place, (∀ op ∈ ops, ¬op.Places place) → after.byteAt place = before.byteAt place
  /-- If they do nothing but put bytes into memory, then reads fail where they failed. -/
  failing : (∀ op ∈ ops, op.placed?.isSome = true) → after.failing = before.failing
  /-- What can be read is the byte that was left. -/
  read : ∀ place, after.Readable place →
    GuestMemory.readByte place after = .ok (after.byteAt place) after.countRead

/-- **The last byte that is put somewhere stays**, whatever else is done to the memory. -/
theorem lastWins_carry (ops : List MemoryOp) (ram : Ram) : ram.LastWins ops (carry ops ram) := by
  refine ⟨?_, fun place => byteAt_carry ram, failing_carry ram, fun place => readByte_of_readable⟩
  rintro earlier op later start bytes place rfl hplaced hcovers hlater howned
  rw [carry_append, carry, byteAt_carry _ hlater]
  exact (stored_step _ hplaced).hit place howned hcovers

/-! ## The memory as a whole -/

/-- **Memory is a faithful array of bytes.** In any memory,

* bytes that are put into it are found at their addresses, all others stay, and what falls outside
  the windows is dropped; nothing comes in again at the first address;
* an address of a window is a position inside the array of the window;
* a word that the host or the guest puts at any address of a window is read there, with its halves
  and bytes in little-endian order, if none of the four addresses fails, and reads of other bytes are
  not affected;
* after any operations, each address holds the last byte that was put there.

**Proof sketch.** What a store leaves is told address by address, by induction on its bytes. Reads
are then the numbers of the bytes they touch, and the last item is an induction on the operations. -/
theorem bytes_faithful (ram : Ram) :
    (∀ start bytes, ram.Stored start bytes (ram.poke start bytes)) ∧
    (∀ w place, Window.of? place = some w →
      w.start ≤ place ∧ (ram.bank w)[(place - w.start).toNat]? = some (ram.byteAt place)) ∧
    (∀ address value, Legal address 4 → (∀ i < 4, address + UInt32.ofNat i ∉ ram.failing) →
      ram.Shows address value (ram.setWord address value) ∧
      ram.Shows address value (ram.storeWord address value).ram) ∧
    ∀ ops, ram.LastWins ops (carry ops ram) := by
  refine ⟨fun start bytes => ?_, fun w place => ram.bank_getElem?, ?_,
    fun ops => lastWins_carry ops ram⟩
  · have hplaced : (MemoryOp.poke start bytes).placed? = some (start, bytes) := rfl
    exact ram.stored_step hplaced
  · intro address value hlegal hserved
    have hset : (MemoryOp.setWord address value).placed? = some (address, Word.bytes value) := rfl
    have hstore : (MemoryOp.storeWord address value).placed? =
        some (address, Word.bytes value) := rfl
    exact ⟨(ram.stored_step hset).shows hlegal hserved,
      (ram.stored_step hstore).shows hlegal hserved⟩

/-- Stores that overlap. -/
def overlapping : List MemoryOp :=
  [.poke 0x10 [1, 2, 3], .storeByte 0x11 9, .readWord 0x10, .setWord 0x12 0x07060504]

/-- A memory with one word at an odd address of the scratchpad. -/
def inscribed : Ram := (({} : Ram).storeWord 0x70000001 0x44332211).ram

/-- The end of main memory cuts off what reaches past it, and the last address does not lead back to
the first. A word at an odd address is read there, and its middle half between. Of
stores that overlap the last one stays. -/
theorem bytes_faithful_astride :
    (({} : Ram).poke 0x01FFFFFF [1, 2]).byteAt 0x01FFFFFF = 1 ∧
    (({} : Ram).poke 0x01FFFFFF [1, 2]).byteAt 0x02000000 = 0 ∧
    (({} : Ram).poke 0xFFFFFFFF [1, 2]).byteAt 0 = 0 ∧
    GuestMemory.readWord 0x70000001 inscribed = .ok 0x44332211 inscribed.countRead ∧
    GuestMemory.readHalf 0x70000002 inscribed = .ok 0x3322 inscribed.countRead ∧
    (carry overlapping {}).byteAt 0x10 = 1 ∧ (carry overlapping {}).byteAt 0x11 = 9 ∧
    (carry overlapping {}).byteAt 0x12 = 4 := by
  obtain ⟨hstored, -, hwords, hcarried⟩ := bytes_faithful {}
  have hcut := hstored 0x01FFFFFF [1, 2]
  have hend := hstored 0xFFFFFFFF [1, 2]
  obtain ⟨-, hshows⟩ := hwords 0x70000001 0x44332211 (by decide) (by decide)
  have hlast := (hcarried overlapping).last
  have hbyte := hcut.hit 0x01FFFFFF (by decide) (by decide)
  have hpoked := hlast [] (.poke 0x10 [1, 2, 3]) _ 0x10 [1, 2, 3] 0x10 rfl rfl (by decide)
    (by decide) (by decide)
  have hguest := hlast [.poke 0x10 [1, 2, 3]] (.storeByte 0x11 9) _ 0x11 [9] 0x11 rfl rfl
    (by decide) (by decide) (by decide)
  have hset := hlast [.poke 0x10 [1, 2, 3], .storeByte 0x11 9, .readWord 0x10]
    (.setWord 0x12 0x07060504) [] 0x12 (Word.bytes 0x07060504) 0x12 rfl rfl (by decide)
    (by decide) (by decide)
  exact ⟨Option.some.inj (hbyte.symm.trans (by decide)), hcut.dropped _ (by decide),
    hend.missed _ (by decide), hshows.word, hshows.half 1 (by decide),
    Option.some.inj (hpoked.symm.trans (by decide)),
    Option.some.inj (hguest.symm.trans (by decide)), Option.some.inj (hset.symm.trans (by decide))⟩

end Ram

end GuestWatch
