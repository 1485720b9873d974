import GuestWatch.Proofs.Address
import GuestWatch.Proofs.Memory.Reads

set_option relaxedAutoImplicit false
set_option autoImplicit false

/-!
# What a store changes and a read shows

A store of the guest changes bytes from its address on, no further than the bytes it stores, and
only inside the windows. It makes no read fail and lets none succeed that failed. A read of four
bytes or fewer shows every change of one of them.

## Main definitions

* `GuestWatch.MemoryOp.stored?` — the address and the bytes of a store of the guest.
* `GuestWatch.Covers` — the addresses of bytes from one on.
* `GuestWatch.Ram.Stored` — what bytes that were put into memory change.

## Main results

* `GuestWatch.Ram.byteAt_of_wordFrom` — a word of bytes shows each of them.
* `GuestWatch.Ram.stored_of_cells` — what is stored in the cells, address by address.
* `GuestWatch.Ram.within_of_changed` — a byte that a store changes lies among those it stores.
* `GuestWatch.Ram.look_of_stored` — what a read answers after a store.
* `GuestWatch.Ram.look_of_missed` — a store elsewhere makes no difference to what a read answers.
-/

namespace GuestWatch

/-- The address and the bytes of a store of the guest. -/
def MemoryOp.stored? : MemoryOp → Option (UInt32 × List UInt8)
  | .storeByte address value => some (address, [value])
  | .storeWord address value => some (address, Word.bytes value)
  | _ => none

/-- An address is among those of bytes from another one on. Past the last address there are none. -/
def Covers (start : UInt32) (bytes : List UInt8) (place : UInt32) : Prop :=
  start.toNat ≤ place.toNat ∧ place.toNat < start.toNat + bytes.length

instance (start : UInt32) (bytes : List UInt8) (place : UInt32) :
    Decidable (Covers start bytes place) :=
  inferInstanceAs (Decidable (_ ∧ _))

namespace Ram

/-! ## Words of bytes -/

/-- Four bytes or fewer make a number that fits in a word. -/
lemma toNat_wordFrom (ram : Ram) (address : UInt32) {count : Nat} (hcount : count ≤ 4) :
    (ram.wordFrom address count).toNat = ofLittleEndian (ram.bytesFrom address count) := by
  have hlt := ofLittleEndian_lt (ram.bytesFrom address count)
  rw [length_bytesFrom] at hlt
  have hpow : 256 ^ count ≤ 256 ^ 4 := Nat.pow_le_pow_right (by decide) hcount
  rw [wordFrom, UInt32.toNat_ofNat', Nat.mod_eq_of_lt (by omega)]

/-- **A word of four bytes or fewer shows each of them**: where the words are the same, so are the
bytes. -/
theorem byteAt_of_wordFrom {a b : Ram} {address : UInt32} {count : Nat} (hcount : count ≤ 4)
    (h : a.wordFrom address count = b.wordFrom address count) {i : Nat} (hi : i < count) :
    a.byteAt (address + UInt32.ofNat i) = b.byteAt (address + UInt32.ofNat i) := by
  have hnumber : ofLittleEndian (a.bytesFrom address count) =
      ofLittleEndian (b.bytesFrom address count) := by
    rw [← toNat_wordFrom a address hcount, ← toNat_wordFrom b address hcount, h]
  have hbytes : a.bytesFrom address count = b.bytesFrom address count :=
    eq_of_ofLittleEndian (by rw [length_bytesFrom, length_bytesFrom]) hnumber
  have hindex : (a.bytesFrom address count)[i]? = (b.bytesFrom address count)[i]? := by rw [hbytes]
  rwa [bytesFrom_getElem? _ _ hi, bytesFrom_getElem? _ _ hi, Option.some.injEq] at hindex

/-- Where the bytes are the same, so is the word of them. -/
lemma wordFrom_congr {a b : Ram} {address : UInt32} {count : Nat}
    (h : ∀ i < count, a.byteAt (address + UInt32.ofNat i) = b.byteAt (address + UInt32.ofNat i)) :
    a.wordFrom address count = b.wordFrom address count := by
  have hbytes : a.bytesFrom address count = b.bytesFrom address count :=
    List.map_congr_left fun i hi => h i (List.mem_range.mp hi)
  rw [wordFrom, wordFrom, hbytes]

/-! ## Stores -/

variable {ram before after : Ram} {op : MemoryOp} {address start place : UInt32}
  {bytes : List UInt8}

/-- What bytes that were put into memory from an address on change. -/
structure Stored (before : Ram) (start : UInt32) (bytes : List UInt8) (after : Ram) : Prop where
  /-- Inside the windows each of them is at its address. -/
  hit : ∀ place, (Window.of? place).isSome = true → Covers start bytes place →
    bytes[place.toNat - start.toNat]? = some (after.byteAt place)
  /-- All other addresses hold what they held. -/
  missed : ∀ place, ¬Covers start bytes place → after.byteAt place = before.byteAt place
  /-- Outside the windows they are dropped. -/
  dropped : ∀ place, Window.of? place = none → after.byteAt place = before.byteAt place
  /-- Reads fail where they failed. -/
  failing : after.failing = before.failing

/-- Bytes that are stored change no byte outside the windows. -/
lemma byteAt_storeCells_of_unowned (n : Nat) (bytes : List UInt8) (cells : Cells)
    (hunowned : Window.of? place = none) :
    (cells.store n bytes).byteAt place = cells.byteAt place := by
  induction bytes generalizing n cells with
  | nil => rfl
  | cons b rest ih =>
    unfold Cells.store
    split
    · rename_i address hmapped
      -- only mapped addresses are stored to, and this one is not
      have hother : address ≠ place := by
        rintro rfl
        have hnowhere := mapped?_toNat address
        rw [toNat_of_mapped? hmapped, hmapped, hunowned] at hnowhere
        cases hnowhere
      rw [ih, Cells.byteAt_insert, if_neg hother]
    · exact ih (n + 1) cells

/-- Bytes that are stored in the cells are stored. -/
lemma stored_of_cells (hcells : after.cells = before.cells.store start.toNat bytes)
    (hfailing : after.failing = before.failing) : before.Stored start bytes after := by
  have hdropped : ∀ place, Window.of? place = none →
      after.byteAt place = before.byteAt place := by
    intro place hunowned
    rw [byteAt, hcells]
    exact byteAt_storeCells_of_unowned _ _ _ hunowned
  refine ⟨?_, ?_, hdropped, hfailing⟩
  · rintro place howned ⟨hlow, hhigh⟩
    have hindex : place.toNat - start.toNat < bytes.length := by omega
    rw [byteAt, hcells, byteAt_storeCells _ _ _ _ howned, if_pos hlow,
      List.getElem?_eq_getElem hindex]
    rfl
  · intro place hmissed
    cases howner : Window.of? place with
    | none => exact hdropped place howner
    | some w =>
      have howned : (Window.of? place).isSome = true := by
        rw [howner]
        rfl
      rw [byteAt, hcells, byteAt_storeCells _ _ _ _ howned]
      by_cases hlow : start.toNat ≤ place.toNat
      · have hhigh : bytes.length ≤ place.toNat - start.toNat := by
          unfold Covers at hmissed
          omega
        rw [if_pos hlow, List.getElem?_eq_none hhigh]
        rfl
      · rw [if_neg hlow]
        rfl

/-- A store of the guest stores its bytes and lets reads fail where they failed. -/
lemma step_of_stored (h : op.stored? = some (address, bytes)) :
    (ram.step op).ram.cells = ram.cells.store address.toNat bytes ∧
      (ram.step op).ram.failing = ram.failing := by
  cases op with
  | storeByte place value =>
    cases h
    exact ⟨rfl, rfl⟩
  | storeWord place value =>
    cases h
    exact ⟨rfl, rfl⟩
  | _ => cases h

/-- **A byte that a store changes** lies among the bytes that are stored. -/
theorem within_of_changed (h : op.stored? = some (address, bytes))
    (hchanged : (ram.step op).ram.byteAt place ≠ ram.byteAt place) :
    address.toNat ≤ place.toNat ∧ place.toNat < address.toNat + bytes.length := by
  obtain ⟨hcells, hfailing⟩ := step_of_stored h
  by_contra hmissed
  exact hchanged ((stored_of_cells hcells hfailing).missed place hmissed)

/-- **A read that succeeded before a store of the guest** succeeds after it, and answers the new
bytes. -/
theorem look_of_stored (h : op.stored? = some (address, bytes)) {place size value : UInt32}
    {w : Window} (hwidth : Probe.isWidth size = true) (hrange : checkRange place size = .ok w)
    (hlook : ram.look place size = .ok value) :
    value = ram.wordFrom place (min 4 size.toNat) ∧
      (ram.step op).ram.look place size =
        .ok ((ram.step op).ram.wordFrom place (min 4 size.toNat)) := by
  obtain ⟨hreadable, hvalue⟩ := (look_eq_ok_iff hwidth hrange).mp hlook
  have hstill : (ram.step op).ram.ReadableFrom place size.toNat := by
    intro i hi
    obtain ⟨hserved, howned⟩ := hreadable i hi
    refine ⟨?_, howned⟩
    rw [(step_of_stored h).2]
    exact hserved
  exact ⟨hvalue, (look_eq_ok_iff hwidth hrange).mpr ⟨hstill, rfl⟩⟩

/-- **A store elsewhere makes no difference to what a read answers**, when no byte of the range that
is read is among those that are stored. -/
theorem look_of_missed (h : op.stored? = some (address, bytes)) {place size value : UInt32}
    (hwidth : Probe.isWidth size = true) (hlegal : Legal place size)
    (hmissed : place.toNat + size.toNat ≤ address.toNat ∨
      address.toNat + bytes.length ≤ place.toNat)
    (hlook : ram.look place size = .ok value) : (ram.step op).ram.look place size = .ok value := by
  obtain ⟨w, hrange⟩ := legal_iff.mp hlegal
  obtain ⟨hvalue, hafter⟩ := look_of_stored h hwidth hrange hlook
  have hsame : (ram.step op).ram.wordFrom place (min 4 size.toNat) =
      ram.wordFrom place (min 4 size.toNat) := by
    refine wordFrom_congr fun i hi => ?_
    have hi' : i < size.toNat := Nat.lt_of_lt_of_le hi (Nat.min_le_right _ _)
    by_contra hchanged
    have hwithin := within_of_changed h hchanged
    rw [hlegal.toNat_offset hi'] at hwithin
    omega
  rw [hafter, hsame, hvalue]

end Ram

end GuestWatch
