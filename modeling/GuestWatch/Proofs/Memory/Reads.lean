import GuestWatch.Proofs.Memory.Look
import GuestWatch.Proofs.Word
import Mathlib.Tactic.Push

set_option relaxedAutoImplicit false
set_option autoImplicit false

/-!
# What a checked read answers

A checked read of one, two, four or eight bytes answers exactly when each byte of its range can be
fetched, in one piece or byte by byte. It then answers the little-endian number of the bytes, of
which a double word keeps the low four. Otherwise a read failed, and that is the fault. Whatever
comes of it, all that a read leaves behind is a higher count of raw reads.

## Main definitions

* `GuestWatch.Ram.Recounted` — a memory that differs in the count of raw reads at most.
* `GuestWatch.Ram.Readable`, `GuestWatch.Ram.bytesFrom` — an address whose byte can be fetched, and
  the bytes from an address on.
* `GuestWatch.Ram.Reads` — a read that answers what it should, faults as a read, and only counts.

## Main results

* `GuestWatch.Probe.attempt_recounted` — an attempt through a probe only counts.
* `GuestWatch.Ram.look_eq_ok_iff` — what a checked read answers.
* `GuestWatch.Ram.kind_of_look` — the fault of a checked read inside a window is a failed read.
-/

namespace GuestWatch

variable {α γ : Type}

/-- The low word of a double word is the one it was made of. -/
lemma Double.low_ofWords (low high : UInt32) : Double.low (Double.ofWords low high) = low := by
  have hlow : low.toNat < UInt32.size := low.toNat_lt
  have hhigh : high.toNat < UInt32.size := high.toNat_lt
  apply UInt32.toNat_inj.mp
  simp only [Double.low, Double.ofWords, UInt32.toNat_ofNat', UInt64.toNat_ofNat', UInt32.size] at *
  omega

namespace Ram

/-! ## Counting -/

/-- A memory that differs from another one in the count of raw reads at most. -/
def Recounted (a b : Ram) : Prop := ∃ count, a = { b with rawReads := count }

lemma Recounted.refl (a : Ram) : a.Recounted a := ⟨a.rawReads, rfl⟩

lemma Recounted.trans {a b c : Ram} (h : a.Recounted b) (h' : b.Recounted c) : a.Recounted c := by
  obtain ⟨count, rfl⟩ := h
  obtain ⟨-, rfl⟩ := h'
  exact ⟨count, rfl⟩

/-- Reads do not see the count of raw reads. -/
lemma Recounted.alike {a b : Ram} (h : a.Recounted b) : a.Alike b := by
  obtain ⟨count, rfl⟩ := h
  exact ⟨rfl, rfl⟩

/-! ## Bytes -/

/-- The byte at an address can be fetched: a window owns the address, and it does not fail. -/
def Readable (ram : Ram) (address : UInt32) : Prop :=
  address ∉ ram.failing ∧ (Window.of? address).isSome = true

/-- The bytes at `count` addresses from one on, whether or not they can be fetched. -/
def bytesFrom (ram : Ram) (address : UInt32) (count : Nat) : List UInt8 :=
  (List.range count).map fun i => ram.byteAt (address + UInt32.ofNat i)

@[simp] lemma length_bytesFrom (ram : Ram) (address : UInt32) (count : Nat) :
    (ram.bytesFrom address count).length = count := by
  simp [bytesFrom]

/-- One of the bytes from an address on. -/
lemma bytesFrom_getElem? (ram : Ram) (address : UInt32) {i count : Nat} (hi : i < count) :
    (ram.bytesFrom address count)[i]? = some (ram.byteAt (address + UInt32.ofNat i)) := by
  simp only [bytesFrom, List.getElem?_map, List.getElem?_range hi, Option.map_some]

/-- The byte at an address is fetched exactly when it can be. -/
lemma fetch_eq_ok_iff {ram : Ram} {address : UInt32} {b : UInt8} :
    ram.fetch address = .ok b ↔ ram.Readable address ∧ b = ram.byteAt address := by
  by_cases hfails : address ∈ ram.failing <;>
    by_cases howned : (Window.of? address).isSome = true <;>
      simp [fetch, Readable, hfails, howned, eq_comm]

/-- Going on by one address more is going on from the next address. -/
lemma next_offset (address i : UInt32) : address + (i + 1) = address + 1 + i := by
  rw [UInt32.add_comm i, UInt32.add_assoc]

lemma add_ofNat_succ (address : UInt32) (i : Nat) :
    address + UInt32.ofNat (i + 1) = address + 1 + UInt32.ofNat i := by
  rw [UInt32.ofNat_add]
  exact next_offset address (UInt32.ofNat i)

/-- Each of `count` bytes from an address on can be fetched. -/
def ReadableFrom (ram : Ram) (address : UInt32) (count : Nat) : Prop :=
  ∀ i < count, ram.Readable (address + UInt32.ofNat i)

lemma bytesFrom_succ (ram : Ram) (address : UInt32) (count : Nat) :
    ram.bytesFrom address (count + 1) =
      ram.byteAt address :: ram.bytesFrom (address + 1) count := by
  simp [bytesFrom, List.range_succ_eq_map, next_offset, Function.comp_def]

lemma readableFrom_succ {ram : Ram} {address : UInt32} {count : Nat} :
    ram.ReadableFrom address (count + 1) ↔
      ram.Readable address ∧ ram.ReadableFrom (address + 1) count := by
  have hfirst : address + UInt32.ofNat 0 = address := UInt32.add_zero address
  unfold ReadableFrom
  rw [Nat.forall_lt_succ_left, hfirst]
  simp only [add_ofNat_succ]

/-- A run can be fetched exactly when its first part and the rest can be. -/
lemma readableFrom_add {ram : Ram} {address : UInt32} {first rest : Nat} :
    ram.ReadableFrom address (first + rest) ↔
      ram.ReadableFrom address first ∧ ram.ReadableFrom (address + UInt32.ofNat first) rest := by
  constructor
  · intro h
    refine ⟨fun i hi => h i (by omega), fun i hi => ?_⟩
    rw [UInt32.add_assoc, ← UInt32.ofNat_add]
    exact h (first + i) (by omega)
  · rintro ⟨hfirst, hrest⟩ i hi
    rcases Nat.lt_or_ge i first with hlt | hge
    · exact hfirst i hlt
    · have hi' := hrest (i - first) (by omega)
      rwa [UInt32.add_assoc, ← UInt32.ofNat_add, Nat.add_sub_cancel' hge] at hi'

/-- The little-endian number of the bytes at `count` addresses from one on, as a word. -/
def wordFrom (ram : Ram) (address : UInt32) (count : Nat) : UInt32 :=
  UInt32.ofNat (ofLittleEndian (ram.bytesFrom address count))

/-- A run of bytes is fetched exactly when each of them can be. -/
theorem fetchRun_eq_ok_iff {ram : Ram} {address : UInt32} {count : Nat} {bytes : List UInt8} :
    ram.fetchRun address count = .ok bytes ↔
      ram.ReadableFrom address count ∧ bytes = ram.bytesFrom address count := by
  induction count generalizing address bytes with
  | zero => simp [fetchRun, bytesFrom, ReadableFrom, eq_comm]
  | succ count ih =>
    rw [bytesFrom_succ, readableFrom_succ]
    unfold fetchRun
    split
    · rename_i e he
      refine iff_of_false (by simp) ?_
      rintro ⟨⟨hfirst, -⟩, -⟩
      rw [fetch_eq_ok_iff.mpr ⟨hfirst, rfl⟩] at he
      cases he
    · rename_i b hb
      obtain ⟨hfirst, rfl⟩ := fetch_eq_ok_iff.mp hb
      split
      · rename_i e he
        refine iff_of_false (by simp) ?_
        rintro ⟨⟨-, hrest⟩, -⟩
        rw [ih.mpr ⟨hrest, rfl⟩] at he
        cases he
      · rename_i rest hr
        obtain ⟨hrest, rfl⟩ := ih.mp hr
        simp only [Except.ok.injEq, hfirst, true_and]
        exact ⟨fun h => ⟨hrest, h.symm⟩, fun h => h.2.symm⟩

/-! ## Reads and what they answer -/

/-- A read that answers exactly what holds of the memory, whose fault is a failed read, and that
only counts. -/
structure Reads (reading : EStateM Fault Ram α) (holds : Ram → α → Prop) : Prop where
  /-- It answers what holds. -/
  answer_iff : ∀ (ram : Ram) (value : α), answer (reading ram) = .ok value ↔ holds ram value
  /-- Where nothing holds, a read failed. -/
  kind_eq : ∀ (ram : Ram) (fault : Fault), answer (reading ram) = .error fault → fault.kind = .read
  /-- It only counts. -/
  recounted : ∀ ram : Ram, (after (reading ram)).Recounted ram

/-- What a read answers may be said in other words. -/
lemma Reads.congr {reading : EStateM Fault Ram α} {holds holds' : Ram → α → Prop}
    (h : Reads reading holds) (hiff : ∀ ram value, holds ram value ↔ holds' ram value) :
    Reads reading holds' :=
  ⟨fun ram value => (h.answer_iff ram value).trans (hiff ram value), h.kind_eq, h.recounted⟩

/-- Answering without a look at the memory. -/
lemma Reads.pure (value : α) :
    Reads (Pure.pure value : EStateM Fault Ram α) fun _ other => other = value :=
  ⟨fun _ _ => ⟨fun h => (Except.ok.inj h).symm, fun h => congrArg Except.ok h.symm⟩,
    (fun _ _ h => by cases h), fun ram => Recounted.refl ram⟩

/-- One read after the other.

**Proof sketch.** The first read only counts, and the second one, which observes, does not see
that. -/
lemma Reads.bind {reading : EStateM Fault Ram α} {next : α → EStateM Fault Ram γ}
    {holds : Ram → α → Prop} {holds' : α → Ram → γ → Prop} (h : Reads reading holds)
    (hnext : ∀ value, Reads (next value) (holds' value))
    (hobserves : ∀ value, Observes (next value)) :
    Reads (reading >>= next) fun ram last => ∃ value, holds ram value ∧ holds' value ram last := by
  constructor
  · intro ram last
    rw [bind_apply]
    have hanswer := h.answer_iff ram
    have hcount := h.recounted ram
    cases hfirst : reading ram with
    | error e ram' =>
      simp only [hfirst, answer] at hanswer ⊢
      refine iff_of_false (by simp) ?_
      rintro ⟨value, hvalue, -⟩
      cases (hanswer value).mpr hvalue
    | ok value ram' =>
      simp only [hfirst, answer] at hanswer
      rw [hfirst] at hcount
      have hsame : answer (next value ram') = answer (next value ram) :=
        (hobserves value).answer_congr (Recounted.alike hcount)
      simp only [hsame, (hnext value).answer_iff]
      constructor
      · intro hlast
        exact ⟨value, (hanswer value).mp rfl, hlast⟩
      · rintro ⟨other, hother, hlast⟩
        cases (hanswer other).mpr hother
        exact hlast
  · intro ram fault hfault
    rw [bind_apply] at hfault
    have hkind := h.kind_eq ram
    cases hfirst : reading ram with
    | error e ram' =>
      rw [hfirst] at hfault hkind
      cases hfault
      exact hkind fault rfl
    | ok value ram' =>
      rw [hfirst] at hfault
      exact (hnext value).kind_eq ram' fault hfault
  · intro ram
    rw [bind_apply]
    have hcount := h.recounted ram
    cases hfirst : reading ram with
    | error e ram' =>
      rw [hfirst] at hcount
      exact hcount
    | ok value ram' =>
      rw [hfirst] at hcount
      exact ((hnext value).recounted ram').trans hcount

/-- A read whose answer is converted. -/
lemma Reads.map {reading : EStateM Fault Ram α} {holds : Ram → α → Prop} (f : α → γ)
    (h : Reads reading holds) :
    Reads (f <$> reading) fun ram last => ∃ value, holds ram value ∧ last = f value := by
  rw [map_eq_pure_bind]
  exact h.bind (fun value => Reads.pure (f value)) fun value => Observes.pure (f value)

/-- A raw read, charged to a range. -/
lemma reads_raw (f : Nat → α) (address size : UInt32) (count : Nat) :
    Reads ((f <$> rawRead address count).adaptExcept (Fault.readFailure address size))
      fun ram value => ram.ReadableFrom address count ∧
        value = f (ofLittleEndian (ram.bytesFrom address count)) := by
  have hcases : ∀ ram, (∃ bytes, ram.fetchRun address count = .ok bytes ∧
      (f <$> rawRead address count).adaptExcept (Fault.readFailure address size) ram =
        .ok (f (ofLittleEndian bytes)) ram.countRead) ∨
      (∃ e, ram.fetchRun address count = .error e ∧
        (f <$> rawRead address count).adaptExcept (Fault.readFailure address size) ram =
          .error (Fault.readFailure address size e) ram.countRead) := by
    intro ram
    rcases rawRead_cases address count ram with ⟨bytes, hfetch, hraw⟩ | ⟨e, hfetch, hraw⟩
    · refine Or.inl ⟨bytes, hfetch, ?_⟩
      simp only [adaptExcept_apply, Functor.map, EStateM.map, hraw]
    · refine Or.inr ⟨e, hfetch, ?_⟩
      simp only [adaptExcept_apply, Functor.map, EStateM.map, hraw]
  constructor
  · intro ram value
    rcases hcases ram with ⟨bytes, hfetch, hraw⟩ | ⟨e, hfetch, hraw⟩
    · obtain ⟨hreadable, rfl⟩ := fetchRun_eq_ok_iff.mp hfetch
      simp only [hraw, answer, Except.ok.injEq, hreadable, true_and, eq_comm]
    · rw [hraw]
      refine iff_of_false (by simp [answer]) ?_
      rintro ⟨hreadable, -⟩
      rw [fetchRun_eq_ok_iff.mpr ⟨hreadable, rfl⟩] at hfetch
      cases hfetch
  · intro ram fault hfault
    rcases hcases ram with ⟨bytes, -, hraw⟩ | ⟨e, -, hraw⟩
    · rw [hraw] at hfault
      cases hfault
    · rw [hraw] at hfault
      cases hfault
      rfl
  · intro ram
    rcases hcases ram with ⟨bytes, -, hraw⟩ | ⟨e, -, hraw⟩
    · rw [hraw]
      exact ⟨ram.rawReads + 1, rfl⟩
    · rw [hraw]
      exact ⟨ram.rawReads + 1, rfl⟩

end Ram

namespace Probe

open Ram

/-- A byte is read when it can be fetched. -/
lemma reads_readByte (address : UInt32) :
    Reads (readByte address : Reading Ram UInt8) fun ram b =>
      ram.Readable address ∧ b = ram.byteAt address := by
  refine (reads_raw UInt8.ofNat address 1 1).congr fun ram b => ?_
  simp [ReadableFrom, bytesFrom, ofLittleEndian]

/-- Bytes are read one by one when each of them can be fetched. -/
lemma reads_readBytes (address : UInt32) (count : Nat) :
    Reads (readBytes address count : Reading Ram (List UInt8)) fun ram bytes =>
      ram.ReadableFrom address count ∧ bytes = ram.bytesFrom address count := by
  induction count generalizing address with
  | zero =>
    refine (Reads.pure []).congr fun ram bytes => ?_
    simp [ReadableFrom, bytesFrom]
  | succ count ih =>
    have hrest : ∀ b, Reads (do let rest ← readBytes (address + 1) count; pure (b :: rest))
        fun (ram : Ram) bytes => ∃ rest, (ram.ReadableFrom (address + 1) count ∧
          rest = ram.bytesFrom (address + 1) count) ∧ bytes = b :: rest :=
      fun b => (ih (address + 1)).bind (fun rest => Reads.pure (b :: rest))
        fun rest => Observes.pure (b :: rest)
    refine ((reads_readByte address).bind hrest fun b =>
      (observes_readBytes (address + 1) count).bind fun rest =>
        Observes.pure (b :: rest)).congr fun ram bytes => ?_
    rw [readableFrom_succ, bytesFrom_succ]
    constructor
    · rintro ⟨b, ⟨hfirst, rfl⟩, rest, ⟨hrest, rfl⟩, rfl⟩
      exact ⟨⟨hfirst, hrest⟩, rfl⟩
    · rintro ⟨⟨hfirst, hrest⟩, rfl⟩
      exact ⟨_, ⟨hfirst, rfl⟩, _, ⟨hrest, rfl⟩, rfl⟩

/-- Reading bytes one by one and composing them. -/
lemma reads_composed (address : UInt32) (count : Nat) :
    Reads ((fun bytes => UInt32.ofNat (ofLittleEndian bytes)) <$> readBytes address count :
      Reading Ram UInt32) fun ram value =>
        ram.ReadableFrom address count ∧ value = ram.wordFrom address count := by
  refine ((reads_readBytes address count).map _).congr fun ram value => ?_
  constructor
  · rintro ⟨bytes, ⟨hreadable, rfl⟩, rfl⟩
    exact ⟨hreadable, rfl⟩
  · rintro ⟨hreadable, rfl⟩
    exact ⟨_, ⟨hreadable, rfl⟩, rfl⟩

/-- Four bytes are read when each of them can be fetched, whichever way they are read. -/
lemma reads_readWord (address : UInt32) :
    Reads (readWord address : Reading Ram UInt32) fun ram value =>
      ram.ReadableFrom address 4 ∧ value = ram.wordFrom address 4 := by
  unfold readWord
  split
  · exact reads_raw UInt32.ofNat address 4 4
  · exact reads_composed address 4

/-- Two bytes are read when each of them can be fetched, whichever way they are read. -/
lemma reads_readHalf (address : UInt32) :
    Reads (readHalf address : Reading Ram UInt32) fun ram value =>
      ram.ReadableFrom address 2 ∧ value = ram.wordFrom address 2 := by
  unfold readHalf
  split
  · refine ((reads_raw UInt16.ofNat address 2 2).map UInt16.toUInt32).congr fun ram value => ?_
    -- two bytes fit in a half-word, so nothing is lost on the way
    have hfits : ofLittleEndian (ram.bytesFrom address 2) < 2 ^ 16 := by
      have hlt := ofLittleEndian_lt (ram.bytesFrom address 2)
      rwa [length_bytesFrom] at hlt
    have hword : (UInt16.ofNat (ofLittleEndian (ram.bytesFrom address 2))).toUInt32 =
        ram.wordFrom address 2 := by
      apply UInt32.toNat_inj.mp
      rw [UInt16.toNat_toUInt32, UInt16.toNat_ofNat', wordFrom, UInt32.toNat_ofNat']
      omega
    constructor
    · rintro ⟨half, ⟨hreadable, rfl⟩, rfl⟩
      exact ⟨hreadable, hword⟩
    · rintro ⟨hreadable, rfl⟩
      exact ⟨_, ⟨hreadable, rfl⟩, hword.symm⟩
  · exact reads_composed address 2

/-- Eight bytes are read when each of them can be fetched, as two words. -/
lemma reads_readWords (address : UInt32) :
    Reads (readWords address : Reading Ram UInt64) fun ram double =>
      ram.ReadableFrom address 8 ∧
        double = Double.ofWords (ram.wordFrom address 4) (ram.wordFrom (address + 4) 4) := by
  have hhigh : ∀ low, Reads (do let high ← readWord (address + 4); pure (Double.ofWords low high))
      fun (ram : Ram) double => ∃ high, (ram.ReadableFrom (address + 4) 4 ∧
        high = ram.wordFrom (address + 4) 4) ∧ double = Double.ofWords low high :=
    fun low => (reads_readWord (address + 4)).bind
      (fun high => Reads.pure (Double.ofWords low high))
      fun high => Observes.pure (Double.ofWords low high)
  refine ((reads_readWord address).bind hhigh fun low =>
    (observes_readWord (address + 4)).bind fun high =>
      Observes.pure (Double.ofWords low high)).congr fun ram double => ?_
  have hsplit : ram.ReadableFrom address 8 ↔
      ram.ReadableFrom address 4 ∧ ram.ReadableFrom (address + 4) 4 :=
    @readableFrom_add ram address 4 4
  rw [hsplit]
  constructor
  · rintro ⟨low, ⟨hfirst, rfl⟩, high, ⟨hlast, rfl⟩, rfl⟩
    exact ⟨⟨hfirst, hlast⟩, rfl⟩
  · rintro ⟨⟨hfirst, hlast⟩, rfl⟩
    exact ⟨_, ⟨hfirst, rfl⟩, _, ⟨hlast, rfl⟩, rfl⟩

/-- The low word of the eight bytes holds the first four. -/
lemma reads_lowWord (address : UInt32) :
    Reads (Double.low <$> readWords address : Reading Ram UInt32) fun ram value =>
      ram.ReadableFrom address 8 ∧ value = ram.wordFrom address 4 := by
  refine ((reads_readWords address).map Double.low).congr fun ram value => ?_
  constructor
  · rintro ⟨double, ⟨hreadable, rfl⟩, rfl⟩
    exact ⟨hreadable, Double.low_ofWords _ _⟩
  · rintro ⟨hreadable, rfl⟩
    exact ⟨_, ⟨hreadable, rfl⟩, (Double.low_ofWords _ _).symm⟩

/-- What comes after the check of a range is read when the range is accepted. -/
lemma requireRange_bind {β : Type} (address size : UInt32) (next : Unit → Reading β α)
    (memory : β) :
    (requireRange address size >>= next) memory = match checkRange address size with
      | .ok _ => next () memory
      | .error fault => .error fault memory := by
  rw [bind_apply]
  unfold requireRange
  cases checkRange address size <;> rfl

/-- The widths that are read as they are. -/
lemma isWidth_iff {size : UInt32} :
    isWidth size = true ↔ size = 1 ∨ size = 2 ∨ size = 4 ∨ size = 8 := by
  simp [isWidth, or_assoc]

/-- What a read does whose range is accepted, after it was checked. -/
lemma readRange_of_checked {β : Type} [GuestMemory β] {address size : UInt32} {w : Window}
    (hrange : checkRange address size = .ok w) :
    (readRange address size : Reading β UInt32) =
      if size = 1 then UInt8.toUInt32 <$> readByte address
      else if size = 2 then readHalf address
      else if size = 4 then readWord address
      else if size = 8 then Double.low <$> readWords address
      else requireRange address 4 >>= fun _ => readWord address := by
  funext memory
  rw [readRange, requireRange_bind, hrange]

/-- **A range of a width that is read as it is** is read when each of its bytes can be fetched, and
answers the little-endian number of its low four bytes. -/
theorem reads_readRange {address size : UInt32} {w : Window} (hwidth : isWidth size = true)
    (hrange : checkRange address size = .ok w) :
    Reads (readRange address size : Reading Ram UInt32) fun ram value =>
      ram.ReadableFrom address size.toNat ∧ value = ram.wordFrom address (min 4 size.toNat) := by
  rw [readRange_of_checked hrange]
  rcases isWidth_iff.mp hwidth with rfl | rfl | rfl | rfl
  · refine ((reads_readByte address).map UInt8.toUInt32).congr fun ram value => ?_
    have hword : (ram.byteAt address).toUInt32 = ram.wordFrom address 1 := by
      apply UInt32.toNat_inj.mp
      simp [wordFrom, bytesFrom, ofLittleEndian]
    have hone : ram.ReadableFrom address 1 ↔ ram.Readable address := by simp [ReadableFrom]
    constructor
    · rintro ⟨b, ⟨hreadable, rfl⟩, rfl⟩
      exact ⟨hone.mpr hreadable, hword⟩
    · rintro ⟨hreadable, rfl⟩
      exact ⟨_, ⟨hone.mp hreadable, rfl⟩, hword.symm⟩
  · exact reads_readHalf address
  · exact reads_readWord address
  · exact reads_lowWord address

/-- A checked read only counts, whatever its range and width. -/
lemma recounted_readRange (address size : UInt32) (ram : Ram) :
    (after (readRange address size ram)).Recounted ram := by
  cases hrange : checkRange address size with
  | error fault =>
    rw [readRange, requireRange_bind, hrange]
    exact Recounted.refl ram
  | ok w =>
    by_cases hwidth : isWidth size = true
    · exact (reads_readRange hwidth hrange).recounted ram
    · rw [isWidth_iff] at hwidth
      push Not at hwidth
      obtain ⟨hone, htwo, hfour, height⟩ := hwidth
      rw [readRange, requireRange_bind, hrange]
      simp only [hone, htwo, hfour, height, if_false]
      rw [requireRange_bind]
      cases checkRange address 4 with
      | error fault => exact Recounted.refl ram
      | ok w => exact (reads_readWord address).recounted ram

/-- **An attempt through a probe only counts.** -/
theorem attempt_recounted (probe : Probe Ram) (address size : UInt32) :
    (probe.attempt address size).state.memory.Recounted probe.memory := by
  rw [attempt, run_memory]
  exact recounted_readRange address size probe.memory

end Probe

namespace Ram

variable {ram : Ram} {address size : UInt32} {w : Window}

/-- **What a checked read answers**: the little-endian number of the low four bytes of its range,
when each byte of the range can be fetched. -/
theorem look_eq_ok_iff (hwidth : Probe.isWidth size = true)
    (hrange : checkRange address size = .ok w) {value : UInt32} :
    ram.look address size = .ok value ↔
      ram.ReadableFrom address size.toNat ∧ value = ram.wordFrom address (min 4 size.toNat) := by
  simp only [look, Probe.attempt, Probe.run_fst]
  exact (Probe.reads_readRange hwidth hrange).answer_iff ram value

/-- Inside a window the fault of a checked read is a failed read. -/
theorem kind_of_look (hwidth : Probe.isWidth size = true)
    (hrange : checkRange address size = .ok w) {fault : Fault}
    (h : ram.look address size = .error fault) : fault.kind = .read := by
  simp only [look, Probe.attempt, Probe.run_fst] at h
  exact (Probe.reads_readRange hwidth hrange).kind_eq ram fault h

end Ram

end GuestWatch
