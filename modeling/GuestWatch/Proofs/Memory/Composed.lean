import GuestWatch.Proofs.Memory.Stores
import Mathlib.Algebra.BigOperators.Group.Finset.Basic
import Mathlib.Algebra.BigOperators.Ring.Finset

set_option relaxedAutoImplicit false
set_option autoImplicit false

/-!
# Reads of any address and width

A checked read of the reference memory goes one of several ways: in one piece or byte by byte, as
one word or as two, or as a word because its width is none that can be read. What comes of it does
not show the way. The read touches a run of bytes; it succeeds when the checks accept its range and
none of these bytes fails, and then it answers the little-endian number of the first four of them or
fewer. When a byte fails, the fault blames a part of the run.

## Main definitions

* `GuestWatch.Probe.touched`, `GuestWatch.Probe.Touches` — the bytes a read touches.
* `GuestWatch.Probe.Accepts` — the checks accept the range of a read.
* `GuestWatch.Probe.Piecewise` — a property of reads that follows from what a memory is asked for.
* `GuestWatch.Ram.Blames` — a fault that blames a byte of a run.

## Main results

* `GuestWatch.Probe.Piecewise.readRange` — what holds piece by piece holds of a checked read.
* `GuestWatch.Probe.reads_accepted` — what a read answers whose range is accepted.
* `GuestWatch.Probe.blames_readRange` — the fault of such a read blames a byte it touches.
* `GuestWatch.Probe.kind_of_attempt` — a read faults at its bounds or as a read.
* `GuestWatch.Probe.attempt_composed` — reads of any address and width.
-/

namespace GuestWatch

variable {α γ : Type}

/-- The bytes of a legal range are inside the windows. -/
lemma Legal.owned {address size : UInt32} (h : Legal address size) {i : Nat}
    (hi : i < size.toNat) : (Window.of? (address + UInt32.ofNat i)).isSome = true := by
  obtain ⟨w, hlow, hhigh⟩ := h.inside
  have hcontains : w.contains (address + UInt32.ofNat i) = true := by
    rw [Window.contains_iff, h.toNat_offset hi]
    omega
  rw [Window.of?_eq_some_iff.mpr hcontains]
  rfl

namespace Ram

/-! ## Little-endian numbers -/

/-- The little-endian number of a run of bytes is the sum of the bytes at their places. -/
theorem ofLittleEndian_bytesFrom (ram : Ram) (address : UInt32) (count : Nat) :
    ofLittleEndian (ram.bytesFrom address count) =
      ∑ i ∈ Finset.range count, (ram.byteAt (address + UInt32.ofNat i)).toNat * 256 ^ i := by
  induction count generalizing address with
  | zero => rfl
  | succ count ih =>
    rw [bytesFrom_succ, ofLittleEndian, ih, Finset.sum_range_succ', Finset.mul_sum, Nat.add_comm]
    congr 1
    · refine Finset.sum_congr rfl fun i _ => ?_
      rw [add_ofNat_succ, Nat.pow_succ, Nat.mul_comm 256, Nat.mul_assoc]
    · rw [Nat.pow_zero, Nat.mul_one]
      exact congrArg (fun place => (ram.byteAt place).toNat) (UInt32.add_zero address).symm

/-- A run of bytes is its first part and the rest. -/
lemma bytesFrom_add (ram : Ram) (address : UInt32) (first rest : Nat) :
    ram.bytesFrom address (first + rest) =
      ram.bytesFrom address first ++ ram.bytesFrom (address + UInt32.ofNat first) rest := by
  simp [bytesFrom, List.range_add, UInt32.add_assoc, Function.comp_def]

/-- Two words in a row make the number of their eight bytes. -/
lemma toNat_ofWords_wordFrom (ram : Ram) (address : UInt32) :
    (Double.ofWords (ram.wordFrom address 4) (ram.wordFrom (address + 4) 4)).toNat =
      ofLittleEndian (ram.bytesFrom address 8) := by
  have hbytes : ram.bytesFrom address 8 =
      ram.bytesFrom address 4 ++ ram.bytesFrom (address + 4) 4 := ram.bytesFrom_add address 4 4
  have hlow : (ram.wordFrom address 4).toNat < UInt32.size := UInt32.toNat_lt _
  have hhigh : (ram.wordFrom (address + 4) 4).toNat < UInt32.size := UInt32.toNat_lt _
  rw [hbytes, ofLittleEndian_append, length_bytesFrom, ← toNat_wordFrom ram address (Nat.le_refl 4),
    ← toNat_wordFrom ram (address + 4) (Nat.le_refl 4), Double.ofWords, UInt64.toNat_ofNat']
  simp only [UInt32.size] at hlow hhigh ⊢
  omega

/-! ## Runs of bytes -/

/-- The bytes of a legal range can be fetched when none of them fails. -/
lemma readableFrom_iff {ram : Ram} {address size : UInt32} (h : Legal address size) :
    ram.ReadableFrom address size.toNat ↔ ∀ place ∈ ram.failing,
      ¬(address.toNat ≤ place.toNat ∧ place.toNat < address.toNat + size.toNat) := by
  constructor
  · rintro hreadable place hfails ⟨hlow, hhigh⟩
    have hi : place.toNat - address.toNat < size.toNat := by omega
    have hplace : address + UInt32.ofNat (place.toNat - address.toNat) = place := by
      apply UInt32.toNat_inj.mp
      rw [h.toNat_offset hi]
      omega
    have hserved := (hreadable _ hi).1
    rw [hplace] at hserved
    exact hserved hfails
  · intro hnone i hi
    refine ⟨fun hfails => hnone _ hfails ?_, h.owned hi⟩
    rw [h.toNat_offset hi]
    omega

/-- A byte of a legal range that cannot be fetched fails. -/
lemma failing_of_fetch_error {ram : Ram} {address size : UInt32} (h : Legal address size) {i : Nat}
    (hi : i < size.toNat) {cause : AccessError}
    (hfetch : ram.fetch (address + UInt32.ofNat i) = .error cause) :
    address + UInt32.ofNat i ∈ ram.failing ∧
      cause = .deviceFault (address + UInt32.ofNat i) := by
  by_cases hfails : address + UInt32.ofNat i ∈ ram.failing
  · refine ⟨hfails, ?_⟩
    simpa [fetch, hfails, eq_comm] using hfetch
  · have hreadable : ram.Readable (address + UInt32.ofNat i) := ⟨hfails, h.owned hi⟩
    rw [fetch_eq_ok_iff.mpr ⟨hreadable, rfl⟩] at hfetch
    cases hfetch

end Ram

namespace Probe

/-! ## Accepted ranges -/

/-- How many bytes a read of a width touches: of a width that cannot be read, it reads a word. -/
def touched (size : UInt32) : Nat := if isWidth size then size.toNat else 4

/-- A read touches eight bytes at most. -/
lemma touched_le_eight (size : UInt32) : touched size ≤ 8 := by
  unfold touched
  by_cases hwidth : isWidth size = true
  · rw [if_pos hwidth]
    rcases isWidth_iff.mp hwidth with rfl | rfl | rfl | rfl <;> decide
  · rw [if_neg hwidth]
    decide

/-- Whether a read touches the byte at a place. -/
def Touches (address size place : UInt32) : Prop :=
  address.toNat ≤ place.toNat ∧ place.toNat < address.toNat + touched size

/-- The checks accept the range of a read, and that of the word it reads when its width cannot be
read. -/
structure Accepts (address size : UInt32) : Prop where
  /-- The range is accepted. -/
  range : ∃ w, checkRange address size = .ok w
  /-- The range of the word is accepted. -/
  word : isWidth size = false → ∃ w, checkRange address 4 = .ok w

/-- The bytes that a read touches make a range that is legal. -/
lemma Accepts.legal {address size : UInt32} (h : Accepts address size) :
    ∃ count : UInt32, count.toNat = touched size ∧ Legal address count := by
  unfold touched
  by_cases hwidth : isWidth size = true
  · rw [if_pos hwidth]
    exact ⟨size, rfl, legal_iff.mpr h.range⟩
  · rw [if_neg hwidth]
    exact ⟨4, rfl, legal_iff.mpr (h.word (by simpa using hwidth))⟩

section

variable {β : Type} [GuestMemory β]

/-- A width that cannot be read is none of those that can. -/
lemma not_width {size : UInt32} (h : isWidth size = false) :
    size ≠ 1 ∧ size ≠ 2 ∧ size ≠ 4 ∧ size ≠ 8 := by
  have hnone : ¬(size = 1 ∨ size = 2 ∨ size = 4 ∨ size = 8) := by
    rw [← isWidth_iff, h]
    exact Bool.false_ne_true
  push Not at hnone
  exact hnone

/-- What a read does whose range is accepted and whose width cannot be read. -/
lemma readRange_of_unusual {address size : UInt32} (h : Accepts address size)
    (hwidth : isWidth size = false) :
    (readRange address size : Reading β UInt32) = readWord address := by
  obtain ⟨hone, htwo, hfour, height⟩ := not_width hwidth
  obtain ⟨v, hrange⟩ := h.range
  obtain ⟨w, hword⟩ := h.word hwidth
  rw [readRange_of_checked hrange, if_neg hone, if_neg htwo, if_neg hfour, if_neg height]
  funext memory
  rw [requireRange_bind, hword]

/-- A read whose range is not accepted faults at the bounds of what is refused, without a look at the
memory. -/
lemma readRange_of_refused {address size : UInt32} (h : ¬Accepts address size) :
    ∃ count, ∀ memory : β, readRange address size memory =
      EStateM.Result.error (.outOfBounds address count) memory := by
  cases hrange : checkRange address size with
  | error fault =>
    refine ⟨size, fun memory => ?_⟩
    rw [readRange, requireRange_bind, hrange, checkRange_eq_error hrange]
  | ok w =>
    -- the range is accepted, so it is the word that is not
    cases hword : checkRange address 4 with
    | ok v => exact absurd ⟨⟨w, hrange⟩, fun _ => ⟨v, hword⟩⟩ h
    | error fault =>
      have hwidth : isWidth size = false := by
        rw [Bool.eq_false_iff]
        exact fun hwidth => h ⟨⟨w, hrange⟩, fun hno => by rw [hwidth] at hno; cases hno⟩
      obtain ⟨hone, htwo, hfour, height⟩ := not_width hwidth
      refine ⟨4, fun memory => ?_⟩
      rw [readRange_of_checked hrange, if_neg hone, if_neg htwo, if_neg hfour, if_neg height,
        requireRange_bind, hword, checkRange_eq_error hword]

/-- What the read of a double word does whose range is accepted. -/
lemma readDouble_of_checked {address : UInt32} {w : Window} (hrange : checkRange address 8 = .ok w) :
    (readDouble address : Reading β UInt64) = readWords address := by
  funext memory
  rw [readDouble, requireRange_bind, hrange]

/-! ## Reads made of pieces -/

/-- A property of reads and the runs of bytes they touch that follows from what a memory is asked
for: it holds of each raw read at a multiple of its width, and of one read after the other, where
the second touches the bytes behind those of the first. -/
structure Piecewise (holds : (α : Type) → Reading β α → UInt32 → Nat → Prop) : Prop where
  /-- Nothing is touched where the memory is not asked. -/
  pure : ∀ {α : Type} (value : α) (address : UInt32), holds α (pure value) address 0
  /-- One read after the other. -/
  bind : ∀ {α γ : Type} {reading : Reading β α} {next : α → Reading β γ} {address : UInt32}
    {count count' : Nat}, holds α reading address count →
    (∀ value, holds γ (next value) (address + UInt32.ofNat count) count') →
    holds γ (reading >>= next) address (count + count')
  /-- A byte. -/
  byte : ∀ address, holds UInt8 (readByte address) address 1
  /-- A half-word. -/
  half : ∀ address : UInt32, address.toNat % 2 = 0 → holds UInt16
    ((GuestMemory.readHalf address).adaptExcept (Fault.readFailure address 2)) address 2
  /-- A word. -/
  word : ∀ address : UInt32, address.toNat % 4 = 0 → holds UInt32
    ((GuestMemory.readWord address).adaptExcept (Fault.readFailure address 4)) address 4

namespace Piecewise

variable {holds : (α : Type) → Reading β α → UInt32 → Nat → Prop}

/-- A read whose answer is converted. -/
lemma map (h : Piecewise holds) (f : α → γ) {reading : Reading β α} {address : UInt32} {count : Nat}
    (hreading : holds α reading address count) : holds γ (f <$> reading) address count := by
  rw [map_eq_pure_bind]
  exact h.bind hreading fun value => h.pure (f value) _

/-- Bytes that are read one by one. -/
lemma readBytes (h : Piecewise holds) (address : UInt32) (count : Nat) :
    holds (List UInt8) (Probe.readBytes address count) address count := by
  induction count generalizing address with
  | zero => exact h.pure [] address
  | succ count ih =>
    have hall : holds (List UInt8) (Probe.readBytes address (count + 1)) address (1 + (count + 0)) :=
      h.bind (h.byte address) fun b => h.bind (ih (address + 1)) fun rest => h.pure (b :: rest) _
    exact Nat.add_comm 1 count ▸ hall

lemma readHalf (h : Piecewise holds) (address : UInt32) :
    holds UInt32 (Probe.readHalf address) address 2 := by
  unfold Probe.readHalf
  split
  · rename_i heven
    exact h.map _ (h.half address heven)
  · exact h.map _ (h.readBytes address 2)

lemma readWord (h : Piecewise holds) (address : UInt32) :
    holds UInt32 (Probe.readWord address) address 4 := by
  unfold Probe.readWord
  split
  · rename_i hmultiple
    exact h.word address hmultiple
  · exact h.map _ (h.readBytes address 4)

/-- Eight bytes that are read as two words. -/
lemma readWords (h : Piecewise holds) (address : UInt32) :
    holds UInt64 (Probe.readWords address) address 8 :=
  h.bind (h.readWord address) fun low =>
    h.bind (h.readWord (address + 4)) fun high => h.pure (Double.ofWords low high) _

/-- **The checked read of an accepted range** touches its bytes. -/
theorem readRange (h : Piecewise holds) {address size : UInt32} (haccepts : Accepts address size) :
    holds UInt32 (Probe.readRange address size) address (touched size) := by
  obtain ⟨w, hrange⟩ := haccepts.range
  unfold touched
  by_cases hwidth : isWidth size = true
  · rw [if_pos hwidth, readRange_of_checked hrange]
    rcases isWidth_iff.mp hwidth with rfl | rfl | rfl | rfl
    · exact h.map _ (h.byte address)
    · exact h.readHalf address
    · exact h.readWord address
    · exact h.map _ (h.readWords address)
  · rw [if_neg hwidth, readRange_of_unusual haccepts (by simpa using hwidth)]
    exact h.readWord address

end Piecewise

end

end Probe

namespace Ram

/-! ## Blame -/

/-- A fault blames a byte of a run: it names a part of the run that was read in one piece, and its
cause is what keeps a byte of this part from being fetched. -/
def Blames (ram : Ram) (address : UInt32) (count : Nat) (fault : Fault) : Prop :=
  ∃ (first : Nat) (size : UInt32) (i : Nat) (cause : AccessError),
    first + size.toNat ≤ count ∧ i < size.toNat ∧
      fault = .readFailure (address + UInt32.ofNat first) size cause ∧
      ram.fetch (address + UInt32.ofNat (first + i)) = .error cause

/-- A byte of a run is one of a longer run. -/
lemma Blames.mono {ram : Ram} {address : UInt32} {count count' : Nat} {fault : Fault}
    (h : ram.Blames address count fault) (hle : count ≤ count') :
    ram.Blames address count' fault := by
  obtain ⟨first, size, i, cause, hpart, hrest⟩ := h
  exact ⟨first, size, i, cause, Nat.le_trans hpart hle, hrest⟩

/-- A byte of the later part of a run is one of the run. -/
lemma Blames.shift {ram : Ram} {address : UInt32} {skipped count : Nat} {fault : Fault}
    (h : ram.Blames (address + UInt32.ofNat skipped) count fault) :
    ram.Blames address (skipped + count) fault := by
  obtain ⟨first, size, i, cause, hpart, hi, hfault, hfetch⟩ := h
  rw [UInt32.add_assoc, ← UInt32.ofNat_add] at hfault hfetch
  rw [← Nat.add_assoc] at hfetch
  exact ⟨skipped + first, size, i, cause, by omega, hi, hfault, hfetch⟩

/-- The same byte is to blame in memories that are alike. -/
lemma Blames.congr {a b : Ram} {address : UInt32} {count : Nat} {fault : Fault}
    (h : a.Blames address count fault) (hsame : a.Alike b) : b.Blames address count fault := by
  obtain ⟨first, size, i, cause, hpart, hi, hfault, hfetch⟩ := h
  rw [fetch_congr hsame] at hfetch
  exact ⟨first, size, i, cause, hpart, hi, hfault, hfetch⟩

/-- Whenever a read faults, it blames a byte of a run. -/
def Blaming (reading : EStateM Fault Ram α) (address : UInt32) (count : Nat) : Prop :=
  ∀ (ram : Ram) (fault : Fault), answer (reading ram) = .error fault →
    ram.Blames address count fault

/-- A read that never faults blames nothing. -/
lemma Blaming.pure (value : α) (address : UInt32) :
    Blaming (Pure.pure value : EStateM Fault Ram α) address 0 :=
  fun _ _ h => by cases h

/-- One read after the other. The second one is made in a memory that is like the first one's. -/
lemma Blaming.bind {reading : EStateM Fault Ram α} {next : α → EStateM Fault Ram γ}
    {address : UInt32} {count count' : Nat} (hobserves : Observes reading)
    (h : Blaming reading address count)
    (hnext : ∀ value, Blaming (next value) (address + UInt32.ofNat count) count') :
    Blaming (reading >>= next) address (count + count') := by
  intro ram fault hfault
  rw [bind_apply] at hfault
  have hfirst := h ram
  have halike := hobserves.after_alike ram
  cases hran : reading ram with
  | error e ram' =>
    rw [hran] at hfault hfirst
    cases hfault
    exact (hfirst fault rfl).mono (Nat.le_add_right _ _)
  | ok value ram' =>
    rw [hran] at hfault halike
    exact ((hnext value ram' fault hfault).congr halike).shift

/-- The error of a run is that of one of its bytes. -/
lemma exists_of_fetchRun_error {ram : Ram} {address : UInt32} {count : Nat} {e : AccessError}
    (h : ram.fetchRun address count = .error e) :
    ∃ i < count, ram.fetch (address + UInt32.ofNat i) = .error e := by
  induction count generalizing address with
  | zero => cases h
  | succ count ih =>
    unfold fetchRun at h
    split at h
    · rename_i e' he
      cases h
      exact ⟨0, Nat.succ_pos count, by simpa using he⟩
    · split at h
      · rename_i e' he
        cases h
        obtain ⟨i, hi, hfetch⟩ := ih he
        refine ⟨i + 1, Nat.succ_lt_succ hi, ?_⟩
        rwa [add_ofNat_succ]
      · cases h

/-- A raw read in one piece blames a byte of it. -/
lemma blaming_raw (f : Nat → α) (address size : UInt32) :
    Blaming ((f <$> rawRead address size.toNat).adaptExcept (Fault.readFailure address size))
      address size.toNat := by
  intro ram fault hfault
  rcases rawRead_cases address size.toNat ram with ⟨bytes, -, hraw⟩ | ⟨e, hfetch, hraw⟩
  · simp only [adaptExcept_apply, Functor.map, EStateM.map, hraw, answer] at hfault
    cases hfault
  · simp only [adaptExcept_apply, Functor.map, EStateM.map, hraw, answer] at hfault
    cases hfault
    obtain ⟨i, hi, hbyte⟩ := exists_of_fetchRun_error hfetch
    refine ⟨0, size, i, e, by omega, hi, ?_, ?_⟩
    · exact congrArg (Fault.readFailure · size e) (UInt32.add_zero address).symm
    · rwa [Nat.zero_add]

/-- In the reads made of pieces, the fault blames a byte that is touched. -/
lemma blaming_piecewise : Probe.Piecewise fun (α : Type) (reading : Reading Ram α) address count =>
    Observes reading ∧ Blaming reading address count where
  pure value address := ⟨Observes.pure value, Blaming.pure value address⟩
  bind h hnext := ⟨h.1.bind fun value => (hnext value).1, h.2.bind h.1 fun value => (hnext value).2⟩
  byte address := ⟨Probe.observes_readByte address, blaming_raw UInt8.ofNat address 1⟩
  half address _ := ⟨((observes_rawRead address 2).map UInt16.ofNat).adaptExcept _,
    blaming_raw UInt16.ofNat address 2⟩
  word address _ := ⟨((observes_rawRead address 4).map UInt32.ofNat).adaptExcept _,
    blaming_raw UInt32.ofNat address 4⟩

end Ram

namespace Probe

open Ram

/-! ## What is read -/

/-- A read whose range is not accepted faults at the bounds of what is refused. -/
lemma attempt_of_refused {address size : UInt32} (h : ¬Accepts address size) (probe : Probe Ram) :
    ∃ count, (probe.attempt address size).value = .error (.outOfBounds address count) := by
  obtain ⟨count, hrefused⟩ := readRange_of_refused (β := Ram) h
  refine ⟨count, ?_⟩
  rw [attempt, run_fst, hrefused]
  rfl

/-- **A read whose range is accepted** is made when each byte it touches can be fetched, and answers
the little-endian number of the first four of them or fewer. -/
theorem reads_accepted {address size : UInt32} (h : Accepts address size) :
    Reads (readRange address size : Reading Ram UInt32) fun ram value =>
      ram.ReadableFrom address (touched size) ∧
        value = ram.wordFrom address (min 4 (touched size)) := by
  obtain ⟨w, hrange⟩ := h.range
  unfold touched
  by_cases hwidth : isWidth size = true
  · simp only [hwidth, if_true]
    exact reads_readRange hwidth hrange
  · rw [if_neg hwidth, readRange_of_unusual h (by simpa using hwidth)]
    exact reads_readWord address

/-- **The fault of a read whose range is accepted** blames a byte that the read touches. -/
theorem blames_readRange {address size : UInt32} (h : Accepts address size) :
    Blaming (readRange address size : Reading Ram UInt32) address (touched size) :=
  (blaming_piecewise.readRange h).2

/-- A read faults at its bounds or as a read, whatever its range and width. -/
lemma kind_of_attempt {probe : Probe Ram} {address size : UInt32} {fault : Fault}
    (h : (probe.attempt address size).value = .error fault) :
    fault.kind = .bounds ∨ fault.kind = .read := by
  by_cases haccepts : Accepts address size
  · rw [attempt, run_fst] at h
    exact Or.inr ((reads_accepted haccepts).kind_eq _ fault h)
  · obtain ⟨count, hrefused⟩ := attempt_of_refused haccepts probe
    rw [hrefused] at h
    cases h
    exact Or.inl rfl

/-! ## Double words -/

/-- A range of eight bytes is read as its double word is, of which it keeps the low word. -/
lemma readRange_eight (address : UInt32) :
    (readRange address 8 : Reading Ram UInt32) = Double.low <$> readDouble address := by
  funext ram
  rw [readRange, readDouble, requireRange_bind]
  simp only [Functor.map, EStateM.map]
  rw [requireRange_bind]
  cases checkRange address 8 <;> rfl

/-- A double word whose range is accepted is read when each of its bytes can be fetched, and answers
the little-endian number of all of them. -/
lemma reads_readDouble {address : UInt32} {w : Window} (hrange : checkRange address 8 = .ok w) :
    Reads (readDouble address : Reading Ram UInt64) fun ram double =>
      ram.ReadableFrom address 8 ∧
        double.toNat = ofLittleEndian (ram.bytesFrom address 8) := by
  rw [readDouble_of_checked hrange]
  refine (reads_readWords address).congr fun ram double => ?_
  rw [← toNat_ofWords_wordFrom, UInt64.toNat_inj]

/-! ## Any address and width -/

/-- The bytes of an accepted read can be fetched when none of them fails. -/
lemma Accepts.readableFrom_iff {address size : UInt32} (h : Accepts address size) (ram : Ram) :
    ram.ReadableFrom address (touched size) ↔
      ∀ place ∈ ram.failing, ¬Touches address size place := by
  obtain ⟨count, hcount, hlegal⟩ := h.legal
  have hiff : ram.ReadableFrom address count.toNat ↔ _ := Ram.readableFrom_iff hlegal
  rw [hcount] at hiff
  exact hiff

/-- What an accepted read answers. -/
lemma Accepts.attempt_eq_ok_iff {address size : UInt32} (h : Accepts address size)
    (probe : Probe Ram) (value : UInt32) :
    (probe.attempt address size).value = .ok value ↔
      (∀ place ∈ probe.memory.failing, ¬Touches address size place) ∧
        value = probe.memory.wordFrom address (min 4 (touched size)) := by
  rw [← h.readableFrom_iff, attempt, run_fst]
  exact (reads_accepted h).answer_iff probe.memory value

/-- The fault of an accepted read names a part of the touched bytes in which a byte fails. -/
lemma Accepts.failing_of_attempt {address size : UInt32} (h : Accepts address size)
    {probe : Probe Ram} {fault : Fault}
    (hfault : (probe.attempt address size).value = .error fault) :
    ∃ part count place : UInt32, fault = .readFailure part count (.deviceFault place) ∧
      place ∈ probe.memory.failing ∧ Touches address size part ∧
      part.toNat ≤ place.toNat ∧ place.toNat < part.toNat + count.toNat ∧
      part.toNat + count.toNat ≤ address.toNat + touched size := by
  obtain ⟨all, hall, hlegal⟩ := h.legal
  rw [attempt, run_fst] at hfault
  obtain ⟨first, count, i, cause, hpart, hi, rfl, hfetch⟩ :=
    blames_readRange h probe.memory fault hfault
  rw [← hall] at hpart
  obtain ⟨hfails, rfl⟩ := failing_of_fetch_error hlegal (by omega) hfetch
  have hfirst := hlegal.toNat_offset (i := first) (by omega)
  have hplace := hlegal.toNat_offset (i := first + i) (by omega)
  refine ⟨_, count, _, rfl, hfails, ⟨?_, ?_⟩, ?_, ?_, ?_⟩ <;> omega

/-- A double word is read when its range is accepted and none of its bytes fails. -/
lemma exists_readDouble_iff (probe : Probe Ram) (address : UInt32) :
    (∃ double, (probe.run (readDouble address)).1 = .ok double) ↔
      Accepts address 8 ∧ ∀ place ∈ probe.memory.failing, ¬Touches address 8 place := by
  cases hrange : checkRange address 8 with
  | error fault =>
    refine iff_of_false ?_ ?_
    · rintro ⟨double, hdouble⟩
      rw [run_fst, readDouble, requireRange_bind, hrange] at hdouble
      cases hdouble
    · rintro ⟨⟨⟨w, haccepted⟩, -⟩, -⟩
      rw [hrange] at haccepted
      cases haccepted
  | ok w =>
    have haccepts : Accepts address 8 := ⟨⟨w, hrange⟩, fun hno => by cases hno⟩
    simp only [run_fst, (reads_readDouble hrange).answer_iff]
    constructor
    · rintro ⟨double, hreadable, -⟩
      exact ⟨haccepts, (haccepts.readableFrom_iff probe.memory).mp hreadable⟩
    · rintro ⟨-, hserved⟩
      have hreadable := (haccepts.readableFrom_iff probe.memory).mpr hserved
      exact ⟨_, hreadable, toNat_ofWords_wordFrom probe.memory address⟩

/-- The number of a double word that is read. -/
lemma toNat_of_readDouble {probe : Probe Ram} {address : UInt32} {double : UInt64}
    (h : (probe.run (readDouble address)).1 = .ok double) :
    double.toNat = ofLittleEndian (probe.memory.bytesFrom address 8) := by
  obtain ⟨⟨⟨w, hrange⟩, -⟩, -⟩ := (exists_readDouble_iff probe address).mp ⟨double, h⟩
  rw [run_fst] at h
  exact (((reads_readDouble hrange).answer_iff probe.memory double).mp h).2

/-- A range of eight bytes answers what its double word does, of which it keeps the low word. -/
lemma attempt_eight (probe : Probe Ram) (address : UInt32) :
    (probe.attempt address 8).value =
      (probe.run (readDouble address)).1.map Double.low := by
  rw [attempt, run_fst, run_fst, readRange_eight]
  simp only [Functor.map, EStateM.map]
  cases readDouble address probe.memory <;> rfl

/-- **Reads of any address and width.** A checked read

* succeeds exactly when its range is accepted and no byte it touches fails;
* then answers the little-endian number of the bytes it touches, of the first four at most;
* faults with a part of the touched bytes in which a byte fails, when one of them fails;
* faults at its bounds when its range is not accepted.

A double word is read under the same conditions, and answers the number of all eight bytes. A read
of eight bytes faults exactly as the double word does, and else answers it modulo `2 ^ 32`.

**Proof sketch.** Whether a width is read in one piece or byte by byte is decided inside `readHalf`,
`readWord` and `readWords`, and `reads_accepted` and `blames_readRange` no longer show it. What
can be fetched in a legal range is what does not fail in it. -/
theorem attempt_composed (probe : Probe Ram) (address size : UInt32) :
    ((∃ value, (probe.attempt address size).value = .ok value) ↔
      Accepts address size ∧ ∀ place ∈ probe.memory.failing, ¬Touches address size place) ∧
    (∀ value, (probe.attempt address size).value = .ok value →
      value.toNat = ∑ i ∈ Finset.range (min 4 (touched size)),
        (probe.memory.byteAt (address + UInt32.ofNat i)).toNat * 256 ^ i) ∧
    (Accepts address size → (∃ place ∈ probe.memory.failing, Touches address size place) →
      ∃ part count place, (probe.attempt address size).value =
          .error (.readFailure part count (.deviceFault place)) ∧
        place ∈ probe.memory.failing ∧ Touches address size part ∧
        part.toNat ≤ place.toNat ∧ place.toNat < part.toNat + count.toNat ∧
        part.toNat + count.toNat ≤ address.toNat + touched size) ∧
    (¬Accepts address size → ∃ count,
      (probe.attempt address size).value = .error (.outOfBounds address count)) ∧
    ((∃ double, (probe.run (readDouble address)).1 = .ok double) ↔
      Accepts address 8 ∧ ∀ place ∈ probe.memory.failing, ¬Touches address 8 place) ∧
    (∀ double, (probe.run (readDouble address)).1 = .ok double →
      double.toNat = ∑ i ∈ Finset.range 8,
        (probe.memory.byteAt (address + UInt32.ofNat i)).toNat * 256 ^ i) ∧
    (∀ fault, (probe.attempt address 8).value = .error fault ↔
      (probe.run (readDouble address)).1 = .error fault) ∧
    (∀ double, (probe.run (readDouble address)).1 = .ok double → ∃ value,
      (probe.attempt address 8).value = .ok value ∧ value.toNat = double.toNat % 2 ^ 32) := by
  have haccepts_of_ok : ∀ value, (probe.attempt address size).value = .ok value →
      Accepts address size := by
    intro value hvalue
    by_contra hrefused
    obtain ⟨count, hbounds⟩ := attempt_of_refused hrefused probe
    rw [hbounds] at hvalue
    cases hvalue
  refine ⟨⟨?_, ?_⟩, ?_, ?_, fun h => attempt_of_refused h probe, exists_readDouble_iff probe address,
    ?_, ?_, ?_⟩
  · rintro ⟨value, hvalue⟩
    have haccepts := haccepts_of_ok value hvalue
    exact ⟨haccepts, ((haccepts.attempt_eq_ok_iff probe value).mp hvalue).1⟩
  · rintro ⟨haccepts, hserved⟩
    exact ⟨_, (haccepts.attempt_eq_ok_iff probe _).mpr ⟨hserved, rfl⟩⟩
  · intro value hvalue
    have haccepts := haccepts_of_ok value hvalue
    obtain ⟨-, rfl⟩ := (haccepts.attempt_eq_ok_iff probe value).mp hvalue
    rw [toNat_wordFrom probe.memory address (Nat.min_le_left _ _), ofLittleEndian_bytesFrom]
  · rintro haccepts ⟨failed, hfails, htouched⟩
    cases hvalue : (probe.attempt address size).value with
    | ok value =>
      exact absurd htouched (((haccepts.attempt_eq_ok_iff probe value).mp hvalue).1 failed hfails)
    | error fault =>
      obtain ⟨part, count, place, rfl, hplace⟩ := haccepts.failing_of_attempt hvalue
      exact ⟨part, count, place, rfl, hplace⟩
  · intro double hdouble
    rw [toNat_of_readDouble hdouble, ofLittleEndian_bytesFrom]
  · intro fault
    rw [attempt_eight]
    cases (probe.run (readDouble address)).1 <;> simp [Except.map]
  · intro double hdouble
    refine ⟨Double.low double, ?_, UInt32.toNat_ofNat'⟩
    rw [attempt_eight, hdouble]
    rfl

/-- Four bytes across two words of a memory are read past a byte that fails, and answer their
number. One address further the failing byte is among them. As eight bytes from the word before,
they are not read either: the higher word holds the failing byte. -/
theorem attempt_composed_astride :
    let ram : Ram := { ({} : Ram).poke 0x101 [1, 2, 3, 4] with failing := [0x105] }
    let probe : Probe Ram := ⟨ram, {}⟩
    (∃ value, (probe.attempt 0x101 4).value = .ok value ∧ value.toNat = 0x04030201) ∧
      (∃ part count place, (probe.attempt 0x102 4).value =
        .error (.readFailure part count (.deviceFault place)) ∧ Touches 0x102 4 part) ∧
      ∃ fault, (probe.run (readDouble 0x100)).1 = .error fault ∧
        (probe.attempt 0x100 8).value = .error fault := by
  intro ram probe
  have haccepts : Accepts 0x102 4 := ⟨⟨.ram, rfl⟩, fun hno => by cases hno⟩
  have htouched : ∃ place ∈ probe.memory.failing, Touches 0x102 4 place :=
    ⟨0x105, List.mem_singleton_self _, by decide, by decide⟩
  have hastride := attempt_composed probe 0x101 4
  have hnext := (attempt_composed probe 0x102 4).2.2.1 haccepts htouched
  have hdouble := (attempt_composed probe 0x100 8).2.2.2.2.2.2.1
  refine ⟨?_, ?_, ?_⟩
  · obtain ⟨value, hvalue⟩ := hastride.1.mpr
      ⟨⟨⟨.ram, rfl⟩, fun hno => by cases hno⟩, by
        intro place hplace hwithin
        cases List.mem_singleton.mp hplace
        exact absurd hwithin.2 (by decide)⟩
    refine ⟨value, hvalue, ?_⟩
    have hbytes : probe.memory.bytesFrom 0x101 (min 4 (touched 4)) = [1, 2, 3, 4] := rfl
    rw [hastride.2.1 value hvalue, ← ofLittleEndian_bytesFrom, hbytes]
    rfl
  · obtain ⟨part, count, place, hvalue, -, hpart, -⟩ := hnext
    exact ⟨part, count, place, hvalue, hpart⟩
  · exact ⟨.readFailure 0x104 4 (.deviceFault 0x105), rfl, (hdouble _).mpr rfl⟩

end Probe

end GuestWatch
