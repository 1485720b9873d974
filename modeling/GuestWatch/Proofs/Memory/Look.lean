import GuestWatch.Memory.Probe
import GuestWatch.Memory.Ram
import Mathlib.Tactic.Lemma
import Mathlib.Tactic.SplitIfs

set_option relaxedAutoImplicit false
set_option autoImplicit false

/-!
# What a checked read sees

A checked read of the reference memory depends on the stored bytes and on the failing addresses, and
on nothing else, and it leaves both as they are: all it changes is the count of raw reads. So what a
read answers is a function of the memory, of an address and of a width, and memories that agree in
their bytes and failures cannot be told apart by reads.

## Main definitions

* `GuestWatch.Ram.Alike` — two memories with the same bytes and the same failing addresses.
* `GuestWatch.Ram.Observes` — a read that cannot tell such memories apart and keeps them alike.
* `GuestWatch.Ram.look` — what a checked read answers.

## Main results

* `GuestWatch.Probe.observes_readRange` — the checked read of a range observes.
* `GuestWatch.Probe.attempt_value` — an attempt through a probe answers what a look sees.
* `GuestWatch.Ram.Alike.look_eq` — memories that are alike look the same.
-/

namespace GuestWatch

variable {ε ε' α γ σ : Type}

/-! ## Two reads in a row -/

/-- The second of two reads is made in the memory that the first leaves. -/
lemma bind_apply (reading : EStateM ε σ α) (next : α → EStateM ε σ γ) (memory : σ) :
    (reading >>= next) memory = match reading memory with
      | .ok value memory' => next value memory'
      | .error e memory' => .error e memory' := by
  simp only [Bind.bind, EStateM.bind]
  cases reading memory <;> rfl

/-- Converting the error of a read changes neither its value nor its memory. -/
lemma adaptExcept_apply (f : ε → ε') (reading : EStateM ε σ α) (memory : σ) :
    reading.adaptExcept f memory = match reading memory with
      | .ok value memory' => .ok value memory'
      | .error e memory' => .error (f e) memory' := by
  simp only [EStateM.adaptExcept]
  cases reading memory <;> rfl

namespace Ram

/-- Two memories with the same bytes and the same failing addresses. -/
structure Alike (a b : Ram) : Prop where
  /-- The same bytes are stored. -/
  cells : a.cells = b.cells
  /-- The same addresses fail. -/
  failing : a.failing = b.failing

@[refl] lemma Alike.refl (a : Ram) : a.Alike a := ⟨rfl, rfl⟩

lemma Alike.symm {a b : Ram} (h : a.Alike b) : b.Alike a := ⟨h.cells.symm, h.failing.symm⟩

lemma Alike.trans {a b c : Ram} (h : a.Alike b) (h' : b.Alike c) : a.Alike c :=
  ⟨h.cells.trans h'.cells, h.failing.trans h'.failing⟩

/-! ## Reads that observe -/

/-- The answer of a read. -/
def answer : EStateM.Result ε Ram α → Except ε α
  | .ok a _ => .ok a
  | .error e _ => .error e

/-- The memory after a read. -/
def after : EStateM.Result ε Ram α → Ram
  | .ok _ ram => ram
  | .error _ ram => ram

/-- A read that answers the same on memories that are alike and leaves a memory that is alike. -/
structure Observes (reading : EStateM ε Ram α) : Prop where
  /-- The answer depends on bytes and failures only. -/
  answer_congr : ∀ {a b : Ram}, a.Alike b → answer (reading a) = answer (reading b)
  /-- Bytes and failures stay. -/
  after_alike : ∀ a : Ram, (after (reading a)).Alike a

/-- Answering without a look at the memory observes. -/
lemma Observes.pure (value : α) : Observes (Pure.pure value : EStateM ε Ram α) :=
  ⟨fun _ => rfl, fun a => Alike.refl a⟩

/-- One observing read after the other observes. -/
lemma Observes.bind {reading : EStateM ε Ram α} {next : α → EStateM ε Ram γ}
    (h : Observes reading) (hnext : ∀ value, Observes (next value)) :
    Observes (reading >>= next) := by
  constructor
  · intro a b hab
    have hans := h.answer_congr hab
    have ha := h.after_alike a
    have hb := h.after_alike b
    rw [bind_apply, bind_apply]
    cases hra : reading a <;> cases hrb : reading b <;> rw [hra] at hans ha <;>
      rw [hrb] at hans hb <;> cases hans
    · exact (hnext _).answer_congr (ha.trans (hab.trans hb.symm))
    · rfl
  · intro a
    have ha := h.after_alike a
    rw [bind_apply]
    cases hra : reading a with
    | ok value ram =>
      rw [hra] at ha
      exact ((hnext value).after_alike ram).trans ha
    | error e ram =>
      rw [hra] at ha
      exact ha

/-- A read whose answer is converted observes. -/
lemma Observes.map {reading : EStateM ε Ram α} (f : α → γ) (h : Observes reading) :
    Observes (f <$> reading) := by
  rw [map_eq_pure_bind]
  exact h.bind fun value => Observes.pure (f value)

/-- A read whose error is converted observes. -/
lemma Observes.adaptExcept {reading : EStateM ε Ram α} (f : ε → ε') (h : Observes reading) :
    Observes (reading.adaptExcept f) := by
  constructor
  · intro a b hab
    have hans := h.answer_congr hab
    rw [adaptExcept_apply, adaptExcept_apply]
    cases hra : reading a <;> cases hrb : reading b <;> rw [hra, hrb] at hans <;> cases hans <;> rfl
  · intro a
    have ha := h.after_alike a
    rw [adaptExcept_apply]
    cases hra : reading a <;> rw [hra] at ha <;> exact ha

/-! ## Raw reads -/

/-- Memories that are alike hold the same byte at each address, or fail there alike. -/
lemma fetch_congr {a b : Ram} (h : a.Alike b) (address : UInt32) :
    a.fetch address = b.fetch address := by
  simp only [fetch, byteAt, h.cells, h.failing]

/-- Memories that are alike hold the same run of bytes from an address on, or fail there alike. -/
lemma fetchRun_congr {a b : Ram} (h : a.Alike b) (address : UInt32) (count : Nat) :
    a.fetchRun address count = b.fetchRun address count := by
  induction count generalizing address with
  | zero => rfl
  | succ count ih => simp only [fetchRun, fetch_congr h, ih]

/-- A raw read only counts. -/
lemma rawRead_cases (address : UInt32) (count : Nat) (ram : Ram) :
    (∃ bytes, ram.fetchRun address count = .ok bytes ∧
      rawRead address count ram = .ok (ofLittleEndian bytes) ram.countRead) ∨
    (∃ e, ram.fetchRun address count = .error e ∧
      rawRead address count ram = .error e ram.countRead) := by
  unfold rawRead
  cases ram.fetchRun address count with
  | ok bytes => exact Or.inl ⟨bytes, rfl, rfl⟩
  | error e => exact Or.inr ⟨e, rfl, rfl⟩

/-- A raw read observes. -/
lemma observes_rawRead (address : UInt32) (count : Nat) : Observes (rawRead address count) := by
  constructor
  · intro a b h
    simp only [rawRead, fetchRun_congr h]
    cases b.fetchRun address count <;> rfl
  · intro a
    simp only [rawRead]
    cases a.fetchRun address count <;> exact ⟨rfl, rfl⟩

end Ram

namespace Probe

open Ram

/-! ## Checked reads -/

/-- A byte is read by an observing read. -/
lemma observes_readByte (address : UInt32) :
    Observes (readByte address : Reading Ram UInt8) :=
  ((observes_rawRead address 1).map UInt8.ofNat).adaptExcept _

/-- Bytes are read one by one by an observing read. -/
lemma observes_readBytes (address : UInt32) (count : Nat) :
    Observes (readBytes address count : Reading Ram (List UInt8)) := by
  induction count generalizing address with
  | zero => exact Observes.pure []
  | succ count ih =>
    exact (observes_readByte address).bind fun b =>
      (ih (address + 1)).bind fun rest => Observes.pure (b :: rest)

/-- Two bytes are read by an observing read, whichever way they are read. -/
lemma observes_readHalf (address : UInt32) :
    Observes (readHalf address : Reading Ram UInt32) := by
  unfold readHalf
  split
  · exact (((observes_rawRead address 2).map UInt16.ofNat).adaptExcept _).map _
  · exact (observes_readBytes address 2).map _

/-- Four bytes are read by an observing read, whichever way they are read. -/
lemma observes_readWord (address : UInt32) :
    Observes (readWord address : Reading Ram UInt32) := by
  unfold readWord
  split
  · exact ((observes_rawRead address 4).map UInt32.ofNat).adaptExcept _
  · exact (observes_readBytes address 4).map _

/-- Eight bytes are read by an observing read. -/
lemma observes_readWords (address : UInt32) :
    Observes (readWords address : Reading Ram UInt64) :=
  (observes_readWord address).bind fun low =>
    (observes_readWord (address + 4)).bind fun high => Observes.pure (Double.ofWords low high)

/-- The check of a range does not look at the memory. -/
lemma observes_requireRange (address size : UInt32) :
    Observes (requireRange address size : Reading Ram Unit) := by
  constructor
  · intro a b _
    simp only [requireRange]
    cases checkRange address size <;> rfl
  · intro a
    simp only [requireRange]
    cases checkRange address size <;> exact Alike.refl a

/-- A range is read by an observing read, whatever its width. -/
theorem observes_readRange (address size : UInt32) :
    Observes (readRange address size : Reading Ram UInt32) := by
  refine (observes_requireRange address size).bind fun _ => ?_
  split_ifs
  · exact (observes_readByte address).map _
  · exact observes_readHalf address
  · exact observes_readWord address
  · exact (observes_readWords address).map _
  · exact (observes_requireRange address 4).bind fun _ => observes_readWord address

end Probe

/-! ## Looks -/

/-- What a checked read of a range answers. -/
def Ram.look (ram : Ram) (address size : UInt32) : Except Fault UInt32 :=
  ((⟨ram, {}⟩ : Probe Ram).attempt address size).value

namespace Probe

/-- The answer of a read through a probe. -/
lemma run_fst (probe : Probe Ram) (reading : Reading Ram α) :
    (probe.run reading).1 = Ram.answer (reading probe.memory) := by
  unfold run
  cases reading probe.memory <;> rfl

/-- The memory after a read through a probe. -/
lemma run_memory (probe : Probe Ram) (reading : Reading Ram α) :
    (probe.run reading).2.memory = Ram.after (reading probe.memory) := by
  unfold run
  cases reading probe.memory <;> rfl

/-- An attempt answers what a look at the memory sees. -/
theorem attempt_value (probe : Probe Ram) (address size : UInt32) :
    (probe.attempt address size).value = probe.memory.look address size := by
  simp only [Ram.look, attempt, run_fst]

end Probe

/-- Memories that are alike look the same. -/
theorem Ram.Alike.look_eq {a b : Ram} (h : a.Alike b) : a.look = b.look := by
  funext address size
  simp only [Ram.look, Probe.attempt, Probe.run_fst]
  exact (Probe.observes_readRange address size).answer_congr h

/-- A range that is refused is seen as the same bounds fault. -/
lemma Ram.look_of_refused {ram : Ram} {address size : UInt32} {fault : Fault}
    (h : checkRange address size = .error fault) : ram.look address size = .error fault := by
  simp only [Ram.look, Probe.attempt, Probe.run_fst]
  have hbind : Probe.readRange address size ram = EStateM.Result.error fault ram := by
    simp only [Probe.readRange, bind, EStateM.bind, Probe.requireRange, h]
  rw [hbind]
  rfl

end GuestWatch
