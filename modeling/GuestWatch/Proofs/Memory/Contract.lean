import GuestWatch.Proofs.Memory.Composed

set_option relaxedAutoImplicit false
set_option autoImplicit false

/-!
# What a checked read asks of a memory

A memory says what it may be asked: a half-word at an even address, a word at a multiple of four, and
only inside the windows. It is free in what it answers and when it fails. A checked read keeps to
this, whatever the memory does. To see it, a memory is given a log of the raw reads it is asked for;
the log does not change what the memory does.

## Main definitions

* `GuestWatch.Call`, `GuestWatch.Logged` — a raw read, and a memory with a log of them.
* `GuestWatch.Logged.Mirrors` — a read that does not see the log.
* `GuestWatch.Logged.Calling` — a read that asks for pieces of a run of bytes and stops when one
  cannot be had.
* `GuestWatch.Logged.Honours` — raw reads that keep to what a memory may be asked.

## Main results

* `GuestWatch.Logged.calling_piecewise` — a memory is asked for the bytes that a read touches.
* `GuestWatch.Logged.mirrors_readRange` — it does not see the log.
* `GuestWatch.Logged.reads_honour` — what a memory is asked for by checked reads.
-/

namespace GuestWatch

variable {β ε ε' α γ : Type}

/-- A raw read that was asked for. -/
structure Call where
  /-- The address. -/
  address : UInt32
  /-- How many bytes. -/
  width : Nat
  /-- Whether it was served. -/
  served : Bool
  deriving DecidableEq, Repr

/-- A memory with a log of the raw reads it was asked for, oldest first. -/
structure Logged (β : Type) where
  /-- The memory. -/
  memory : β
  /-- The raw reads. -/
  calls : List Call := []

namespace Logged

/-- Makes a raw read and logs it. -/
def call (width : Nat) (read : UInt32 → EStateM AccessError β α) (address : UInt32) :
    EStateM AccessError (Logged β) α := fun logged =>
  match read address logged.memory with
  | .ok value memory => .ok value ⟨memory, logged.calls ++ [⟨address, width, true⟩]⟩
  | .error e memory => .error e ⟨memory, logged.calls ++ [⟨address, width, false⟩]⟩

instance [GuestMemory β] : GuestMemory (Logged β) where
  readByte := call 1 GuestMemory.readByte
  readHalf := call 2 GuestMemory.readHalf
  readWord := call 4 GuestMemory.readWord
  checkContents start stop logged :=
    let checked := GuestMemory.checkContents start stop logged.memory
    (checked.1, { logged with memory := checked.2 })
  setProtection on logged := { logged with memory := GuestMemory.setProtection on logged.memory }

/-! ## The log is not seen -/

/-- What a read comes to when the log is left out. -/
def erase : EStateM.Result ε (Logged β) α → EStateM.Result ε β α
  | .ok value logged => .ok value logged.memory
  | .error e logged => .error e logged.memory

/-- A read of a memory with a log does what a read of the memory alone does. -/
def Mirrors (reading : EStateM ε (Logged β) α) (bare : EStateM ε β α) : Prop :=
  ∀ logged, erase (reading logged) = bare logged.memory

lemma Mirrors.pure (value : α) :
    Mirrors (Pure.pure value : EStateM ε (Logged β) α) (Pure.pure value) :=
  fun _ => rfl

lemma Mirrors.bind {reading : EStateM ε (Logged β) α} {bare : EStateM ε β α}
    {next : α → EStateM ε (Logged β) γ} {bareNext : α → EStateM ε β γ}
    (h : Mirrors reading bare) (hnext : ∀ value, Mirrors (next value) (bareNext value)) :
    Mirrors (reading >>= next) (bare >>= bareNext) := by
  intro logged
  rw [bind_apply, bind_apply, ← h logged]
  cases reading logged with
  | ok value logged' => exact hnext value logged'
  | error e logged' => rfl

lemma Mirrors.map {reading : EStateM ε (Logged β) α} {bare : EStateM ε β α} (f : α → γ)
    (h : Mirrors reading bare) : Mirrors (f <$> reading) (f <$> bare) := by
  rw [map_eq_pure_bind, map_eq_pure_bind]
  exact h.bind fun value => Mirrors.pure (f value)

/-- A raw read, charged to a range. -/
lemma mirrors_call (width : Nat) (read : UInt32 → EStateM AccessError β α) (address : UInt32)
    (f : AccessError → ε') :
    Mirrors ((call width read address).adaptExcept f) ((read address).adaptExcept f) := by
  intro logged
  rw [adaptExcept_apply, adaptExcept_apply, call]
  cases read address logged.memory <;> rfl

lemma mirrors_requireRange (address size : UInt32) :
    Mirrors (Probe.requireRange address size : Reading (Logged β) Unit)
      (Probe.requireRange address size) := by
  intro logged
  unfold Probe.requireRange
  cases checkRange address size <;> rfl

section

variable [GuestMemory β]

lemma mirrors_readByte (address : UInt32) :
    Mirrors (Probe.readByte address : Reading (Logged β) UInt8) (Probe.readByte address) :=
  mirrors_call 1 GuestMemory.readByte address _

lemma mirrors_readBytes (address : UInt32) (count : Nat) :
    Mirrors (Probe.readBytes address count : Reading (Logged β) (List UInt8))
      (Probe.readBytes address count) := by
  induction count generalizing address with
  | zero => exact Mirrors.pure []
  | succ count ih =>
    exact (mirrors_readByte address).bind fun b =>
      (ih (address + 1)).bind fun rest => Mirrors.pure (b :: rest)

lemma mirrors_readHalf (address : UInt32) :
    Mirrors (Probe.readHalf address : Reading (Logged β) UInt32) (Probe.readHalf address) := by
  unfold Probe.readHalf
  split
  · exact (mirrors_call 2 GuestMemory.readHalf address _).map _
  · exact (mirrors_readBytes address 2).map _

lemma mirrors_readWord (address : UInt32) :
    Mirrors (Probe.readWord address : Reading (Logged β) UInt32) (Probe.readWord address) := by
  unfold Probe.readWord
  split
  · exact mirrors_call 4 GuestMemory.readWord address _
  · exact (mirrors_readBytes address 4).map _

lemma mirrors_readWords (address : UInt32) :
    Mirrors (Probe.readWords address : Reading (Logged β) UInt64) (Probe.readWords address) :=
  (mirrors_readWord address).bind fun low =>
    (mirrors_readWord (address + 4)).bind fun high => Mirrors.pure (Double.ofWords low high)

/-- **A checked read does not see the log.** -/
theorem mirrors_readRange (address size : UInt32) :
    Mirrors (Probe.readRange address size : Reading (Logged β) UInt32)
      (Probe.readRange address size) := by
  refine (mirrors_requireRange address size).bind fun _ => ?_
  split_ifs
  · exact (mirrors_readByte address).map _
  · exact mirrors_readHalf address
  · exact mirrors_readWord address
  · exact (mirrors_readWords address).map _
  · exact (mirrors_requireRange address 4).bind fun _ => mirrors_readWord address

lemma mirrors_readDouble (address : UInt32) :
    Mirrors (Probe.readDouble address : Reading (Logged β) UInt64) (Probe.readDouble address) :=
  (mirrors_requireRange address 8).bind fun _ => mirrors_readWords address

end

/-! ## What is asked for -/

/-- A raw read asks for a piece of a run of bytes, at a multiple of its width. -/
structure Within (address : UInt32) (count : Nat) (c : Call) : Prop where
  /-- It asks for a byte at least. -/
  pos : 0 < c.width
  /-- It is aligned. -/
  aligned : c.address.toNat % c.width = 0
  /-- It asks for bytes of the run. -/
  place : ∃ i, c.address = address + UInt32.ofNat i ∧ i + c.width ≤ count

lemma Within.mono {address : UInt32} {count count' : Nat} {c : Call} (h : Within address count c)
    (hle : count ≤ count') : Within address count' c := by
  obtain ⟨i, hplace, hfits⟩ := h.place
  exact ⟨h.pos, h.aligned, i, hplace, Nat.le_trans hfits hle⟩

/-- A piece of the later part of a run is a piece of the run. -/
lemma Within.shift {address : UInt32} {skipped count : Nat} {c : Call}
    (h : Within (address + UInt32.ofNat skipped) count c) : Within address (skipped + count) c := by
  obtain ⟨i, hplace, hfits⟩ := h.place
  refine ⟨h.pos, h.aligned, skipped + i, ?_, by omega⟩
  rw [hplace, UInt32.add_assoc, ← UInt32.ofNat_add]

/-- A read asks for pieces of a run of bytes one after the other, no more than there are bytes. All of
them are served, or it stops at the first that is not and faults as a read. -/
structure Calling (reading : Reading (Logged β) α) (address : UInt32) (count : Nat) : Prop where
  /-- A read that answers was served each time. -/
  served : ∀ {logged logged' : Logged β} {value : α}, reading logged = .ok value logged' →
    ∃ calls, logged'.calls = logged.calls ++ calls ∧ calls.length ≤ count ∧
      ∀ c ∈ calls, Within address count c ∧ c.served = true
  /-- A read that faults was served each time but the last. -/
  failed : ∀ {logged logged' : Logged β} {fault : Fault}, reading logged = .error fault logged' →
    fault.kind = .read ∧ ∃ calls last, logged'.calls = logged.calls ++ (calls ++ [last]) ∧
      calls.length + 1 ≤ count ∧ (∀ c ∈ calls, Within address count c ∧ c.served = true) ∧
      Within address count last ∧ last.served = false

lemma Calling.pure (value : α) (address : UInt32) :
    Calling (Pure.pure value : Reading (Logged β) α) address 0 := by
  constructor
  · intro logged logged' other h
    cases h
    exact ⟨[], (List.append_nil _).symm, Nat.le_refl 0, List.forall_mem_nil _⟩
  · intro logged logged' fault h
    cases h

/-- One read after the other asks for pieces of both runs. -/
lemma Calling.bind {reading : Reading (Logged β) α} {next : α → Reading (Logged β) γ}
    {address : UInt32} {count count' : Nat} (h : Calling reading address count)
    (hnext : ∀ value, Calling (next value) (address + UInt32.ofNat count) count') :
    Calling (reading >>= next) address (count + count') := by
  have hearly : ∀ {calls : List Call}, (∀ c ∈ calls, Within address count c ∧ c.served = true) →
      ∀ c ∈ calls, Within address (count + count') c ∧ c.served = true :=
    fun hcalls c hc => ⟨(hcalls c hc).1.mono (Nat.le_add_right _ _), (hcalls c hc).2⟩
  have hlate : ∀ {calls : List Call},
      (∀ c ∈ calls, Within (address + UInt32.ofNat count) count' c ∧ c.served = true) →
      ∀ c ∈ calls, Within address (count + count') c ∧ c.served = true :=
    fun hcalls c hc => ⟨(hcalls c hc).1.shift, (hcalls c hc).2⟩
  constructor
  · intro logged logged'' last hlast
    rw [bind_apply] at hlast
    cases hran : reading logged with
    | error fault logged' =>
      rw [hran] at hlast
      cases hlast
    | ok value logged' =>
      rw [hran] at hlast
      obtain ⟨first, hfirst, hfew, hgood⟩ := h.served hran
      obtain ⟨rest, hrest, hfew', hgood'⟩ := (hnext value).served hlast
      refine ⟨first ++ rest, ?_, ?_, ?_⟩
      · rw [hrest, hfirst, List.append_assoc]
      · rw [List.length_append]
        omega
      · exact List.forall_mem_append.mpr ⟨hearly hgood, hlate hgood'⟩
  · intro logged logged'' fault hfault
    rw [bind_apply] at hfault
    cases hran : reading logged with
    | error other logged' =>
      rw [hran] at hfault
      cases hfault
      obtain ⟨hkind, calls, last, hcalls, hfew, hgood, hwithin, hunserved⟩ := h.failed hran
      exact ⟨hkind, calls, last, hcalls, by omega, hearly hgood,
        hwithin.mono (Nat.le_add_right _ _), hunserved⟩
    | ok value logged' =>
      rw [hran] at hfault
      obtain ⟨first, hfirst, hfew, hgood⟩ := h.served hran
      obtain ⟨hkind, calls, last, hcalls, hfew', hgood', hwithin, hunserved⟩ :=
        (hnext value).failed hfault
      refine ⟨hkind, first ++ calls, last, ?_, ?_, ?_, hwithin.shift, hunserved⟩
      · rw [hcalls, hfirst, List.append_assoc, List.append_assoc]
      · rw [List.length_append]
        omega
      · exact List.forall_mem_append.mpr ⟨hearly hgood, hlate hgood'⟩

/-- A raw read at a multiple of its width asks for one piece. -/
lemma calling_call (width : UInt32) (read : UInt32 → EStateM AccessError β α) {address : UInt32}
    (hpos : 0 < width.toNat) (haligned : address.toNat % width.toNat = 0) :
    Calling ((call width.toNat read address).adaptExcept (Fault.readFailure address width)) address
      width.toNat := by
  have hwithin : ∀ served, Within address width.toNat ⟨address, width.toNat, served⟩ :=
    fun served => ⟨hpos, haligned, 0, (UInt32.add_zero address).symm, Nat.le_of_eq (Nat.zero_add _)⟩
  constructor
  · intro logged logged' value h
    rw [adaptExcept_apply, call] at h
    cases hread : read address logged.memory with
    | error e memory =>
      rw [hread] at h
      cases h
    | ok other memory =>
      rw [hread] at h
      cases h
      exact ⟨_, rfl, hpos, List.forall_mem_singleton.mpr ⟨hwithin true, rfl⟩⟩
  · intro logged logged' fault h
    rw [adaptExcept_apply, call] at h
    cases hread : read address logged.memory with
    | error e memory =>
      rw [hread] at h
      cases h
      exact ⟨rfl, [], _, rfl, hpos, List.forall_mem_nil _, hwithin false, rfl⟩
    | ok other memory =>
      rw [hread] at h
      cases h

section

variable [GuestMemory β]

/-- In the reads made of pieces, a memory is asked for the bytes that are touched. -/
lemma calling_piecewise : Probe.Piecewise fun (α : Type) (reading : Reading (Logged β) α) =>
    Calling reading where
  pure := Calling.pure
  bind := Calling.bind
  byte address := calling_call 1 GuestMemory.readByte (by decide) (Nat.mod_one _)
  half address heven := calling_call 2 GuestMemory.readHalf (by decide) heven
  word address hmultiple := calling_call 4 GuestMemory.readWord (by decide) hmultiple

end

/-! ## Keeping to the contract -/

/-- Raw reads that keep to what a memory may be asked, on behalf of a read of `count` bytes from an
address on. -/
structure Honours (address : UInt32) (count : Nat) (calls : List Call) : Prop where
  /-- Each is aligned to its width. -/
  aligned : ∀ c ∈ calls, c.address.toNat % c.width = 0
  /-- Each asks for some of the bytes, at an address that is computed without wrapping. -/
  place : ∀ c ∈ calls, ∃ i, c.address.toNat = address.toNat + i ∧ i + c.width ≤ count
  /-- Each asks for bytes of one window. -/
  window : ∀ c ∈ calls, ∃ w : Window,
    w.start.toNat ≤ c.address.toNat ∧ c.address.toNat + c.width ≤ w.stop
  /-- Where one is made, the end of the bytes is computed without wrapping as well. -/
  fits : calls ≠ [] → address.toNat + count < UInt32.size
  /-- There are eight at most. -/
  few : calls.length ≤ 8
  /-- None comes after one that was not served. -/
  stops : ∀ c ∈ calls.dropLast, c.served = true

/-- The raw reads that are made between two states of a memory keep to what it may be asked. -/
def Asks (logged logged' : Logged β) (address : UInt32) (count : Nat) : Prop :=
  ∃ calls, logged'.calls = logged.calls ++ calls ∧ Honours address count calls

/-- A probe without the log of its memory. -/
def bare (probe : Probe (Logged β)) : Probe β := ⟨probe.memory.memory, probe.tally⟩

/-- Pieces of a legal run of bytes keep to what a memory may be asked. -/
lemma honours_of_within {address count : UInt32} {calls : List Call} (hlegal : Legal address count)
    (height : count.toNat ≤ 8) (hfew : calls.length ≤ count.toNat)
    (hwithin : ∀ c ∈ calls, Within address count.toNat c)
    (hstops : ∀ c ∈ calls.dropLast, c.served = true) : Honours address count.toNat calls := by
  have hplace : ∀ c ∈ calls, ∃ i, c.address.toNat = address.toNat + i ∧
      i + c.width ≤ count.toNat := by
    intro c hc
    obtain ⟨i, haddress, hpiece⟩ := (hwithin c hc).place
    have hpos := (hwithin c hc).pos
    refine ⟨i, ?_, hpiece⟩
    rw [haddress, hlegal.toNat_offset (by omega)]
  refine ⟨fun c hc => (hwithin c hc).aligned, hplace, fun c hc => ?_, fun _ => hlegal.fits,
    Nat.le_trans hfew height, hstops⟩
  obtain ⟨w, hlow, hhigh⟩ := hlegal.inside
  obtain ⟨i, haddress, hpiece⟩ := hplace c hc
  exact ⟨w, by omega, by omega⟩

/-- A read of a legal run of eight bytes or fewer keeps to what a memory may be asked. -/
lemma Calling.asks {reading : Reading (Logged β) α} {address count : UInt32}
    (h : Calling reading address count.toNat) (hlegal : Legal address count)
    (height : count.toNat ≤ 8) (probe : Probe (Logged β)) :
    Asks probe.memory (probe.run reading).2.memory address count.toNat := by
  unfold Probe.run
  cases hran : reading probe.memory with
  | ok value logged =>
    obtain ⟨calls, hcalls, hfew, hgood⟩ := h.served hran
    refine ⟨calls, hcalls, honours_of_within hlegal height hfew (fun c hc => (hgood c hc).1) ?_⟩
    exact fun c hc => (hgood c (List.mem_of_mem_dropLast hc)).2
  | error fault logged =>
    obtain ⟨-, calls, last, hcalls, hfew, hgood, hlast, -⟩ := h.failed hran
    refine ⟨calls ++ [last], hcalls, honours_of_within hlegal height ?_ ?_ ?_⟩
    · rwa [List.length_append]
    · exact List.forall_mem_append.mpr
        ⟨fun c hc => (hgood c hc).1, List.forall_mem_singleton.mpr hlast⟩
    · rw [List.dropLast_concat]
      exact fun c hc => (hgood c hc).2

/-- The fault of such a read is a failed read. -/
lemma Calling.kind_of_run {reading : Reading (Logged β) α} {address : UInt32} {count : Nat}
    (h : Calling reading address count) {probe : Probe (Logged β)} {fault : Fault}
    (hfault : (probe.run reading).1 = .error fault) : fault.kind = .read := by
  unfold Probe.run at hfault
  cases hran : reading probe.memory with
  | ok value logged =>
    rw [hran] at hfault
    cases hfault
  | error other logged =>
    rw [hran] at hfault
    cases hfault
    exact (h.failed hran).1

/-- Where the memory stays as it was, nothing was asked for. -/
lemma Asks.refl (logged : Logged β) (address : UInt32) (count : Nat) :
    Asks logged logged address count :=
  ⟨[], (List.append_nil _).symm, List.forall_mem_nil _, List.forall_mem_nil _,
    List.forall_mem_nil _, fun hne => absurd rfl hne, Nat.zero_le _, List.forall_mem_nil _⟩

/-- A read through a probe does not see the log of the memory. -/
lemma Mirrors.run {reading : Reading (Logged β) α} {without : Reading β α}
    (h : Mirrors reading without) (probe : Probe (Logged β)) :
    (probe.run reading).1 = ((bare probe).run without).1 ∧
      bare (probe.run reading).2 = ((bare probe).run without).2 := by
  have hsame := h probe.memory
  simp only [Probe.run, bare, ← hsame]
  cases reading probe.memory <;> exact ⟨rfl, rfl⟩

variable [GuestMemory β]

/-- An attempt keeps to what a memory may be asked; where it faults at the bounds of a range, the
memory is not asked at all. -/
lemma asks_attempt (probe : Probe (Logged β)) (address size : UInt32) :
    Asks probe.memory (probe.attempt address size).state.memory address (Probe.touched size) ∧
      ∀ place count, (probe.attempt address size).value = .error (.outOfBounds place count) →
        (probe.attempt address size).state = probe := by
  by_cases haccepts : Probe.Accepts address size
  · obtain ⟨count, hcount, hlegal⟩ := haccepts.legal
    have hcalling := (calling_piecewise (β := β)).readRange haccepts
    have height : count.toNat ≤ 8 := by
      rw [hcount]
      exact Probe.touched_le_eight size
    refine ⟨?_, fun place count hbounds => ?_⟩
    · rw [← hcount] at hcalling ⊢
      exact hcalling.asks hlegal height probe
    · cases hcalling.kind_of_run hbounds
  · obtain ⟨count, hrefused⟩ := Probe.readRange_of_refused (β := Logged β) haccepts
    have hsame : (probe.attempt address size).state = probe := by
      simp only [Probe.attempt, Probe.run, hrefused]
    refine ⟨?_, fun _ _ _ => hsame⟩
    rw [hsame]
    exact Asks.refl _ _ _

/-- A double word is read likewise. -/
lemma asks_readDouble (probe : Probe (Logged β)) (address : UInt32) :
    Asks probe.memory (probe.run (Probe.readDouble address)).2.memory address 8 ∧
      ∀ place count, (probe.run (Probe.readDouble address)).1 = .error (.outOfBounds place count) →
        (probe.run (Probe.readDouble address)).2 = probe := by
  cases hrange : checkRange address 8 with
  | ok w =>
    rw [Probe.readDouble_of_checked hrange]
    have hcalling := (calling_piecewise (β := β)).readWords address
    refine ⟨hcalling.asks (legal_iff.mpr ⟨w, hrange⟩) (Nat.le_refl 8) probe, ?_⟩
    intro place count hbounds
    cases hcalling.kind_of_run hbounds
  | error fault =>
    have hsame : (probe.run (Probe.readDouble address)).2 = probe := by
      simp only [Probe.run, Probe.readDouble, Probe.requireRange_bind, hrange]
    refine ⟨?_, fun _ _ _ => hsame⟩
    rw [hsame]
    exact Asks.refl _ _ _

/-- A read asks the memory what the attempt does that it makes. -/
lemma memory_read (probe : Probe (Logged β)) (address size : UInt32) :
    (probe.read address size).state.memory = (probe.attempt address size).state.memory := by
  simp only [Probe.read]
  split <;> rfl

/-- **What a memory is asked for by checked reads**, whatever it answers and whenever it fails. Each
raw read is aligned to its width, and asks for bytes inside one window that are among those the
checked read touches; no address that is computed wraps; there are eight raw reads at most, and none
after one that failed. A range that is refused leaves the memory unasked, and is so when the check
refuses it. The log by which this is seen makes no difference to what is read.

**Proof sketch.** The memory does not enter into what a checked read asks for next, other than by a
failure, which ends it. What it asks for are pieces of a run of bytes, at addresses that might wrap.
The range checks make this run a legal one, in which no address does. -/
theorem reads_honour (probe : Probe (Logged β)) (address size : UInt32) :
    Asks probe.memory (probe.attempt address size).state.memory address (Probe.touched size) ∧
    Asks probe.memory (probe.read address size).state.memory address (Probe.touched size) ∧
    Asks probe.memory (probe.run (Probe.readDouble address)).2.memory address 8 ∧
    (∀ place count, (probe.attempt address size).value = .error (.outOfBounds place count) →
      (probe.attempt address size).state.memory = probe.memory ∧
        (probe.read address size).state.memory = probe.memory) ∧
    (∀ place count, (probe.run (Probe.readDouble address)).1 = .error (.outOfBounds place count) →
      (probe.run (Probe.readDouble address)).2.memory = probe.memory) ∧
    (∀ fault, checkRange address size = .error fault →
      (probe.attempt address size).value = .error fault ∧ fault = .outOfBounds address size) ∧
    (probe.attempt address size).value = ((bare probe).attempt address size).value ∧
    bare (probe.attempt address size).state = ((bare probe).attempt address size).state ∧
    (probe.run (Probe.readDouble address)).1 = ((bare probe).run (Probe.readDouble address)).1 ∧
    bare (probe.run (Probe.readDouble address)).2 =
      ((bare probe).run (Probe.readDouble address)).2 := by
  obtain ⟨hasks, hunasked⟩ := asks_attempt probe address size
  obtain ⟨hasks', hunasked'⟩ := asks_readDouble probe address
  have hsame := (mirrors_readRange address size).run probe
  have hsame' := (mirrors_readDouble address).run probe
  refine ⟨hasks, ?_, hasks', fun place count hbounds => ⟨?_, ?_⟩, fun place count hbounds => ?_,
    fun fault hrange => ⟨?_, checkRange_eq_error hrange⟩, hsame.1, hsame.2, hsame'.1, hsame'.2⟩
  · rw [memory_read]
    exact hasks
  · rw [hunasked place count hbounds]
  · rw [memory_read, hunasked place count hbounds]
  · rw [hunasked' place count hbounds]
  · simp only [Probe.attempt, Probe.run, Probe.readRange, Probe.requireRange_bind, hrange]

/-- A word across two others is asked for byte by byte, up to the byte that fails; eight bytes are
asked for as two words, of which the second one fails. The last three bytes of main memory are a
range, but the word that would be read there is not, and is not asked for. -/
theorem reads_honour_astride :
    let ram : Ram := { failing := [0x105] }
    let probe : Probe (Logged Ram) := ⟨⟨ram, []⟩, {}⟩
    (probe.attempt 0x102 4).state.memory.calls =
        [⟨0x102, 1, true⟩, ⟨0x103, 1, true⟩, ⟨0x104, 1, true⟩, ⟨0x105, 1, false⟩] ∧
      Asks probe.memory (probe.attempt 0x102 4).state.memory 0x102 4 ∧
      (probe.run (Probe.readDouble 0x100)).2.memory.calls =
        [⟨0x100, 4, true⟩, ⟨0x104, 4, false⟩] ∧
      Asks probe.memory (probe.run (Probe.readDouble 0x100)).2.memory 0x100 8 ∧
      (probe.attempt 0x1fffffd 3).value = .error (.outOfBounds 0x1fffffd 4) ∧
      (probe.attempt 0x1fffffd 3).state.memory = probe.memory := by
  intro ram probe
  have hbounds : (probe.attempt 0x1fffffd 3).value = .error (.outOfBounds 0x1fffffd 4) := rfl
  obtain ⟨-, -, -, hunasked, -⟩ := reads_honour probe 0x1fffffd 3
  exact ⟨rfl, (reads_honour probe 0x102 4).1, rfl, (reads_honour probe 0x100 8).2.2.1, hbounds,
    (hunasked _ _ hbounds).1⟩

end Logged

end GuestWatch
