import GuestWatch.Proofs.Monitor.Charges

set_option relaxedAutoImplicit false
set_option autoImplicit false

/-!
# What the rules of a game see

The rules of a loaded game read memory byte by byte, each one through the checks of a read, and
whatever cannot be read is zero to them. Nothing stops them: a buffer is filled to its end, over the
ends of the windows and past the last address, where it goes on with the first. What this leaves
behind can be told from the addresses alone: one raw read for each that is mapped, and one fault for
each whose byte cannot be fetched.

## Main definitions

* `GuestWatch.placesFrom` — the addresses of a buffer.
* `GuestWatch.Ram.shown` — the byte that the rules see at an address.
* `GuestWatch.Monitor.Fills` — what filling a buffer leaves behind.
* `GuestWatch.Monitor.misses` — where a byte cannot be fetched, by the kind of the fault.

## Main results

* `GuestWatch.Ram.look_one` — a byte is read in one of three ways.
* `GuestWatch.Monitor.fills_peekRun` — bytes that are read one after the other.
* `GuestWatch.Monitor.tally_peekRun` — what is charged for those that are missed.
* `GuestWatch.Monitor.peekBytes_exact` — what filling a buffer does, with and without a game.
-/

namespace GuestWatch

/-- The `count` addresses from one on. After the last address comes the first again. -/
def placesFrom (address : UInt32) (count : Nat) : List UInt32 :=
  (List.range count).map fun i => UInt32.ofNat (address.toNat + i)

/-- Whether something is mapped at an address. -/
def isMapped (place : UInt32) : Bool := (Window.of? place).isSome

lemma placesFrom_eq (address : UInt32) (count : Nat) :
    placesFrom address count = (List.range count).map fun i => address + UInt32.ofNat i := by
  simp only [placesFrom, UInt32.ofNat_add, UInt32.ofNat_toNat]

lemma placesFrom_succ (address : UInt32) (count : Nat) :
    placesFrom address (count + 1) = address :: placesFrom (address + 1) count := by
  simp [placesFrom_eq, List.range_succ_eq_map, Ram.next_offset, Function.comp_def]

/-- The range of one byte is accepted where something is mapped. -/
lemma checkRange_one (place : UInt32) :
    checkRange place 1 = match Window.of? place with
      | some w => .ok w
      | none => .error (.outOfBounds place 1) := by
  have hok : ∀ w, checkRange place 1 = .ok w ↔ Window.of? place = some w := by
    intro w
    have hone : (1 : UInt32).toNat = 1 := rfl
    rw [checkRange_eq_ok_iff, Window.of?_eq_some_iff, Window.contains_iff]
    omega
  cases howner : Window.of? place with
  | some w => exact (hok w).mpr howner
  | none =>
    refine checkRange_eq_error_iff.mpr fun w hw => ?_
    rw [(hok w).mp hw] at howner
    cases howner

namespace Ram

instance (ram : Ram) (place : UInt32) : Decidable (ram.Readable place) :=
  inferInstanceAs (Decidable (_ ∧ _))

/-- The byte that the rules see at an address: the one in memory, or zero where it cannot be
fetched. -/
def shown (ram : Ram) (place : UInt32) : UInt8 := if ram.Readable place then ram.byteAt place else 0

/-- A raw read of one byte fetches it. -/
lemma readByte_apply (ram : Ram) (place : UInt32) :
    (Probe.readByte place : Reading Ram UInt8) ram =
      match ram.fetch place with
      | .ok b => .ok b ram.countRead
      | .error e => .error (.readFailure place 1 e) ram.countRead := by
  simp only [Probe.readByte, GuestMemory.readByte, adaptExcept_apply, Functor.map, EStateM.map,
    rawRead, fetchRun]
  cases ram.fetch place with
  | ok b => simp [ofLittleEndian]
  | error e => rfl

/-- The checked read of one byte fetches it where something is mapped. Elsewhere no raw read is
made. -/
lemma readRange_one (ram : Ram) (place : UInt32) :
    Probe.readRange place 1 ram =
      if isMapped place then
        match ram.fetch place with
        | .ok b => .ok b.toUInt32 ram.countRead
        | .error e => .error (.readFailure place 1 e) ram.countRead
      else .error (.outOfBounds place 1) ram := by
  rw [Probe.readRange, Probe.requireRange_bind, checkRange_one, isMapped]
  cases howner : Window.of? place with
  | none => rfl
  | some w =>
    simp only [Option.isSome_some, if_true, Functor.map, EStateM.map, readByte_apply]
    cases ram.fetch place <;> rfl

/-- A byte can be fetched where something is mapped that does not fail. -/
lemma readable_iff {ram : Ram} {place : UInt32} :
    ram.Readable place ↔ place ∉ ram.failing ∧ isMapped place = true := Iff.rfl

/-- What is fetched where something is mapped. -/
lemma fetch_of_mapped (ram : Ram) {place : UInt32} (h : isMapped place = true) :
    ram.fetch place =
      if ram.Readable place then .ok (ram.byteAt place) else .error (.deviceFault place) := by
  have howned : (Window.of? place).isSome = true := h
  by_cases hfails : place ∈ ram.failing <;> simp [fetch, readable_iff, h, howned, hfails]

/-- What the checked read of one byte answers. -/
lemma look_one (ram : Ram) (place : UInt32) :
    ram.look place 1 =
      if ram.Readable place then .ok (ram.byteAt place).toUInt32
      else if isMapped place then .error (.readFailure place 1 (.deviceFault place))
      else .error (.outOfBounds place 1) := by
  rw [look, Probe.attempt, Probe.run_fst, readRange_one]
  by_cases hmapped : isMapped place = true
  · rw [if_pos hmapped, if_pos hmapped, fetch_of_mapped ram hmapped]
    by_cases hreadable : ram.Readable place
    · rw [if_pos hreadable, if_pos hreadable]
      rfl
    · rw [if_neg hreadable, if_neg hreadable]
      rfl
  · have hreadable : ¬ram.Readable place := fun h => hmapped h.2
    rw [if_neg hmapped, if_neg hreadable, if_neg hmapped]
    rfl

/-- How many raw reads the checked read of one byte makes. -/
lemma after_readRange_one (ram : Ram) (place : UInt32) :
    after (Probe.readRange place 1 ram) =
      { ram with rawReads := ram.rawReads + if isMapped place then 1 else 0 } := by
  rw [readRange_one]
  by_cases hmapped : isMapped place = true
  · rw [if_pos hmapped, if_pos hmapped]
    cases ram.fetch place <;> rfl
  · rw [if_neg hmapped, if_neg hmapped]
    rfl

end Ram

namespace Monitor

variable {m : Monitor}

/-! ## One byte -/

/-- A read through the probe answers what a look sees, and zero for a fault. -/
lemma value_read (m : Monitor) (address size : UInt32) :
    (m.read address size).value = match m.ram.look address size with
      | .ok value => value
      | .error _ => 0 := by
  have hlook : (m.probe.attempt address size).value = m.ram.look address size :=
    m.probe.attempt_value address size
  simp only [read, Probe.read, ← hlook]
  cases (m.probe.attempt address size).value <;> rfl

/-- A read through the probe changes what the memory counts, and the counters. -/
lemma state_read (m : Monitor) (address size : UInt32) : ∃ tally, (m.read address size).state =
    { m with ram := Ram.after (Probe.readRange address size m.ram), tally } := by
  have hmemory : (m.probe.attempt address size).state.memory =
      Ram.after (Probe.readRange address size m.ram) := m.probe.run_memory _
  simp only [read, Probe.read, withProbe, ← hmemory]
  cases (m.probe.attempt address size).value <;> exact ⟨_, rfl⟩

/-- The byte that is read for the rules is the one shown to them. -/
lemma value_peek (hbridged : m.bridged = true) (place : UInt32) :
    (m.peek place).value = m.ram.shown place := by
  simp only [peek, hbridged, if_true, value_read, Ram.look_one, Ram.shown]
  by_cases hreadable : m.ram.Readable place
  · simp only [if_pos hreadable, UInt8.toUInt8_toUInt32]
  · by_cases hmapped : isMapped place = true <;> simp only [if_neg hreadable, hmapped] <;> rfl

/-- Reading a byte for the rules is counted where something is mapped, and changes nothing else but
the counters. -/
lemma state_peek (hbridged : m.bridged = true) (place : UInt32) :
    ∃ tally, (m.peek place).state = { m with
      ram := { m.ram with rawReads := m.ram.rawReads + if isMapped place then 1 else 0 }, tally } := by
  obtain ⟨tally, hread⟩ := state_read m place 1
  refine ⟨tally, ?_⟩
  simp only [peek, hbridged, if_true, hread, Ram.after_readRange_one]

/-! ## Filling a buffer -/

/-- The bytes at some places were read for the rules: each is the byte shown there, one raw read was
made for each place that is mapped, and nothing else is changed but the counters. -/
structure Fills (m : Monitor) (places : List UInt32) (filled : Outcome Monitor (List UInt8)) :
    Prop where
  /-- The bytes are those that are shown. -/
  bytes : filled.value = places.map m.ram.shown
  /-- The rest stays. -/
  frame : ∃ tally, filled.state = { m with
    ram := { m.ram with rawReads := m.ram.rawReads + places.countP isMapped }, tally }

/-- **Bytes that are read one after the other** fill the buffer with what is shown.

**Proof sketch.** By induction on the number of bytes. Reading one leaves the game, and the bytes and
failures of the memory, on which what is shown depends. -/
theorem fills_peekRun (address : UInt32) (count : Nat) (hbridged : m.bridged = true) :
    Fills m (placesFrom address count) (peekRun address count m) := by
  induction count generalizing address m with
  | zero => exact ⟨rfl, m.tally, rfl⟩
  | succ count ih =>
    obtain ⟨first, hfirst⟩ := state_peek hbridged address
    have hbridged' : (m.peek address).state.bridged = true := by
      rw [hfirst]
      exact hbridged
    obtain ⟨hbytes, last, hlast⟩ := ih (address + 1) hbridged'
    rw [placesFrom_succ]
    constructor
    · have hshown : (m.peek address).state.ram.shown = m.ram.shown := by
        rw [hfirst]
        rfl
      rw [peekRun, hbytes, value_peek hbridged, hshown, List.map_cons]
    · refine ⟨last, ?_⟩
      rw [peekRun, hlast, hfirst, List.countP_cons, Nat.add_comm (List.countP _ _), Nat.add_assoc]

/-! ## Faults -/

/-- Whether the byte at an address is missed by the rules under a kind of fault: under its bounds where
nothing is mapped, as a read where something is mapped that fails. -/
def misses (ram : Ram) (k : FaultKind) (place : UInt32) : Bool :=
  match k with
  | .bounds => !isMapped place
  | .read => isMapped place && ram.failing.contains place
  | .header | .configuration => false

/-- The fault of a byte is of the kind under which it is missed. -/
lemma countP_faultsOf_look (ram : Ram) (k : FaultKind) (place : UInt32) :
    (faultsOf (ram.look place 1)).countP (fun fault => fault.kind = k) =
      if misses ram k place then 1 else 0 := by
  rw [Ram.look_one]
  by_cases hmapped : isMapped place = true <;> by_cases hfails : place ∈ ram.failing <;>
    cases k <;> simp [Ram.readable_iff, hmapped, hfails, misses, faultsOf, Fault.kind]

/-- The faults of bytes at some places are counted by the places where they are missed. -/
lemma countP_faults (ram : Ram) (k : FaultKind) (places : List UInt32) :
    (places.flatMap fun place => faultsOf (ram.look place 1)).countP (fun fault => fault.kind = k) =
      places.countP (misses ram k) := by
  induction places with
  | nil => rfl
  | cons place rest ih =>
    rw [List.flatMap_cons, List.countP_append, List.countP_cons, countP_faultsOf_look, ih,
      Nat.add_comm]

/-- Each counter is raised by the number of bytes that are missed under its kind. -/
lemma count_peekRun (address : UInt32) (count : Nat) (hbridged : m.bridged = true) (k : FaultKind) :
    ((peekRun address count m).state.tally.count k).toNat =
      clampAdd (m.tally.count k) ((placesFrom address count).countP (misses m.ram k)) := by
  rw [(raised_peekRun address count hbridged).count, ← countP_faults, placesFrom_eq,
    List.flatMap_map]
  rfl

/-- A counter stays as it is where no byte can be missed under its kind. -/
lemma count_peekRun_of_never (address : UInt32) (count : Nat) (hbridged : m.bridged = true)
    (k : FaultKind) (hnever : ∀ place, misses m.ram k place = false) :
    (peekRun address count m).state.tally.count k = m.tally.count k := by
  have hnone : (placesFrom address count).countP (misses m.ram k) = 0 :=
    List.countP_eq_zero.mpr fun place _ => Bool.eq_false_iff.mp (hnever place)
  have hcount := count_peekRun address count hbridged k
  rw [hnone, clampAdd_zero] at hcount
  exact UInt32.toNat_inj.mp hcount

/-- Charging the bytes that are missed changes the two counters of such faults, and the last fault.
-/
lemma tally_peekRun (address : UInt32) (count : Nat) (hbridged : m.bridged = true) :
    ∃ lastKind lastAddress bounds read, (peekRun address count m).state.tally =
        { m.tally with lastKind, lastAddress, bounds, read } ∧
      bounds.toNat = clampAdd m.tally.bounds
        ((placesFrom address count).countP (misses m.ram .bounds)) ∧
      read.toNat = clampAdd m.tally.read
        ((placesFrom address count).countP (misses m.ram .read)) := by
  have hraised := raised_peekRun address count hbridged
  have hbounds := count_peekRun address count hbridged .bounds
  have hread := count_peekRun address count hbridged .read
  have hheader : (peekRun address count m).state.tally.header = m.tally.header :=
    count_peekRun_of_never address count hbridged .header fun _ => rfl
  have hconfiguration :
      (peekRun address count m).state.tally.configuration = m.tally.configuration :=
    count_peekRun_of_never address count hbridged .configuration fun _ => rfl
  have hdeactivated : (peekRun address count m).state.tally.deactivated = m.tally.deactivated :=
    UInt32.toNat_inj.mp (hraised.deactivated.trans (clampAdd_zero _))
  have hdenied : (peekRun address count m).state.tally.denied = m.tally.denied :=
    UInt32.toNat_inj.mp (hraised.denied.trans (clampAdd_zero _))
  -- field by field: the four that are named, and four that stay
  generalize (peekRun address count m).state.tally = after at *
  refine ⟨after.lastKind, after.lastAddress, after.bounds, after.read, ?_, hbounds, hread⟩
  show after = ⟨_, _, _, _, m.tally.header, m.tally.configuration, m.tally.deactivated,
    m.tally.denied⟩
  rw [← hheader, ← hconfiguration, ← hdeactivated, ← hdenied]

/-! ## A buffer of the rules -/

/-- **What filling a buffer does** for the rules of a loaded game, wherever the buffer starts and
however long it is. Every byte is filled. It is the byte in memory at its address, after the last
address at the first again, if something is mapped there that does not fail, and zero otherwise.

Of the state,

* the raw reads grow by the number of mapped addresses;
* the bounds faults grow by the number of addresses where nothing is mapped, the read faults by the
  number of those that are mapped and fail, each up to the greatest word;
* the last fault may be another one, and nothing else is changed. Nobody is called.

Without a game, or while the monitor is not started, nothing happens: no byte is filled or read.

**Proof sketch.** By induction on the number of bytes, twice: for what is filled, and for what is
charged. One byte is read in one of three ways, as its address is readable, failing or not mapped. -/
theorem peekBytes_exact (m : Monitor) (address : UInt32) (buffer : List UInt8) :
    let places := placesFrom address buffer.length
    let filled := m.peekBytes address buffer
    (m.active = true ∧ m.game ≠ none →
      filled.value = (buffer.length, places.map m.ram.shown) ∧
      (∃ lastKind lastAddress bounds read,
        filled.state = { m with
          ram := { m.ram with rawReads := m.ram.rawReads + places.countP isMapped }
          tally := { m.tally with lastKind, lastAddress, bounds, read } } ∧
        bounds.toNat = clampAdd m.tally.bounds (places.countP (misses m.ram .bounds)) ∧
        read.toNat = clampAdd m.tally.read (places.countP (misses m.ram .read))) ∧
      filled.journal.Plain) ∧
    (m.active = false ∨ m.game = none → filled = ⟨(0, buffer), m, {}⟩) := by
  intro places filled
  constructor
  · rintro ⟨hactive, hgame⟩
    have hbridged : m.bridged = true := by
      rw [bridged, hactive, Option.isSome_iff_ne_none.mpr hgame]
      rfl
    obtain ⟨hbytes, tally, hstate⟩ := fills_peekRun address buffer.length hbridged
    obtain ⟨lastKind, lastAddress, bounds, read, htally, hbounds, hread⟩ :=
      tally_peekRun address buffer.length hbridged
    have hfilled : filled = ⟨(buffer.length, (peekRun address buffer.length m).value),
        (peekRun address buffer.length m).state, (peekRun address buffer.length m).journal⟩ := by
      simp only [filled, peekBytes, hbridged, if_true]
    rw [hfilled]
    refine ⟨?_, ⟨lastKind, lastAddress, bounds, read, ?_, hbounds, hread⟩,
      plain_peekRun address buffer.length m⟩
    · rw [hbytes]
    · rw [← htally, hstate]
  · intro hblind
    have hbridged : m.bridged = false := by
      rcases hblind with hactive | hgame
      · rw [bridged, hactive, Bool.false_and]
      · rw [bridged, hgame, Option.isSome_none, Bool.and_false]
    simp only [filled, peekBytes, hbridged]
    rfl

/-- A monitor with a game. The memory starts with three bytes, of which the second fails, and the
counter of bounds faults is one short of the greatest word. -/
def bridging : Monitor where
  ram := (({} : Ram).poke 0 [7, 8, 9]).failAt 1
  tally := { bounds := 0xFFFFFFFE }
  active := true
  game := some "SLUS-20312"

/-- Five bytes from the last but one address on: the two that are not mapped bring their counter to
its end, and the buffer goes on with the first byte of memory. Without the game no byte is filled. -/
theorem peekBytes_exact_around :
    let filled := bridging.peekBytes 0xFFFFFFFE [1, 2, 3, 4, 5]
    filled.value = (5, [0, 0, 7, 0, 9]) ∧ filled.state.ram.rawReads = 3 ∧
      filled.state.tally.bounds.toNat = UInt32.size - 1 ∧ filled.state.tally.read.toNat = 1 ∧
      { bridging with game := none }.peekBytes 0xFFFFFFFE [1, 2, 3, 4, 5] =
        ⟨(0, [1, 2, 3, 4, 5]), { bridging with game := none }, {}⟩ := by
  intro filled
  obtain ⟨hvalue, ⟨_, _, _, _, hstate, hbounds, hread⟩, -⟩ :=
    (peekBytes_exact bridging 0xFFFFFFFE [1, 2, 3, 4, 5]).1 (by decide)
  have hblind := (peekBytes_exact { bridging with game := none } 0xFFFFFFFE [1, 2, 3, 4, 5]).2
    (Or.inr rfl)
  have hstate : filled.state = _ := hstate
  refine ⟨hvalue.trans (by decide), ?_, ?_, ?_, hblind⟩
  · rw [hstate]
    show bridging.ram.rawReads + (placesFrom 0xFFFFFFFE 5).countP isMapped = 3
    decide
  · rw [hstate]
    exact hbounds.trans (by decide)
  · rw [hstate]
    exact hread.trans (by decide)

end Monitor

end GuestWatch
