import GuestWatch.Fault.Tally
import Mathlib.Data.List.Basic
import Mathlib.Tactic.Lemma

set_option relaxedAutoImplicit false
set_option autoImplicit false

/-!
# What raises the fault counters

The counters stop at the greatest word, one step at a time. All the same they tell how much was
charged to them in all: a counter that is raised again and again is the exact sum, clamped once.

## Main definitions

* `GuestWatch.clampAdd` — a counter and a number of further counts, exact and clamped once.
* `GuestWatch.Charges` — what is charged: faults, watches that ended and refused uses of a save
  state.
* `GuestWatch.Tally.Raised` — the counters after charges.
* `GuestWatch.Tally.counted` — the exact sum of the counters of the four kinds.

## Main results

* `GuestWatch.Tally.Raised.append` — charging twice is charging all of it.
* `GuestWatch.Tally.raised_record`, `GuestWatch.Tally.raised_countEnded`,
  `GuestWatch.Tally.raised_countDenied` — the three ways to charge.
* `GuestWatch.Tally.Raised.toNat_total` — the total after charges counts every fault.
* `GuestWatch.Tally.Raised.since_reset` — what the counters tell from a reset on.
* `GuestWatch.Tally.counters_exact` — the counters after a list of faults.
-/

namespace GuestWatch

/-- The exact sum of a counter and a number of further counts, clamped to the greatest word. -/
def clampAdd (counter : UInt32) (count : Nat) : Nat :=
  min (UInt32.size - 1) (counter.toNat + count)

@[simp] lemma clampAdd_zero (counter : UInt32) : clampAdd counter 0 = counter.toNat := by
  have hlt : counter.toNat < UInt32.size := counter.toNat_lt
  unfold clampAdd
  omega

/-- Clamping on the way comes to the same as clamping in the end. -/
lemma clampAdd_clampAdd {counter middle : UInt32} {first : Nat}
    (h : middle.toNat = clampAdd counter first) (second : Nat) :
    clampAdd middle second = clampAdd counter (first + second) := by
  unfold clampAdd at h ⊢
  omega

/-- The parts of a sum may be clamped before the sum is. -/
lemma min_add_min (limit a b : Nat) :
    min limit (min limit a + min limit b) = min limit (a + b) := by
  omega

/-- One more count saturates. -/
lemma toNat_satAdd_one (counter : UInt32) : (Word.satAdd counter 1).toNat = clampAdd counter 1 :=
  Word.toNat_satAdd counter 1

/-! ## Faults -/

/-- Only a header fault refers to no address. -/
lemma Fault.address?_eq_none_iff {fault : Fault} : fault.address? = none ↔ fault.kind = .header := by
  cases fault <;> simp [address?, kind]

/-- Each fault is of one of the four kinds. -/
lemma length_eq_kinds (faults : List Fault) :
    faults.length = faults.countP (fun fault => fault.kind = .bounds) +
      faults.countP (fun fault => fault.kind = .read) +
      faults.countP (fun fault => fault.kind = .configuration) +
      faults.countP (fun fault => fault.kind = .header) := by
  induction faults with
  | nil => rfl
  | cons fault rest ih =>
    simp only [List.length_cons, List.countP_cons, ih]
    cases hkind : fault.kind <;> simp <;> omega

/-! ## Charges -/

/-- What is charged to the fault counters. -/
structure Charges where
  /-- The faults, in their order. -/
  faults : List Fault := []
  /-- How many watches ended. -/
  ended : Nat := 0
  /-- How many uses of a save state were refused. -/
  denied : Nat := 0

namespace Charges

/-- One after the other. -/
def append (a b : Charges) : Charges :=
  ⟨a.faults ++ b.faults, a.ended + b.ended, a.denied + b.denied⟩

instance : Append Charges := ⟨append⟩

@[simp] lemma faults_append (a b : Charges) : (a ++ b).faults = a.faults ++ b.faults := rfl

@[simp] lemma ended_append (a b : Charges) : (a ++ b).ended = a.ended + b.ended := rfl

@[simp] lemma denied_append (a b : Charges) : (a ++ b).denied = a.denied + b.denied := rfl

/-- How many of the charged faults are of a kind. -/
def count (c : Charges) (k : FaultKind) : Nat := c.faults.countP fun fault => fault.kind = k

@[simp] lemma count_append (a b : Charges) (k : FaultKind) :
    (a ++ b).count k = a.count k + b.count k :=
  List.countP_append

end Charges

namespace Tally

/-- The counters of one tally are those of another, raised by charges; the last fault is the last
one charged, if there was any. -/
structure Raised (t : Tally) (charges : Charges) (t' : Tally) : Prop where
  /-- Each kind of fault is counted. -/
  count : ∀ k, (t'.count k).toNat = clampAdd (t.count k) (charges.count k)
  /-- Watches that ended are counted. -/
  deactivated : t'.deactivated.toNat = clampAdd t.deactivated charges.ended
  /-- Refused uses of a save state are counted. -/
  denied : t'.denied.toNat = clampAdd t.denied charges.denied
  /-- The last fault is remembered. -/
  last : (t'.lastKind, t'.lastAddress) =
    match charges.faults.getLast? with
    | none => (t.lastKind, t.lastAddress)
    | some fault => (some fault.kind, fault.address?)

/-- Nothing is charged. -/
lemma Raised.refl (t : Tally) : t.Raised {} t :=
  ⟨fun _ => (clampAdd_zero _).symm, (clampAdd_zero _).symm, (clampAdd_zero _).symm, rfl⟩

/-- **Charging twice is charging all of it**, wherever the counters stop on the way. -/
lemma Raised.append {t t' t'' : Tally} {charges charges' : Charges} (h : t.Raised charges t')
    (h' : t'.Raised charges' t'') : t.Raised (charges ++ charges') t'' := by
  constructor
  · intro k
    rw [h'.count, clampAdd_clampAdd (h.count k), Charges.count_append]
  · rw [h'.deactivated, clampAdd_clampAdd h.deactivated, Charges.ended_append]
  · rw [h'.denied, clampAdd_clampAdd h.denied, Charges.denied_append]
  · rw [h'.last, Charges.faults_append, List.getLast?_append]
    cases charges'.faults.getLast? with
    | none => exact h.last
    | some fault => rfl

/-- Recording a fault charges it. -/
lemma raised_record (t : Tally) (fault : Fault) : t.Raised { faults := [fault] } (t.record fault) := by
  constructor
  · intro k
    rw [count_record]
    by_cases hkind : fault.kind = k
    · rw [if_pos hkind, toNat_satAdd_one]
      simp [Charges.count, hkind]
    · rw [if_neg hkind]
      simp [Charges.count, hkind]
  · cases hkind : fault.kind <;> simp [record, countUp, hkind]
  · cases hkind : fault.kind <;> simp [record, countUp, hkind]
  · rfl

/-- Counting a watch that was given up charges it. -/
lemma raised_countEnded (t : Tally) : t.Raised { ended := 1 } t.countEnded := by
  refine ⟨fun k => ?_, toNat_satAdd_one t.deactivated, (clampAdd_zero _).symm, rfl⟩
  cases k <;> exact (clampAdd_zero _).symm

/-- Counting a refused use of a save state charges it. -/
lemma raised_countDenied (t : Tally) : t.Raised { denied := 1 } t.countDenied := by
  refine ⟨fun k => ?_, (clampAdd_zero _).symm, toNat_satAdd_one t.denied, rfl⟩
  cases k <;> exact (clampAdd_zero _).symm

/-! ## Lists of faults -/

/-- Recording faults one after the other charges them. -/
lemma raised_foldl_record (t : Tally) (faults : List Fault) :
    t.Raised { faults } (faults.foldl record t) := by
  induction faults generalizing t with
  | nil => exact Raised.refl t
  | cons fault rest ih => exact (raised_record t fault).append (ih _)

/-- The exact sum of the counters of the four kinds. -/
def counted (t : Tally) : Nat :=
  t.bounds.toNat + t.read.toNat + t.header.toNat + t.configuration.toNat

/-- The total is the exact sum of the counters, clamped once. -/
lemma toNat_total (t : Tally) : t.total.toNat = min (UInt32.size - 1) t.counted := by
  simp only [total, counted, Word.toNat_satAdd]
  omega

variable {t u u' : Tally} {charges charges' : Charges}

/-- **The total after charges counts every fault**, also those that a full counter did not: when one
counter is full, so is the total. -/
lemma Raised.toNat_total (h : t.Raised charges u) :
    u.total.toNat = min (UInt32.size - 1) (t.counted + charges.faults.length) := by
  have hbounds : u.bounds.toNat = clampAdd t.bounds _ := h.count .bounds
  have hread : u.read.toNat = clampAdd t.read _ := h.count .read
  have hheader : u.header.toNat = clampAdd t.header _ := h.count .header
  have hconfiguration : u.configuration.toNat = clampAdd t.configuration _ := h.count .configuration
  rw [Tally.toNat_total, counted, hbounds, hread, hheader, hconfiguration, Nat.add_assoc,
    ← min_add_min]
  simp only [clampAdd, Charges.count, min_add_min]
  rw [counted, length_eq_kinds]
  congr 1
  omega

/-- **From a reset on the counters tell what was charged since**, up to the greatest word. -/
theorem Raised.since_reset (h : t.reset.Raised charges u) :
    (∀ k, (u.count k).toNat = min (UInt32.size - 1) (charges.count k)) ∧
      u.deactivated.toNat = min (UInt32.size - 1) charges.ended ∧
      u.denied.toNat = min (UInt32.size - 1) charges.denied ∧
      u.total.toNat = min (UInt32.size - 1) charges.faults.length := by
  have hclamp : ∀ count, clampAdd 0 count = min (UInt32.size - 1) count := by
    intro count
    simp [clampAdd]
  refine ⟨fun k => ?_, ?_, ?_, ?_⟩
  · rw [h.count, count_reset, hclamp]
  · rw [h.deactivated]
    exact hclamp _
  · rw [h.denied]
    exact hclamp _
  · have hcounted : t.reset.counted = 0 := rfl
    rw [h.toNat_total, hcounted, Nat.zero_add]

/-- No charge lowers the total. -/
lemma Raised.total_le (h : t.Raised charges u) : t.total ≤ u.total := by
  rw [UInt32.le_iff_toNat_le, h.toNat_total, Tally.toNat_total]
  omega

/-- Charges that hold as much of everything leave the same counters; only the last fault may be
another one. -/
lemma Raised.eq_of_count (h : t.Raised charges u) (h' : t.Raised charges' u')
    (hcount : ∀ k, charges.count k = charges'.count k) (hended : charges.ended = charges'.ended)
    (hdenied : charges.denied = charges'.denied) :
    { u with lastKind := u'.lastKind, lastAddress := u'.lastAddress } = u' := by
  have hkind : ∀ k, u.count k = u'.count k := by
    intro k
    rw [← UInt32.toNat_inj, h.count, h'.count, hcount]
  have hdeactivated : u.deactivated = u'.deactivated := by
    rw [← UInt32.toNat_inj, h.deactivated, h'.deactivated, hended]
  have hrefused : u.denied = u'.denied := by
    rw [← UInt32.toNat_inj, h.denied, h'.denied, hdenied]
  have hbounds : u.bounds = u'.bounds := hkind .bounds
  have hread : u.read = u'.read := hkind .read
  have hheader : u.header = u'.header := hkind .header
  have hconfiguration : u.configuration = u'.configuration := hkind .configuration
  rw [hbounds, hread, hheader, hconfiguration, hdeactivated, hrefused]

/-- **The counters after a list of faults are exact counts, clamped once.** Whatever the counters
are at the start, after the faults of a list are recorded one by one

* the counter of each kind is the one at the start and the number of faults of that kind, up to the
  greatest word;
* the last fault is the last one of the list, whose address is missing exactly when it is a header
  fault, or the one at the start if the list is empty;
* the watches given up and the refused uses of a save state are counted as at the start;
* the total is the exact sum of the four counters, up to the greatest word, and this is the sum at
  the start and the number of all faults.

The same faults in another order leave the same counters, with at most another last fault, and the
total never falls from one fault to a later one.

**Proof sketch.** Clamping at each step comes to clamping in the end, for one counter as for the sum
of four. -/
theorem counters_exact (t : Tally) (faults : List Fault) :
    let t' := faults.foldl record t
    (∀ k, (t'.count k).toNat =
      min (UInt32.size - 1) ((t.count k).toNat + faults.countP fun fault => fault.kind = k)) ∧
    (faults = [] → t'.lastKind = t.lastKind ∧ t'.lastAddress = t.lastAddress) ∧
    (∀ fault, faults.getLast? = some fault → t'.lastKind = some fault.kind ∧
      t'.lastAddress = fault.address? ∧ (t'.lastAddress = none ↔ fault.kind = .header)) ∧
    t'.deactivated = t.deactivated ∧ t'.denied = t.denied ∧
    t'.total.toNat = min (UInt32.size - 1)
      (t'.bounds.toNat + t'.read.toNat + t'.header.toNat + t'.configuration.toNat) ∧
    t'.total.toNat = min (UInt32.size - 1) (t.counted + faults.length) ∧
    (∀ other : List Fault, other.Perm faults →
      { other.foldl record t with lastKind := t'.lastKind, lastAddress := t'.lastAddress } = t') ∧
    ∀ earlier, earlier <+: faults → (earlier.foldl record t).total ≤ t'.total := by
  intro t'
  have hraised : t.Raised { faults } t' := raised_foldl_record t faults
  refine ⟨hraised.count, ?_, fun fault hlast => ?_, ?_, ?_, t'.toNat_total, hraised.toNat_total,
    fun other hperm => ?_, ?_⟩
  · rintro rfl
    exact ⟨rfl, rfl⟩
  · have hfields : (t'.lastKind, t'.lastAddress) = (some fault.kind, fault.address?) := by
      rw [hraised.last, hlast]
    obtain ⟨hkind, haddress⟩ := Prod.mk.inj hfields
    exact ⟨hkind, haddress, by rw [haddress, Fault.address?_eq_none_iff]⟩
  · rw [← UInt32.toNat_inj, hraised.deactivated, clampAdd_zero]
  · rw [← UInt32.toNat_inj, hraised.denied, clampAdd_zero]
  · exact (raised_foldl_record t other).eq_of_count hraised (fun k => hperm.countP_eq _) rfl rfl
  · rintro earlier ⟨later, rfl⟩
    have hlater := raised_foldl_record (earlier.foldl record t) later
    rw [← List.foldl_append] at hlater
    exact hlater.total_le

/-- Counters of which one is full and another one nearly. -/
def brimming : Tally := { bounds := 0xfffffffe, read := 3, header := 0xffffffff, denied := 2 }

/-- A header fault, two bounds faults and a failed read. -/
def flurry : List Fault :=
  [.headerInvalid (.badMagic 7), .outOfBounds 0 0, .outOfBounds 0x2000000 4,
    .readFailure 0x10 4 (.unmapped 0x10)]

/-- After `flurry` two counters of `brimming` are full, and the total with them. In the reverse
order the header fault is the last one: the counters are the same, and the last fault has no
address. -/
theorem counters_exact_brimming :
    let t' := flurry.foldl record brimming
    let other := flurry.reverse.foldl record brimming
    t'.bounds.toNat = 0xffffffff ∧ t'.read.toNat = 4 ∧ t'.total.toNat = 0xffffffff ∧
      flurry.getLast? = some (.readFailure 0x10 4 (.unmapped 0x10)) ∧ t'.lastAddress = some 0x10 ∧
      t'.denied = 2 ∧ flurry.reverse.Perm flurry ∧
      { other with lastKind := t'.lastKind, lastAddress := t'.lastAddress } = t' ∧
      flurry.reverse.getLast? = some (.headerInvalid (.badMagic 7)) ∧ other.lastAddress = none ∧
      flurry.take 2 <+: flurry ∧ ((flurry.take 2).foldl record brimming).total ≤ t'.total := by
  intro t' other
  obtain ⟨hcount, -, hlast, -, hdenied, -, htotal, horder, hprefix⟩ :=
    counters_exact brimming flurry
  obtain ⟨-, -, hlast', -⟩ := counters_exact brimming flurry.reverse
  have hperm : flurry.reverse.Perm flurry := flurry.reverse_perm
  have htake : flurry.take 2 <+: flurry := flurry.take_prefix 2
  refine ⟨hcount .bounds, hcount .read, htotal, rfl, (hlast _ rfl).2.1, hdenied, hperm,
    horder _ hperm, rfl, (hlast' _ rfl).2.2.mpr rfl, htake, hprefix _ htake⟩

end Tally

end GuestWatch
