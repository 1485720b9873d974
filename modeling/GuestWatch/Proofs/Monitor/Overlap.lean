import GuestWatch.Proofs.Address
import GuestWatch.Proofs.Monitor.Tables
import GuestWatch.Proofs.Regions
import GuestWatch.Proofs.Watch.Verdicts

set_option relaxedAutoImplicit false
set_option autoImplicit false

/-!
# Ranges that share an address

Write notices, queries of the ledger, the eviction of regions and the protection of addresses all
compare two ranges in the same way: each must start before the other ends. Between ranges that hold
a byte this says that they share an address. A range without a byte shares no address with any
other, and yet it passes for overlapping one inside which it lies, unless it lies at the edge: it
splits the other in two. No table holds such a range, so the difference shows only where the host
asks about one. A write notice of no bytes then reads a watch again that it falls into, and a query
of no bytes finds the records that it falls into.

## Main definitions

* `GuestWatch.Share` — two ranges have an address in common.
* `GuestWatch.Splits` — a range without a byte lies inside another.
* `GuestWatch.Filled` — every entry of the tables holds a byte.
* `GuestWatch.RespondTo` — which watches and records a write notice and the queries are about.

## Main results

* `GuestWatch.rangesOverlap_iff_share_or_splits` — when two ranges pass for overlapping.
* `GuestWatch.Monitor.Reachable.filled` — the tables of a reachable monitor are filled.
* `GuestWatch.overlap_shares` — what responds to a range of at least a byte shares an address with
  it.
* `GuestWatch.overlap_unshared_stocked` — what responds to a range of no bytes shares none.
-/

namespace GuestWatch

/-! ## Two ranges -/

/-- Two ranges have an address in common. -/
def Share (a aSize b bSize : UInt32) : Prop := ∃ x, Holds a aSize x ∧ Holds b bSize x

/-- The first range has no byte and starts inside the second one, after its first address. -/
def Splits (a aSize b bSize : UInt32) : Prop :=
  aSize.toNat = 0 ∧ b.toNat < a.toNat ∧ a.toNat < b.toNat + bSize.toNat

instance (a aSize b bSize : UInt32) : Decidable (Splits a aSize b bSize) :=
  inferInstanceAs (Decidable (_ ∧ _ ∧ _))

variable {a aSize b bSize address size : UInt32}

/-- Two ranges share an address when both hold a byte and each starts before the other ends: the
later one of the two starts is an address of both. -/
lemma share_iff : Share a aSize b bSize ↔
    (0 < aSize.toNat ∧ 0 < bSize.toNat) ∧
      a.toNat < b.toNat + bSize.toNat ∧ b.toNat < a.toNat + aSize.toNat := by
  unfold Share Holds
  constructor
  · rintro ⟨x, ha, hb⟩
    omega
  · rintro ⟨⟨ha, hb⟩, hab, hba⟩
    exact ⟨max a.toNat b.toNat, by omega, by omega⟩

instance (a aSize b bSize : UInt32) : Decidable (Share a aSize b bSize) :=
  decidable_of_iff _ share_iff.symm

/-- **When two ranges pass for overlapping**: they share an address, or one of them has no byte and
lies inside the other. -/
theorem rangesOverlap_iff_share_or_splits :
    rangesOverlap a aSize b bSize = true ↔
      Share a aSize b bSize ∨ Splits a aSize b bSize ∨ Splits b bSize a aSize := by
  simp only [rangesOverlap_iff, share_iff, Splits]
  omega

/-- Which of two ranges comes first is of no account. -/
lemma rangesOverlap_comm : rangesOverlap a aSize b bSize = rangesOverlap b bSize a aSize :=
  Bool.and_comm _ _

/-- Ranges that hold a byte overlap exactly when they share an address. -/
lemma rangesOverlap_eq_share (ha : 0 < aSize.toNat) (hb : 0 < bSize.toNat) :
    rangesOverlap a aSize b bSize = decide (Share a aSize b bSize) := by
  simp only [rangesOverlap, share_iff, ha, hb, and_self, true_and, Bool.decide_and]

/-- A range without a byte overlaps exactly the ranges that it splits. -/
lemma rangesOverlap_eq_splits (hb : bSize.toNat = 0) :
    rangesOverlap a aSize b bSize = decide (Splits b bSize a aSize) := by
  rw [Bool.eq_iff_iff, rangesOverlap_iff, decide_eq_true_eq, Splits]
  omega

/-- An address is in a region when the region holds it. -/
lemma Region.contains_iff_holds {r : Region} :
    r.contains address = true ↔ Holds r.start r.size address.toNat :=
  Region.contains_iff_covers

/-! ## What responds to a range -/

/-- Every watch, record and region holds a byte. -/
structure Filled (ws : WatchList) (ledger : Ledger) (guard : Guard) : Prop where
  /-- Every watch does. -/
  watches : ∀ w ∈ ws.watches, 0 < w.size.toNat
  /-- Every record does. -/
  records : ∀ entry ∈ ledger.history, 0 < entry.size.toNat
  /-- Every region does. -/
  regions : ∀ r ∈ guard.regions, 0 < r.size.toNat

/-- The notice of a write to a range and the queries of a range are about the active watches and the
records whose own range is in a given relation to it, and about no others. -/
structure RespondTo (ws : WatchList) (ledger : Ledger) (probe : Probe Ram) (address size : UInt32)
    (related : UInt32 → UInt32 → Bool) : Prop where
  /-- The notice reads these watches again. -/
  notified : WatchList.Pass probe.memory.look (fun w => w.active && related w.address w.size)
    ws.watches (ws.notify probe address size).state.1.watches
    (ws.notify probe address size).journal
  /-- It counts those of them that show something new. -/
  fired : (ws.notify probe address size).value = ws.watches.countP fun w =>
    (w.active && related w.address w.size) && w.differs probe.memory.look
  /-- These records are counted. -/
  counted : ledger.count address size =
    ledger.history.countP fun entry => related entry.address entry.size
  /-- A recent one is found when one of these comes before the first that is too old. -/
  recent : ∀ window : UInt64, ledger.hasRecent address size window =
    (ledger.history.takeWhile fun entry => ledger.age entry ≤ window.toNat).any
      fun entry => related entry.address entry.size

/-- What responds to a range is told by the overlaps with the entries that there are. -/
lemma RespondTo.of_overlaps {ws : WatchList} {ledger : Ledger} {probe : Probe Ram}
    {related : UInt32 → UInt32 → Bool}
    (hwatches : ∀ w ∈ ws.watches, rangesOverlap w.address w.size address size =
      related w.address w.size)
    (hrecords : ∀ entry ∈ ledger.history, rangesOverlap entry.address entry.size address size =
      related entry.address entry.size) :
    RespondTo ws ledger probe address size related := by
  have hhit : ∀ w ∈ ws.watches, WatchList.isNotified address size w =
      (w.active && related w.address w.size) := by
    intro w hw
    rw [WatchList.isNotified, hwatches w hw]
  constructor
  · exact (WatchList.notifyWatches_pass address size ws.watches probe).congr hhit
  · refine (WatchList.value_notifyWatches address size ws.watches probe).trans ?_
    refine List.countP_congr fun w hw => ?_
    rw [hhit w hw]
  · refine List.countP_congr fun entry hentry => ?_
    rw [StampedAccess.overlaps, hrecords entry hentry]
  · intro window
    rw [Ledger.hasRecent, Bool.eq_iff_iff, List.any_eq_true, List.any_eq_true]
    refine exists_congr fun entry => and_congr_right fun hentry => ?_
    rw [StampedAccess.overlaps, hrecords entry ((List.takeWhile_sublist _).subset hentry)]

/-- A region that is added evicts the regions with which it shares an address. -/
lemma Filled.evicts {ws : WatchList} {ledger : Ledger} {guard guard' : Guard} {r : Region}
    {evicted : Nat} (h : Filled ws ledger guard) (hadd : guard.add r = .ok (evicted, guard')) :
    guard'.regions =
        (guard.regions.filter fun other => !decide (Share other.start other.size r.start r.size)) ++
          [r] ∧
      evicted = guard.regions.countP fun other =>
        decide (Share other.start other.size r.start r.size) := by
  unfold Guard.add at hadd
  split at hadd
  · cases hadd
  · rename_i w hrange
    cases hadd
    have hr : 0 < r.size.toNat := (checkRange_eq_ok_iff.mp hrange).1
    have hoverlaps : ∀ other ∈ guard.regions, other.overlaps r =
        decide (Share other.start other.size r.start r.size) :=
      fun other hother => rangesOverlap_eq_share (h.regions other hother) hr
    constructor
    · refine congrArg (· ++ [r]) (List.filter_congr fun other hother => ?_)
      rw [hoverlaps other hother]
    · refine List.countP_congr fun other hother => ?_
      rw [hoverlaps other hother]

/-- The tables of a reachable monitor are filled. -/
theorem Monitor.Reachable.filled {m : Monitor} (h : Reachable m) :
    Filled m.watches m.ledger m.hardcore.guard where
  watches w hw := (h.tables.watches w hw).2.pos
  records entry hentry := (h.tables.records entry hentry).pos
  regions r hr := (h.tables.regions r hr).pos

/-- **What responds to a range shares an address with it**, when the range holds a byte. Whether the
range overlaps another says that they share an address, unless one of the two has no byte and lies
inside the other; which of them comes first is of no account. So a record that holds a byte overlaps
a range that does exactly when they share an address, and a region contains exactly the addresses
that it holds. Where every entry of the tables holds a byte, as is the case for any reachable
monitor, the notice of a write to the range is about the active watches that share an address with
it, the queries of the range are about the records that do, and the range, when it is added as a
region, evicts the regions that share an address with it. If the range has no byte, notice and
queries are about the watches and records that it splits.

**Proof sketch.** The later one of two starts is a common address, if there is one: it lies in its
own range unless that has no byte. -/
theorem overlap_shares (address size : UInt32) :
    (∀ a n : UInt32,
      ((rangesOverlap a n address size = true ↔ Share a n address size) ↔
        ¬Splits a n address size ∧ ¬Splits address size a n) ∧
      rangesOverlap a n address size = rangesOverlap address size a n) ∧
    (∀ entry : StampedAccess, 0 < entry.size.toNat → 0 < size.toNat →
      (entry.overlaps address size = true ↔ Share entry.address entry.size address size)) ∧
    (∀ r : Region, r.contains address = true ↔ Holds r.start r.size address.toNat) ∧
    (∀ (ws : WatchList) (ledger : Ledger) (guard : Guard), Filled ws ledger guard →
      (0 < size.toNat → ∀ probe : Probe Ram,
        RespondTo ws ledger probe address size fun a n => Share a n address size) ∧
      (size.toNat = 0 → ∀ probe : Probe Ram,
        RespondTo ws ledger probe address size fun a n => Splits address size a n) ∧
      (∀ (evicted : Nat) (guard' : Guard), guard.add ⟨address, size⟩ = .ok (evicted, guard') →
        guard'.regions = (guard.regions.filter fun other =>
            !decide (Share other.start other.size address size)) ++ [⟨address, size⟩] ∧
          evicted = guard.regions.countP fun other =>
            decide (Share other.start other.size address size))) ∧
    (∀ m : Monitor, m.Reachable → Filled m.watches m.ledger m.hardcore.guard) := by
  refine ⟨fun a n => ⟨?_, rangesOverlap_comm⟩, fun entry hentry hsize => ?_,
    fun r => Region.contains_iff_holds, fun ws ledger guard hfilled => ⟨?_, ?_, ?_⟩,
    fun m hm => hm.filled⟩
  · rw [rangesOverlap_iff_share_or_splits, ← not_or, or_iff_left_iff_imp]
    refine ⟨fun hshare hsplits => ?_, fun hnone hsplits => absurd hsplits hnone⟩
    -- a range that splits another has no byte to share
    have hbytes := (share_iff.mp (hshare hsplits)).1
    rcases hsplits with ⟨hempty, -⟩ | ⟨hempty, -⟩
    · omega
    · omega
  · rw [StampedAccess.overlaps, rangesOverlap_eq_share hentry hsize, decide_eq_true_eq]
  · intro hsize probe
    refine RespondTo.of_overlaps (fun w hw => ?_) fun entry hentry => ?_
    · exact rangesOverlap_eq_share (hfilled.watches w hw) hsize
    · exact rangesOverlap_eq_share (hfilled.records entry hentry) hsize
  · intro hsize probe
    exact RespondTo.of_overlaps (fun w _ => rangesOverlap_eq_splits hsize)
      fun entry _ => rangesOverlap_eq_splits hsize
  · exact fun evicted guard' => hfilled.evicts

/-- A write to the last bytes of the first window is about the one watch of `stocked` there, which
shows something new, and a region over these bytes evicts the region that fills the window. -/
theorem overlap_shares_stocked :
    Monitor.stocked.Reachable ∧
      Share 0x1fffff8 8 0x1fffffc 4 ∧ ¬Share 0x70000000 1 0x1fffffc 4 ∧
      RespondTo Monitor.stocked.watches Monitor.stocked.ledger Monitor.stocked.probe 0x1fffffc 4
        (fun a n => Share a n 0x1fffffc 4) ∧
      (Monitor.stocked.watches.notify Monitor.stocked.probe 0x1fffffc 4).value = 1 ∧
      Monitor.stocked.ledger.count 0x1fffffc 4 = 1 ∧
      (Monitor.stocked.hardcore.guard.add ⟨0x1fffffc, 4⟩).toOption =
        some (1, ⟨[⟨0x1fffffc, 4⟩], false⟩) := by
  have hreach : Monitor.stocked.Reachable := (Monitor.Reachable.make {} 0).run _
  obtain ⟨-, -, -, hresponds, hfilled⟩ := overlap_shares 0x1fffffc 4
  obtain ⟨hshares, -, -⟩ := hresponds _ _ _ (hfilled Monitor.stocked hreach)
  exact ⟨hreach, by decide, by decide, hshares (by decide) Monitor.stocked.probe, rfl, rfl, rfl⟩

/-- The range of no bytes at 5 passes for overlapping the ten bytes at 0, but shares no address with
them. A write of no bytes inside the first watch of `stocked` shares no address with any watch, and
yet that watch is read again and its change is found. -/
theorem overlap_unshared_stocked :
    rangesOverlap 5 0 0 10 = true ∧ ¬Share 5 0 0 10 ∧
      (∀ w ∈ Monitor.stocked.watches.watches, ¬Share w.address w.size 0x1fffffc 0) ∧
      (Monitor.stocked.watches.notify Monitor.stocked.probe 0x1fffffc 0).value = 1 := by
  refine ⟨by decide, by decide, fun w hw => ?_, rfl⟩
  rw [share_iff]
  exact fun hshare => absurd hshare.1.2 (by decide)

end GuestWatch
