import GuestWatch.Proofs.Ledger.Retention
import Mathlib.Data.List.TakeWhile

set_option relaxedAutoImplicit false
set_option autoImplicit false

/-!
# The order of the records

A record is stamped with the reading of the clock, but never below the newest stamp that is held.
So the records that a ledger holds are in order, whatever the clock does, and a recency query may
stop at the first record that is too old: all behind it are older still.

The order is one of the records that are held. A ledger that holds none has no stamp to go by and
takes the reading of the clock as it is, also when it has made records before and dropped them. If
the clock has gone back by then, so do the stamps. They never go back in exactly those runs in
which, whenever a record is made while none is held, the clock has caught up with all the stamps
given before.

## Main definitions

* `GuestWatch.Ledger.made?`, `GuestWatch.Ledger.made` — the records that an operation and a run
  make, whether or not they are kept.
* `GuestWatch.Ledger.Sorted` — no record has a later stamp than one made after it.
* `GuestWatch.Ledger.KeepsUp` — whenever a record is made while none is held, the clock has caught
  up.
* `GuestWatch.Journal.stamps` — the stamps that callbacks were told.

## Main results

* `GuestWatch.Ledger.Sorted.step`, `GuestWatch.Ledger.sorted_run` — the records held are in order.
* `GuestWatch.Ledger.recency` — a recency query misses no record that is recent enough.
* `GuestWatch.Ledger.pairwise_made_iff` — in which runs stamps never go back.
* `GuestWatch.Ledger.keepsUp_of_never_empties` — runs that never empty the ledger are of those.
* `GuestWatch.Ledger.stamps_ascend` — the same as callbacks are told it.
* `GuestWatch.Ledger.stamps_fall_unretained` — a run in which the stamps told go back.
-/

namespace GuestWatch

/-- The stamp that a callback was told. -/
def Event.stamp? : Event → Option UInt64
  | .recorded _ entry => some entry.timestamp
  | _ => none

/-- The stamps that callbacks were told, in the order of the calls. -/
def Journal.stamps (j : Journal) : List UInt64 := j.events.filterMap Event.stamp?

@[simp] lemma Journal.stamps_append (a b : Journal) : (a ++ b).stamps = a.stamps ++ b.stamps :=
  List.filterMap_append

/-- Whether an operation drops every record that there can be. -/
def LedgerOp.empties : LedgerOp → Bool
  | .setLimit limit => limit == 0
  | op => op.clears

/-- Whether an operation changes which callbacks are registered. -/
def LedgerOp.registers : LedgerOp → Bool
  | .addCallback _ => true
  | .removeCallbacks => true
  | _ => false

namespace Ledger

/-! ## The records that are made -/

/-- The record that an operation makes, if it makes one. -/
def made? (ledger : Ledger) : LedgerOp → Option StampedAccess
  | .track access =>
    if ledger.tracking = true ∧ Legal access.address access.size then
      some { access with timestamp := ledger.stamp }
    else none
  | _ => none

/-- The records that a run makes, oldest first, whether or not they are kept. -/
def made : List LedgerOp → Ledger → List StampedAccess
  | [], _ => []
  | op :: rest, ledger => (ledger.made? op).toList ++ made rest (ledger.step op).state

/-- A run that goes on for one more operation makes one more record, or none. -/
lemma made_concat (ops : List LedgerOp) (op : LedgerOp) (ledger : Ledger) :
    made (ops ++ [op]) ledger = made ops ledger ++ ((run ops ledger).state.made? op).toList := by
  induction ops generalizing ledger with
  | nil => simp only [List.nil_append, made, run, List.append_nil]
  | cons first rest ih => simp only [List.cons_append, made, run, ih, List.append_assoc]

/-- **What offering an access comes to.** Either nothing is done, or a record of it is made with the
stamp of the time, pushed and told. -/
lemma track_cases (ledger : Ledger) (access : Access) :
    (ledger.made? (.track access) = none ∧ (ledger.track access).state = ledger ∧
      (ledger.track access).journal.events = [] ∧ (ledger.track access).journal.accepted = []) ∨
    ∃ entry : StampedAccess, ledger.made? (.track access) = some entry ∧
      entry.toAccess = access ∧ entry.timestamp = ledger.stamp ∧
      (ledger.track access).state = ledger.push entry ∧
      (ledger.track access).journal.events =
        ledger.callbacks.map (fun name => .recorded name entry) ∧
      (ledger.track access).journal.accepted = [access] := by
  by_cases haccepted : ledger.tracking = true ∧ Legal access.address access.size
  · refine .inr ⟨{ access with timestamp := ledger.stamp }, ?_⟩
    rw [made?, if_pos haccepted, track_of_legal haccepted.1 haccepted.2]
    exact ⟨rfl, rfl, rfl, rfl, rfl, rfl⟩
  · rw [made?, if_neg haccepted]
    exact .inl ⟨rfl, track_of_not_legal haccepted⟩

/-- A record is made with the stamp of its time. -/
lemma timestamp_of_made {ledger : Ledger} {op : LedgerOp} {entry : StampedAccess}
    (h : ledger.made? op = some entry) : entry.timestamp = ledger.stamp := by
  cases op with
  | track access =>
    obtain ⟨hnone, -⟩ | ⟨recorded, hmade, -, hstamp, -⟩ := ledger.track_cases access
    · cases hnone.symm.trans h
    · cases hmade.symm.trans h
      exact hstamp
  | _ => cases h

/-- **What an operation leaves of the records.** The record that it makes comes in front, and some
are dropped from the end. -/
lemma history_step (ledger : Ledger) (op : LedgerOp) :
    (ledger.step op).state.history <+: (ledger.made? op).toList ++ ledger.history := by
  cases op with
  | track access =>
    obtain ⟨hnone, hstate, -⟩ | ⟨entry, hmade, -, -, hstate, -⟩ := ledger.track_cases access
    · rw [step, hstate, hnone]
      exact List.prefix_rfl
    · rw [step, hstate, hmade]
      exact List.take_prefix _ _
  | clear => exact List.nil_prefix
  | setLimit limit => exact List.take_prefix _ _
  | enableTracking on =>
    cases on with
    | true => exact List.prefix_rfl
    | false => exact List.nil_prefix
  | _ => exact List.prefix_rfl

/-- Every callback that is registered is told the record that an operation makes. -/
lemma events_step_made (ledger : Ledger) (op : LedgerOp) :
    (ledger.step op).journal.events = (ledger.made? op).toList.flatMap fun entry =>
      ledger.callbacks.map fun name => .recorded name entry := by
  cases op with
  | track access =>
    obtain ⟨hnone, -, hevents, -⟩ | ⟨entry, hmade, -, -, -, hevents, -⟩ :=
      ledger.track_cases access
    · rw [step, hevents, hnone, Option.toList_none, List.flatMap_nil]
    · rw [step, hevents, hmade, Option.toList_some, List.flatMap_singleton]
  | _ => rfl

/-- A record is made of the access that is accepted. -/
lemma accepted_step (ledger : Ledger) (op : LedgerOp) :
    (ledger.step op).journal.accepted = (ledger.made? op).toList.map StampedAccess.toAccess := by
  cases op with
  | track access =>
    obtain ⟨hnone, -, -, haccepted⟩ | ⟨entry, hmade, hof, -, -, -, haccepted⟩ :=
      ledger.track_cases access
    · rw [step, haccepted, hnone, Option.toList_none, List.map_nil]
    · rw [step, haccepted, hmade, Option.toList_some, List.map_singleton, hof]
  | _ => rfl

/-- A run makes one record of each access that it accepts. -/
lemma accepted_run (ops : List LedgerOp) (ledger : Ledger) :
    (run ops ledger).journal.accepted = (made ops ledger).map StampedAccess.toAccess := by
  induction ops generalizing ledger with
  | nil => rfl
  | cons op rest ih =>
    simp only [run, made, Journal.accepted_append, accepted_step, ih, List.map_append]

/-! ## The records that are held -/

/-- A stamp is not below the newest one held. -/
lemma newest_le_stamp {ledger : Ledger} {newest : StampedAccess} {older : List StampedAccess}
    (h : ledger.history = newest :: older) : newest.timestamp ≤ ledger.stamp := by
  unfold stamp
  rw [h]
  change newest.timestamp ≤ if ledger.now ≤ newest.timestamp then newest.timestamp else ledger.now
  split
  · exact UInt64.le_refl _
  · rename_i hlater
    rw [UInt64.le_iff_toNat_le] at hlater ⊢
    omega

/-- Where no record is held, a stamp is the reading of the clock. -/
lemma stamp_of_empty {ledger : Ledger} (h : ledger.history = []) : ledger.stamp = ledger.now := by
  simp only [stamp, h]

/-- The records held are in order: none has a later stamp than one made after it. -/
def Sorted (ledger : Ledger) : Prop :=
  ledger.history.Pairwise fun newer older => older.timestamp ≤ newer.timestamp

/-- No record that is held has a later stamp than the next one made. -/
lemma Sorted.le_stamp {ledger : Ledger} (h : ledger.Sorted) {older : StampedAccess}
    (holder : older ∈ ledger.history) : older.timestamp ≤ ledger.stamp := by
  cases hhistory : ledger.history with
  | nil =>
    rw [hhistory] at holder
    cases holder
  | cons newest rest =>
    rw [Sorted, hhistory, List.pairwise_cons] at h
    rw [hhistory] at holder
    rcases List.mem_cons.mp holder with rfl | hrest
    · exact newest_le_stamp hhistory
    · exact UInt64.le_trans (h.1 older hrest) (newest_le_stamp hhistory)

/-- **Every operation keeps the records in order**, whatever the clock reads. -/
theorem Sorted.step {ledger : Ledger} (h : ledger.Sorted) (op : LedgerOp) :
    (ledger.step op).state.Sorted := by
  have hall : ((ledger.made? op).toList ++ ledger.history).Pairwise fun newer older =>
      older.timestamp ≤ newer.timestamp := by
    cases hmade : ledger.made? op with
    | none => exact h
    | some entry =>
      refine List.pairwise_cons.mpr ⟨fun older holder => ?_, h⟩
      rw [timestamp_of_made hmade]
      exact h.le_stamp holder
  exact hall.sublist (ledger.history_step op).sublist

/-- **So does every run.** -/
theorem sorted_run (now : UInt64) (ops : List LedgerOp) : (run ops (fresh now)).state.Sorted := by
  induction ops using List.reverseRecOn with
  | nil => exact List.Pairwise.nil
  | append_singleton ops op ih =>
    rw [run_concat]
    exact ih.step op

/-! ## Recency -/

/-- Among entries in order, a search that ends at the first one that is too old passes all those
that are not. -/
lemma mem_takeWhile_age {entries : List StampedAccess}
    (h : entries.Pairwise fun newer older => older.timestamp ≤ newer.timestamp) (ledger : Ledger)
    (window : Nat) (entry : StampedAccess) :
    entry ∈ entries.takeWhile (fun entry => ledger.age entry ≤ window) ↔
      entry ∈ entries ∧ ledger.age entry ≤ window := by
  induction entries with
  | nil => simp only [List.takeWhile_nil, List.not_mem_nil, false_and]
  | cons newest rest ih =>
    obtain ⟨hnewest, hrest⟩ := List.pairwise_cons.mp h
    by_cases hrecent : ledger.age newest ≤ window
    · rw [List.takeWhile_cons_of_pos (by simpa using hrecent), List.mem_cons, List.mem_cons,
        ih hrest, or_and_right]
      exact or_congr_left ⟨fun heq => ⟨heq, heq ▸ hrecent⟩, And.left⟩
    · rw [List.takeWhile_cons_of_neg (by simpa using hrecent)]
      refine ⟨fun hnone => absurd hnone List.not_mem_nil, fun ⟨hmem, hage⟩ => absurd ?_ hrecent⟩
      rcases List.mem_cons.mp hmem with rfl | hbehind
      · exact hage
      · -- what is behind is no younger
        have hle := UInt64.le_iff_toNat_le.mp (hnewest entry hbehind)
        unfold age at hage ⊢
        omega

/-- A recency query finds what a search of all records finds. -/
lemma Sorted.hasRecent_iff {ledger : Ledger} (h : ledger.Sorted) (address size : UInt32)
    (window : UInt64) :
    ledger.hasRecent address size window = true ↔
      ∃ entry ∈ ledger.history, entry.overlaps address size = true ∧
        ledger.age entry ≤ window.toNat := by
  simp only [hasRecent, List.any_eq_true, mem_takeWhile_age h]
  exact exists_congr fun entry => by tauto

/-- **A recency query misses no record that is recent enough.** In every run, whatever the clock
does, the query answers whether some record held touches the range and is no older than the window;
a record from the future has no age. With the widest window that is whether any record touches the
range, and a wider window finds whatever a narrower one does. -/
theorem recency (now : UInt64) (ops : List LedgerOp) (address size : UInt32) :
    let ledger := (run ops (fresh now)).state
    (∀ window : UInt64, ledger.hasRecent address size window = true ↔
      ∃ entry ∈ ledger.history, entry.overlaps address size = true ∧
        max 0 ((ledger.now.toNat : Int) - entry.timestamp.toNat) ≤ window.toNat) ∧
      (ledger.hasRecent address size 0xffffffffffffffff = true ↔
        0 < ledger.count address size) ∧
      ∀ window wider : UInt64, window ≤ wider → ledger.hasRecent address size window = true →
        ledger.hasRecent address size wider = true := by
  intro ledger
  have hsorted : ledger.Sorted := sorted_run now ops
  refine ⟨fun window => ?_, ?_, fun window wider hwider => ?_⟩
  · rw [hsorted.hasRecent_iff]
    refine exists_congr fun entry => and_congr_right fun _ => and_congr_right fun _ => ?_
    unfold age
    omega
  · rw [hsorted.hasRecent_iff, count, List.countP_pos_iff]
    refine exists_congr fun entry => and_congr_right fun _ => and_iff_left ?_
    have hnow := ledger.now.toNat_lt
    have hwidest : (0xffffffffffffffff : UInt64).toNat = 2 ^ 64 - 1 := rfl
    unfold age
    omega
  · rw [hsorted.hasRecent_iff, hsorted.hasRecent_iff]
    rintro ⟨entry, hmem, hoverlaps, hage⟩
    exact ⟨entry, hmem, hoverlaps, hage.trans (UInt64.le_iff_toNat_le.mp hwider)⟩

/-- The clock goes back before the third of three records, which is stamped like the second one.
The first one is found behind them by a window of sixteen, and so by one of twenty. -/
theorem recency_set_back :
    let ledger := (run [.track ⟨0x1000, 4, 1, .write⟩, .setClock 20,
      .track ⟨0x2000, 4, 2, .write⟩, .setClock 15, .track ⟨0x2004, 4, 3, .read⟩,
      .setClock 26] (fresh 10)).state
    ledger.history.map (·.timestamp) = [20, 20, 10] ∧
      ledger.hasRecent 0x1000 4 15 = false ∧ ledger.hasRecent 0x1000 4 16 = true ∧
      ledger.hasRecent 0x1000 4 20 = true := by
  intro ledger
  have hfound : ledger.hasRecent 0x1000 4 16 = true := by decide
  exact ⟨by decide, by decide, hfound, (recency 10 _ 0x1000 4).2.2 16 20 (by decide) hfound⟩

/-! ## The records of a whole run -/

/-- The newest record held is the last one made. -/
lemma newest_run {ledger : Ledger} (h : ledger.history = []) (ops : List LedgerOp)
    {newest : StampedAccess} {older : List StampedAccess}
    (hhistory : (run ops ledger).state.history = newest :: older) :
    (made ops ledger).getLast? = some newest := by
  induction ops using List.reverseRecOn generalizing older with
  | nil => cases h.symm.trans hhistory
  | append_singleton ops op ih =>
    have hpart := history_step (run ops ledger).state op
    rw [run_concat] at hhistory
    rw [hhistory] at hpart
    rw [made_concat]
    cases hmade : (run ops ledger).state.made? op with
    | some entry =>
      rw [hmade, Option.toList_some, List.singleton_append, List.cons_prefix_cons] at hpart
      rw [Option.toList_some, List.getLast?_concat, hpart.1]
    | none =>
      rw [hmade, Option.toList_none, List.nil_append] at hpart
      obtain ⟨dropped, hdropped⟩ := hpart
      rw [Option.toList_none, List.append_nil]
      exact ih hdropped.symm

/-- Whenever a run makes a record while none is held, the clock has caught up with the stamps of
all records made before. -/
def KeepsUp (ops : List LedgerOp) (ledger : Ledger) : Prop :=
  ∀ early op, early ++ [op] <+: ops →
    ((run early ledger).state.made? op).isSome = true → (run early ledger).state.history = [] →
      ∀ older ∈ made early ledger, older.timestamp ≤ (run early ledger).state.now

/-- A run of one more operation keeps up if it did before and does now. -/
lemma keepsUp_concat {ops : List LedgerOp} {op : LedgerOp} {ledger : Ledger} :
    KeepsUp (ops ++ [op]) ledger ↔ KeepsUp ops ledger ∧
      (((run ops ledger).state.made? op).isSome = true → (run ops ledger).state.history = [] →
        ∀ older ∈ made ops ledger, older.timestamp ≤ (run ops ledger).state.now) := by
  constructor
  · intro h
    exact ⟨fun early later hearly => h early later (hearly.trans (List.prefix_append ops [op])),
      h ops op List.prefix_rfl⟩
  · rintro ⟨hbefore, hnow⟩ early later hearly
    rcases List.prefix_concat_iff.mp hearly with heq | hpart
    · obtain ⟨rfl, hop⟩ := List.append_inj' heq rfl
      cases hop
      exact hnow
    · exact hbefore early later hpart

/-- No record made before is stamped later than the next one, unless none is held and the clock is
behind. -/
lemma made_le_stamp {ledger : Ledger} (h : ledger.history = []) {ops : List LedgerOp}
    (hmade : (made ops ledger).Pairwise fun earlier later => earlier.timestamp ≤ later.timestamp)
    (hclock : (run ops ledger).state.history = [] →
      ∀ older ∈ made ops ledger, older.timestamp ≤ (run ops ledger).state.now)
    {older : StampedAccess} (holder : older ∈ made ops ledger) :
    older.timestamp ≤ (run ops ledger).state.stamp := by
  cases hhistory : (run ops ledger).state.history with
  | nil =>
    rw [stamp_of_empty hhistory]
    exact hclock hhistory older holder
  | cons newest rest =>
    -- the last record made is held, and all others were made before it
    have hlast := List.getLast?_eq_some_iff.mp (newest_run h ops hhistory)
    obtain ⟨before, hbefore⟩ := hlast
    rw [hbefore] at hmade holder
    refine UInt64.le_trans ?_ (newest_le_stamp hhistory)
    rcases List.mem_append.mp holder with hearlier | hnewest
    · exact (List.pairwise_append.mp hmade).2.2 older hearlier newest (List.mem_singleton_self _)
    · rw [List.mem_singleton.mp hnewest]
      exact UInt64.le_refl _

/-- **Stamps never go back in exactly the runs that keep up.**

**Proof sketch.** By induction on the run from its end. If the last operation makes a record while
one is held, its stamp is not below that of the newest one held, which is the last one made. While
none is held its stamp is the reading of the clock. -/
theorem pairwise_made_iff {ledger : Ledger} (h : ledger.history = []) (ops : List LedgerOp) :
    ((made ops ledger).Pairwise fun earlier later => earlier.timestamp ≤ later.timestamp) ↔
      KeepsUp ops ledger := by
  induction ops using List.reverseRecOn with
  | nil =>
    refine iff_of_true List.Pairwise.nil fun early op hearly => ?_
    exact absurd (List.prefix_nil.mp hearly) (List.append_ne_nil_of_right_ne_nil _ (by simp))
  | append_singleton ops op ih =>
    rw [keepsUp_concat, made_concat, ← ih]
    cases hmade : (run ops ledger).state.made? op with
    | none => simp
    | some entry =>
      have hstamp := timestamp_of_made hmade
      rw [Option.toList_some, List.pairwise_append]
      constructor
      · rintro ⟨hbefore, -, hentry⟩
        refine ⟨hbefore, fun _ hnone older holder => ?_⟩
        rw [← stamp_of_empty hnone, ← hstamp]
        exact hentry older holder entry (List.mem_singleton_self _)
      · rintro ⟨hbefore, hclock⟩
        refine ⟨hbefore, List.pairwise_singleton _ _, fun older holder later hlater => ?_⟩
        rw [List.mem_singleton.mp hlater, hstamp]
        exact made_le_stamp h hbefore (hclock rfl) holder

/-- An operation that does not empty the ledger leaves it one that holds a record, if it did before
or if one is made. -/
lemma history_ne_nil_step {ledger : Ledger} (hlimit : 0 < ledger.limit) {op : LedgerOp}
    (hop : op.empties = false) :
    0 < (ledger.step op).state.limit ∧
      ((ledger.made? op).toList ++ ledger.history ≠ [] → (ledger.step op).state.history ≠ []) := by
  cases op with
  | track access =>
    obtain ⟨hnone, hstate, -⟩ | ⟨entry, -, -, -, hstate, -⟩ := ledger.track_cases access
    · rw [step, hstate, hnone]
      exact ⟨hlimit, id⟩
    · rw [step, hstate]
      refine ⟨hlimit, fun _ hempty => ?_⟩
      rcases List.take_eq_nil_iff.mp hempty with hzero | hcons
      · exact hlimit.ne' hzero
      · cases hcons
  | setLimit limit =>
    have hpos : limit ≠ 0 := by simpa [LedgerOp.empties] using hop
    refine ⟨Nat.pos_of_ne_zero hpos, fun hheld hnone => ?_⟩
    rcases List.take_eq_nil_iff.mp hnone with hzero | hempty
    · exact hpos hzero
    · exact hheld hempty
  | clear => cases hop
  | enableTracking on =>
    cases on with
    | true => exact ⟨hlimit, id⟩
    | false => cases hop
  | _ => exact ⟨hlimit, id⟩

/-- A run that does not empty the ledger holds a record once it has made one. -/
lemma history_ne_nil_run {ledger : Ledger} (hlimit : 0 < ledger.limit) {ops : List LedgerOp}
    (hops : ops.any LedgerOp.empties = false) :
    0 < (run ops ledger).state.limit ∧
      (made ops ledger ≠ [] → (run ops ledger).state.history ≠ []) := by
  induction ops using List.reverseRecOn with
  | nil => exact ⟨hlimit, fun hnone => absurd rfl hnone⟩
  | append_singleton ops op ih =>
    simp only [List.any_append, List.any_cons, List.any_nil, Bool.or_false,
      Bool.or_eq_false_iff] at hops
    obtain ⟨hpos, hheld⟩ := ih hops.1
    obtain ⟨hpos', hheld'⟩ := history_ne_nil_step hpos hops.2
    rw [run_concat, made_concat]
    refine ⟨hpos', fun hmade => hheld' fun hnone => hmade ?_⟩
    obtain ⟨hnow, hempty⟩ := List.append_eq_nil_iff.mp hnone
    rw [hnow, List.append_nil]
    exact not_not.mp fun hbefore => hheld hbefore hempty

/-- **A run that never empties the ledger keeps up**, whatever the clock does. -/
theorem keepsUp_of_never_empties {ledger : Ledger} (hlimit : 0 < ledger.limit) {ops : List LedgerOp}
    (hops : ops.any LedgerOp.empties = false) : KeepsUp ops ledger := by
  intro early op hearly _ hempty older holder
  obtain ⟨rest, rfl⟩ := hearly
  simp only [List.append_assoc, List.any_append, Bool.or_eq_false_iff] at hops
  exact absurd hempty ((history_ne_nil_run hlimit hops.1).2 (List.ne_nil_of_mem holder))

/-! ## The stamps that callbacks are told -/

/-- The stamp of a record is told once for each callback. -/
lemma stamps_step (ledger : Ledger) (op : LedgerOp) :
    (ledger.step op).journal.stamps = (ledger.made? op).toList.flatMap fun entry =>
      List.replicate ledger.callbacks.length entry.timestamp := by
  rw [Journal.stamps, events_step_made]
  cases ledger.made? op with
  | none => rfl
  | some entry =>
    simp only [Option.toList_some, List.flatMap_singleton, List.filterMap_map,
      ← List.map_const']
    exact congrFun (List.filterMap_eq_map (f := fun _ => entry.timestamp)) ledger.callbacks

/-- What callbacks are told is the stamp of a record that is made. -/
lemma exists_made_of_mem_stamps {ops : List LedgerOp} {ledger : Ledger} {told : UInt64}
    (h : told ∈ (run ops ledger).journal.stamps) :
    ∃ entry ∈ made ops ledger, entry.timestamp = told := by
  induction ops generalizing ledger with
  | nil => cases h
  | cons op rest ih =>
    simp only [run, made, Journal.stamps_append, stamps_step, List.mem_append] at h ⊢
    rcases h with hnow | hlater
    · obtain ⟨entry, hentry, hstamp⟩ := List.mem_flatMap.mp hnow
      exact ⟨entry, .inl hentry, (List.eq_of_mem_replicate hstamp).symm⟩
    · obtain ⟨entry, hentry, hstamp⟩ := ih hlater
      exact ⟨entry, .inr hentry, hstamp⟩

/-- Where stamps never go back, no callback is told that they do. -/
lemma pairwise_stamps {ops : List LedgerOp} {ledger : Ledger}
    (h : (made ops ledger).Pairwise fun earlier later => earlier.timestamp ≤ later.timestamp) :
    (run ops ledger).journal.stamps.Pairwise (· ≤ ·) := by
  induction ops generalizing ledger with
  | nil => exact List.Pairwise.nil
  | cons op rest ih =>
    obtain ⟨-, hrest, hacross⟩ := List.pairwise_append.mp h
    simp only [run, Journal.stamps_append, stamps_step]
    refine List.pairwise_append.mpr ⟨?_, ih hrest, fun told htold later hlater => ?_⟩
    · cases ledger.made? op with
      | none => exact List.Pairwise.nil
      | some entry =>
        rw [Option.toList_some, List.flatMap_singleton, List.pairwise_replicate]
        exact .inr (UInt64.le_refl _)
    · obtain ⟨entry, hentry, hstamp⟩ := List.mem_flatMap.mp htold
      obtain ⟨entry', hentry', rfl⟩ := exists_made_of_mem_stamps hlater
      rw [List.eq_of_mem_replicate hstamp]
      exact hacross entry hentry entry' hentry'

/-- Only registering a callback, and removing them, changes which callbacks are registered. -/
lemma callbacks_step {ledger : Ledger} {op : LedgerOp} (hop : op.registers = false) :
    (ledger.step op).state.callbacks = ledger.callbacks := by
  cases op with
  | track access =>
    obtain ⟨-, hstate, -⟩ | ⟨entry, -, -, -, hstate, -⟩ := ledger.track_cases access <;>
      rw [step, hstate]
    rfl
  | enableTracking on => cases on <;> rfl
  | addCallback name => cases hop
  | removeCallbacks => cases hop
  | _ => rfl

/-- The only callback is told the stamp of every record that is made. -/
lemma stamps_of_sole {name : String} {ops : List LedgerOp} {ledger : Ledger}
    (h : ledger.callbacks = [name]) (hops : ops.any LedgerOp.registers = false) :
    (run ops ledger).journal.stamps = (made ops ledger).map (·.timestamp) := by
  induction ops generalizing ledger with
  | nil => rfl
  | cons op rest ih =>
    rw [List.any_cons, Bool.or_eq_false_iff] at hops
    have hcallbacks : (ledger.step op).state.callbacks = [name] := (callbacks_step hops.1).trans h
    simp only [run, made, Journal.stamps_append, stamps_step, h, List.length_singleton,
      List.replicate_one, ← List.map_eq_flatMap, ih hcallbacks hops.2, List.map_append]

/-- **When stamps go back.** A run makes one record of each access that it accepts. Their stamps
never go back, in the order in which the accesses are accepted and whether or not the records are
kept, exactly if the run keeps up: whenever a record is made while none is held, the clock has
caught up with all the stamps given before. Callbacks are then never told that the stamps go back. A
callback that is the only one throughout is told all of them, and so sees it where they do.

A run that never empties the ledger keeps up, whatever the clock does. -/
theorem stamps_ascend (now : UInt64) (ops : List LedgerOp) :
    let entries := made ops (fresh now)
    let journal := (run ops (fresh now)).journal
    journal.accepted = entries.map StampedAccess.toAccess ∧
      ((entries.Pairwise fun earlier later => earlier.timestamp ≤ later.timestamp) ↔
        KeepsUp ops (fresh now)) ∧
      (KeepsUp ops (fresh now) → journal.stamps.Pairwise (· ≤ ·)) ∧
      (∀ name rest, ops = .addCallback name :: rest → rest.any LedgerOp.registers = false →
        journal.stamps = entries.map (·.timestamp)) ∧
      (ops.any LedgerOp.empties = false → KeepsUp ops (fresh now)) := by
  intro entries journal
  have hiff : (entries.Pairwise fun earlier later => earlier.timestamp ≤ later.timestamp) ↔
      KeepsUp ops (fresh now) := pairwise_made_iff rfl ops
  have hlimit : 0 < usualLimit := by decide
  refine ⟨accepted_run ops (fresh now), hiff, fun hkeeps => pairwise_stamps (hiff.mpr hkeeps), ?_,
    keepsUp_of_never_empties hlimit⟩
  rintro name rest rfl hrest
  have hcallbacks : ((fresh now).addCallback name).callbacks = [name] := rfl
  -- registering it makes no record and tells nothing
  have htold := stamps_of_sole hcallbacks hrest
  exact htold

/-- The clock goes back while a record is held, and has caught up again when one is made after a
clear. The callback is told stamps that never go back. Up to the clear that is so because the ledger
is never empty. -/
theorem stamps_ascend_cleared :
    let early : List LedgerOp := [.track ⟨0x1000, 4, 1, .write⟩, .setClock 40,
      .track ⟨0x1000, 4, 2, .write⟩]
    let rest : List LedgerOp :=
      early ++ [.clear, .setClock 60, .track ⟨0x1000, 4, 3, .read⟩]
    let ops : List LedgerOp := .addCallback "audit" :: rest
    KeepsUp early (fresh 50) ∧ KeepsUp ops (fresh 50) ∧
      (run ops (fresh 50)).journal.stamps = [50, 50, 60] ∧
      (run ops (fresh 50)).journal.stamps.Pairwise (· ≤ ·) := by
  intro early rest ops
  obtain ⟨-, -, -, -, hearly⟩ := stamps_ascend 50 early
  obtain ⟨-, hiff, hascend, hsole, -⟩ := stamps_ascend 50 ops
  have hkeeps : KeepsUp ops (fresh 50) := hiff.mp (by decide)
  exact ⟨hearly rfl, hkeeps, hsole "audit" rest rfl rfl, hascend hkeeps⟩

/-- With a limit of zero no record is ever held. The clock goes back between two accesses, and so do
the stamps that the callback is told. -/
theorem stamps_fall_unretained :
    let ops : List LedgerOp := [.addCallback "audit", .setLimit 0,
      .track ⟨0x1000, 4, 1, .write⟩, .setClock 40, .track ⟨0x1000, 4, 2, .write⟩]
    (run ops (fresh 50)).journal.stamps = [50, 40] ∧
      ¬ (run ops (fresh 50)).journal.stamps.Pairwise (· ≤ ·) := by
  decide

end Ledger

end GuestWatch
