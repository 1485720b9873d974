import GuestWatch.Proofs.Monitor.Charges
import GuestWatch.Proofs.Monitor.Protection
import GuestWatch.Proofs.Monitor.Tables

set_option relaxedAutoImplicit false
set_option autoImplicit false

/-!
# What is added and what is refused

A host adds watches, conditions and protected regions to a monitor. Each of them is checked before
anything is changed, so an addition either succeeds or leaves the monitor as it was, with one fault
counted. For a condition and a region only the range is checked. A watch is checked four times over:
the monitor must be started, the range legal, the width one that can be watched, and the value one
that can be read. The memory is read for the last of these only.

## Main definitions

* `GuestWatch.Journal.Uncalled` — a journal in which nobody was called.
* `GuestWatch.WatchList.Placed` — a watch has come into a list, and nothing else has changed there.
* `GuestWatch.Monitor.WatchRefused` — the ways in which a watch is refused.
* `GuestWatch.Monitor.WatchAdded` — a watch was added.
* `GuestWatch.Monitor.withCondition`, `GuestWatch.Monitor.withRegion` — the monitor with a condition
  or a region added.
* `GuestWatch.Monitor.AddsLegal` — an addition for which only the range is checked.

## Main results

* `GuestWatch.WatchList.place_placed` — placing a watch changes the entry at its address only.
* `GuestWatch.Monitor.addWatch_added_or_refused` — adding a watch does one of the two.
* `GuestWatch.Monitor.additions_atomic` — when additions succeed, and what they leave when they do
  not.
-/

namespace GuestWatch

/-- A journal in which nobody was called, and so nobody asked for a command. -/
structure Journal.Uncalled (j : Journal) : Prop where
  /-- There are no calls. -/
  events : j.events = []
  /-- Nobody asked for a command. -/
  commands : j.commands = []

/-- A note is no call. -/
lemma Journal.Uncalled.note (n : Note) : (Journal.note n).Uncalled := ⟨rfl, rfl⟩

/-- Two journals without calls make one without calls. -/
lemma Journal.Uncalled.append {a b : Journal} (ha : a.Uncalled) (hb : b.Uncalled) :
    (a ++ b).Uncalled := by
  constructor
  · rw [Journal.events_append, ha.events, hb.events, List.append_nil]
  · rw [Journal.commands_append, ha.commands, hb.commands, List.append_nil]

namespace WatchList

/-! ## The entry of a watch -/

/-- A watch has come into a list of watches: it took the place of the only one at its address, or it
came in at the end when there was none. -/
inductive Placed (w : Watch) : List Watch → List Watch → Prop where
  /-- There was a watch at its address. -/
  | replaced {before after : List Watch} {old : Watch} (hsame : old.address = w.address)
      (hothers : ∀ other ∈ before ++ after, other.address ≠ w.address) :
      Placed w (before ++ old :: after) (before ++ w :: after)
  /-- There was none. -/
  | appended {ws : List Watch} (hothers : ∀ other ∈ ws, other.address ≠ w.address) :
      Placed w ws (ws ++ [w])

/-- A watch at another address may stand in front. -/
lemma Placed.cons {w first : Watch} {ws ws' : List Watch} (hfirst : first.address ≠ w.address)
    (h : Placed w ws ws') : Placed w (first :: ws) (first :: ws') := by
  cases h with
  | @replaced before after old hsame hothers =>
    have hall : ∀ other ∈ first :: before ++ after, other.address ≠ w.address :=
      List.forall_mem_cons.mpr ⟨hfirst, hothers⟩
    exact @Placed.replaced w (first :: before) after old hsame hall
  | appended hothers => exact Placed.appended (List.forall_mem_cons.mpr ⟨hfirst, hothers⟩)

/-- **Placing a watch changes the entry at its address only**, where no two watches share one. -/
theorem place_placed {ws : List Watch} (hnodup : (ws.map Watch.address).Nodup) (w : Watch) :
    Placed w ws (place w ws) := by
  induction ws with
  | nil => exact Placed.appended (List.forall_mem_nil _)
  | cons first rest ih =>
    rw [List.map_cons, List.nodup_cons] at hnodup
    by_cases hsame : first.address = w.address
    · rw [place, if_pos hsame]
      refine @Placed.replaced w [] rest first hsame fun other hother hagain => ?_
      exact hnodup.1 (List.mem_map.mpr ⟨other, hother, hagain.trans hsame.symm⟩)
    · rw [place, if_neg hsame]
      exact (ih hnodup.2).cons hsame

end WatchList

namespace Monitor

variable {m : Monitor} {address size : UInt32} {callback : Option (Callback Change)}

/-! ## Watches -/

/-- The ways in which a watch is refused, with what each leaves of the monitor. -/
inductive WatchRefused (m : Monitor) (address size : UInt32) : Monitor → Prop where
  /-- A monitor that is not started stays as it is. -/
  | inactive (hactive : m.active = false) : WatchRefused m address size m
  /-- For an illegal range a bounds fault is counted. -/
  | range (hactive : m.active = true) (hrange : ∀ w, checkRange address size ≠ .ok w) :
      WatchRefused m address size (m.record (.outOfBounds address size))
  /-- For a width that cannot be watched a fault of the setting is counted. -/
  | width (hactive : m.active = true) (hrange : ∃ w, checkRange address size = .ok w)
      (hwidth : size ∉ Watch.widths) :
      WatchRefused m address size (m.record (.configuration address .watchWidth size))
  /-- For a value that cannot be read the fault of the read is counted. Only then was the memory
  read. -/
  | read (hactive : m.active = true) (hrange : ∃ w, checkRange address size = .ok w)
      (hwidth : size ∈ Watch.widths) {fault : Fault}
      (hread : (m.probe.attempt address size).value = .error fault) (hkind : fault.kind = .read)
      (rawReads : Nat) :
      WatchRefused m address size
        ({ m with ram := { m.ram with rawReads := rawReads } }.record fault)

/-- What refuses a watch is that one of the checks fails. -/
lemma WatchRefused.not_all {m' : Monitor} (h : WatchRefused m address size m') :
    ¬(m.active = true ∧ (∃ w, checkRange address size = .ok w) ∧ size ∈ Watch.widths ∧
      ∃ value, (m.probe.attempt address size).value = .ok value) := by
  rintro ⟨hactive, ⟨w, hrange⟩, hwidth, value, hvalue⟩
  cases h with
  | inactive hinactive =>
    rw [hinactive] at hactive
    cases hactive
  | range _ hnone => exact hnone w hrange
  | width _ _ hnot => exact hnot hwidth
  | read _ _ _ hread =>
    rw [hread] at hvalue
    cases hvalue

/-- A watch was added, with the value that its range has, and nothing else has changed. -/
structure WatchAdded (m : Monitor) (address size : UInt32) (callback : Option (Callback Change))
    (m' : Monitor) : Prop where
  /-- The monitor is started. -/
  active : m.active = true
  /-- The range is legal. -/
  range : ∃ w, checkRange address size = .ok w
  /-- The width can be watched. -/
  width : size ∈ Watch.widths
  /-- The value can be read, before and afterwards, and the watch has come into the list with it. -/
  placed : ∃ value, (m.probe.attempt address size).value = .ok value ∧
    (m'.probe.attempt address size).value = .ok value ∧
    WatchList.Placed { address, size, lastValue := value, active := true, callback }
      m.watches.watches m'.watches.watches
  /-- All else is as it was, the count of raw reads apart. -/
  others : ∃ rawReads,
    m' = { m with watches := m'.watches, ram := { m.ram with rawReads := rawReads } }

/-- Adding a watch calls nobody. -/
lemma uncalled_addWatch (m : Monitor) (address size : UInt32)
    (callback : Option (Callback Change)) :
    (m.addWatch address size callback).journal.Uncalled := by
  have hadd : (m.watches.add m.probe address size callback).journal.Uncalled := by
    unfold WatchList.add
    split
    · exact ⟨rfl, rfl⟩
    · split
      · simp only
        split <;> exact ⟨rfl, rfl⟩
      · exact ⟨rfl, rfl⟩
  unfold addWatch
  split
  · simp only
    split
    · exact hadd
    · exact hadd.append (Journal.Uncalled.note _)
  · exact ⟨rfl, rfl⟩

/-- A read through a probe charges nothing to the tally. -/
lemma exists_withProbe_attempt (m : Monitor) (address size : UInt32) : ∃ rawReads,
    m.withProbe (m.probe.attempt address size).state =
      { m with ram := { m.ram with rawReads := rawReads } } := by
  obtain ⟨rawReads, hram⟩ := m.probe.attempt_recounted address size
  have htally := m.probe.tally_attempt address size
  refine ⟨rawReads, ?_⟩
  rw [withProbe, hram, htally]
  rfl

/-- **Adding a watch adds it or refuses it.**

**Proof sketch.** By the checks in their order. Nothing is changed before the last of them has
passed, and a read that is made for it only counts. -/
theorem addWatch_added_or_refused (hnodup : (m.watches.watches.map Watch.address).Nodup)
    (address size : UInt32) (callback : Option (Callback Change)) :
    ((m.addWatch address size callback).value = true ∧
      WatchAdded m address size callback (m.addWatch address size callback).state) ∨
    ((m.addWatch address size callback).value = false ∧
      WatchRefused m address size (m.addWatch address size callback).state) := by
  cases hactive : m.active with
  | false =>
    refine .inr ?_
    simp only [addWatch, hactive]
    exact ⟨rfl, .inactive hactive⟩
  | true =>
    simp only [addWatch, hactive, if_true, WatchList.add]
    cases hrange : checkRange address size with
    | error fault =>
      cases checkRange_eq_error hrange
      exact .inr ⟨rfl, .range hactive (checkRange_eq_error_iff.mp hrange)⟩
    | ok w =>
      by_cases hwidth : size ∈ Watch.widths
      · obtain ⟨rawReads, hread⟩ := m.exists_withProbe_attempt address size
        simp only [List.contains_iff_mem.mpr hwidth, if_true]
        cases hvalue : (m.probe.attempt address size).value with
        | error fault =>
          refine .inr ⟨rfl, ?_⟩
          have hkind : fault.kind = .read := by
            rw [Probe.attempt_value] at hvalue
            exact Ram.kind_of_look (Watch.isWidth_of_mem hwidth) hrange hvalue
          simp only [hread]
          exact .read hactive ⟨w, hrange⟩ hwidth hvalue hkind rawReads
        | ok value =>
          refine .inl ⟨rfl, hactive, ⟨w, hrange⟩, hwidth, ⟨value, hvalue, ?_, ?_⟩, rawReads, ?_⟩
          · -- a read of the memory that was read once more answers the same
            have halike := (m.probe.attempt_recounted address size).alike
            rw [Probe.attempt_value] at hvalue ⊢
            exact (congrFun (congrFun halike.look_eq address) size).trans hvalue
          · exact WatchList.place_placed hnodup _
          · simp only [hread]
      · simp only [List.contains_eq_mem, hwidth]
        exact .inr ⟨rfl, .width hactive ⟨w, hrange⟩ hwidth⟩

/-! ## Conditions and regions -/

/-- The monitor with a condition added: it comes in at the end, and the one at its address goes. -/
def withCondition (m : Monitor) (c : Condition) : Monitor :=
  { m with conditions.conditions :=
      (m.conditions.conditions.filter fun o => o.address != c.address) ++ [c] }

/-- The monitor with a region added: it comes in at the end, and those that it overlaps go. -/
def withRegion (m : Monitor) (r : Region) : Monitor :=
  { m with hardcore.guard.regions := Guard.Act.apply m.hardcore.guard.regions (.added r) }

/-- An addition for which only the range is checked: it succeeds exactly when the range is legal,
with a given monitor, and when it fails a bounds fault is counted and nothing else is changed. -/
structure AddsLegal (m : Monitor) (address size : UInt32) (success : Monitor)
    (added : Outcome Monitor Bool) : Prop where
  /-- It succeeds when some window accepts the range. -/
  succeeds : added.value = true ↔ ∃ w, checkRange address size = .ok w
  /-- When it succeeds, this is the monitor afterwards. -/
  succeeded : added.value = true → added.state = success
  /-- When it fails, one fault is counted. -/
  refused : added.value = false → added.state = m.record (.outOfBounds address size)
  /-- Nobody is called. -/
  uncalled : added.journal.Uncalled

/-- A condition is added when its range is legal. -/
lemma addsLegal_addCondition (m : Monitor) (c : Condition) :
    AddsLegal m c.address c.size (m.withCondition c) (m.addCondition c) := by
  unfold addCondition ConditionSet.add
  cases hrange : checkRange c.address c.size with
  | error fault =>
    cases checkRange_eq_error hrange
    exact ⟨by simp [hrange], nofun, fun _ => rfl, ⟨rfl, rfl⟩⟩
  | ok w => exact ⟨by simp [hrange], fun _ => rfl, nofun, ⟨rfl, rfl⟩⟩

/-- A protected region is added when its range is legal. -/
lemma addsLegal_addRegion (m : Monitor) (r : Region) :
    AddsLegal m r.start r.size (m.withRegion r) (m.addRegion r) := by
  unfold addRegion Hardcore.addRegion Guard.add
  cases hrange : checkRange r.start r.size with
  | error fault =>
    cases checkRange_eq_error hrange
    exact ⟨by simp [hrange], nofun, fun _ => rfl, ⟨rfl, rfl⟩⟩
  | ok w => exact ⟨by simp [hrange], fun _ => rfl, nofun, ⟨rfl, rfl⟩⟩

/-- A condition with the number of a comparison is added when there is such a comparison and the
range of the configured condition is legal. An unknown number is a fault of the setting. -/
lemma addConditionCode_cases (m : Monitor) (address size code : UInt32)
    (configure : Condition → Condition) :
    (∃ c, Condition.ofCode address size code = .ok c ∧
      AddsLegal m (configure c).address (configure c).size (m.withCondition (configure c))
        (m.addConditionCode address size code configure)) ∨
    (∃ fault, Condition.ofCode address size code = .error fault ∧ fault.kind = .configuration ∧
      m.addConditionCode address size code configure =
        ⟨false, m.record fault, Journal.note (.conditionRefused fault)⟩) := by
  unfold addConditionCode
  cases hcode : Condition.ofCode address size code with
  | ok c => exact .inl ⟨c, rfl, addsLegal_addCondition m (configure c)⟩
  | error fault =>
    refine .inr ⟨fault, rfl, ?_, rfl⟩
    unfold Condition.ofCode at hcode
    split at hcode
    · cases hcode
    · cases hcode
      rfl

/-! ## All additions -/

/-- **Additions succeed exactly when they should, and else change nothing**, on any reachable
monitor. A watch is added when the monitor is started, some window accepts the range, the width is
one that can be watched, and the value can be read. It then comes into the list with this value,
in the place of the watch at its address or at the end, and all other watches stay. When it is
refused, one fault is counted, or none by a monitor that is not started; the memory is only read
for a legal range of such a width, and nothing else is changed, the watch at the address
included. A condition or a protected region is added when some window accepts its range, in the
place of the condition at its address, or of the regions that it overlaps; else a bounds fault is
counted and nothing else is changed. The same holds for a condition that is given by the number of
its comparison, once the number is known; for an unknown one a fault of the setting is counted
instead. No addition calls anybody.

**Proof sketch.** By the checks of each addition in their order. That a watch has at most one entry
to replace is the invariant that no two watches of a reachable monitor share an address. -/
theorem additions_atomic (h : Reachable m) :
    (∀ (address size : UInt32) (callback : Option (Callback Change)),
      ((m.addWatch address size callback).value = true ↔
        m.active = true ∧ (∃ w, checkRange address size = .ok w) ∧ size ∈ Watch.widths ∧
          ∃ value, (m.probe.attempt address size).value = .ok value) ∧
      ((m.addWatch address size callback).value = true →
        WatchAdded m address size callback (m.addWatch address size callback).state) ∧
      ((m.addWatch address size callback).value = false →
        WatchRefused m address size (m.addWatch address size callback).state) ∧
      (m.addWatch address size callback).journal.Uncalled) ∧
    (∀ c : Condition, AddsLegal m c.address c.size (m.withCondition c) (m.addCondition c)) ∧
    (∀ r : Region, AddsLegal m r.start r.size (m.withRegion r) (m.addRegion r)) ∧
    (∀ (address size code : UInt32) (configure : Condition → Condition),
      (∃ c, Condition.ofCode address size code = .ok c ∧
        AddsLegal m (configure c).address (configure c).size (m.withCondition (configure c))
          (m.addConditionCode address size code configure)) ∨
      (∃ fault, Condition.ofCode address size code = .error fault ∧ fault.kind = .configuration ∧
        m.addConditionCode address size code configure =
          ⟨false, m.record fault, Journal.note (.conditionRefused fault)⟩)) := by
  refine ⟨fun address size callback => ?_, addsLegal_addCondition m, addsLegal_addRegion m,
    addConditionCode_cases m⟩
  have hnobody := uncalled_addWatch m address size callback
  rcases addWatch_added_or_refused h.distinct address size callback with
    ⟨htrue, hadded⟩ | ⟨hfalse, hrefused⟩
  · refine ⟨⟨fun _ => ?_, fun _ => htrue⟩, fun _ => hadded, fun hfalse => ?_, hnobody⟩
    · obtain ⟨value, hvalue, -, -⟩ := hadded.placed
      exact ⟨hadded.active, hadded.range, hadded.width, value, hvalue⟩
    · rw [htrue] at hfalse
      cases hfalse
  · refine ⟨⟨fun htrue => ?_, fun hall => ?_⟩, fun htrue => ?_, fun _ => hrefused, hnobody⟩
    · rw [hfalse] at htrue
      cases htrue
    · exact absurd hall hrefused.not_all
    · rw [hfalse] at htrue
      cases htrue

/-- A monitor with two watches: the value of the first has changed, and the second can no longer be
read. -/
def crowded : Monitor :=
  (run [.start, .addWatch 0x100 4 none, .addWatch 0x200 1 none, .memory (.setWord 0x100 7),
    .memory (.failAt 0x200)] (make {} 0)).state

/-- A narrower watch takes the place of the first one of `crowded`. The second one stays when one at
its address is refused, and so does everything for a region without a byte. -/
theorem additions_atomic_crowded :
    Reachable crowded ∧ crowded.watches.size = 2 ∧
      (crowded.addWatch 0x100 2 none).value = true ∧
      WatchAdded crowded 0x100 2 none (crowded.addWatch 0x100 2 none).state ∧
      (crowded.addWatch 0x200 1 none).value = false ∧
      WatchRefused crowded 0x200 1 (crowded.addWatch 0x200 1 none).state ∧
      (crowded.addRegion ⟨0x100, 0⟩).state = crowded.record (.outOfBounds 0x100 0) := by
  have hreach : Reachable crowded := (Reachable.make {} 0).run _
  obtain ⟨hwatch, -, hregion, -⟩ := additions_atomic hreach
  obtain ⟨-, hadded, -, -⟩ := hwatch 0x100 2 none
  obtain ⟨-, -, hrefused, -⟩ := hwatch 0x200 1 none
  exact ⟨hreach, rfl, rfl, hadded rfl, rfl, hrefused rfl, (hregion ⟨0x100, 0⟩).refused rfl⟩

end Monitor

end GuestWatch
