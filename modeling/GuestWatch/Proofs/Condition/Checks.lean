import GuestWatch.Condition.Set
import GuestWatch.Proofs.Address
import Mathlib.Data.List.Infix
import Mathlib.Data.List.Nodup

set_option relaxedAutoImplicit false
set_option autoImplicit false

/-!
# What a check of conditions reports

A check evaluates each active condition that it selects, also after one has failed, and tells every
callback each outcome. So the whole check is told by the list of its outcomes: the value is their
conjunction, and the callbacks are called in the order of the outcomes and, for each of them, in the
order of their registration. What the checks of two ranges report together, or the check of all
addresses, is then a question about lists of outcomes.

## Main definitions

* `GuestWatch.Callback.hear` — a callback that was told messages.
* `GuestWatch.ConditionSet.Reachable` — the sets that come about.
* `GuestWatch.ConditionSet.outcomes` — the outcomes of a check.
* `GuestWatch.ConditionSet.Reports` — a check that reports these outcomes and does nothing else.

## Main results

* `GuestWatch.ConditionSet.check_reports` — a check reports its outcomes.
* `GuestWatch.ConditionSet.outcomes_split` — the outcomes of two adjacent ranges are those of both.
* `GuestWatch.ConditionSet.Reachable.nodup_addresses` — a set holds one condition for each address.
* `GuestWatch.ConditionSet.checks_split` — what the three checks report, and how they are related.
-/

namespace GuestWatch

variable {α : Type}

/-! ## Callbacks that are told messages -/

/-- The callback after it was told messages, one after the other. -/
def Callback.hear (c : Callback α) (messages : List α) : Callback α :=
  { c with history := messages.reverse ++ c.history }

/-- A callback may be told the first message and then the others. -/
lemma Callback.hear_cons (c : Callback α) (message : α) (messages : List α) :
    (c.call message).2.hear messages = c.hear (message :: messages) := by
  simp only [call, hear, List.reverse_cons, List.append_assoc, List.singleton_append]

/-- Telling a message to callbacks calls each of them, in their order. -/
lemma Callback.tellAll_eq (event : String → α → Event) (message : α)
    (callbacks : List (Callback α)) :
    tellAll event message callbacks =
      ⟨(), callbacks.map fun c => (c.call message).2,
        { commands := callbacks.flatMap fun c => (c.call message).1
          events := callbacks.map fun c => event c.name message }⟩ := by
  induction callbacks with
  | nil => rfl
  | cons c rest ih =>
    rw [tellAll, ih]
    rfl

namespace ConditionSet

/-! ## Sets that come about -/

/-- The sets that come about: from an empty one, by any use of it. -/
inductive Reachable : ConditionSet → Prop where
  /-- A new set. -/
  | new : Reachable {}
  /-- A condition is added, or refused. -/
  | add {set : ConditionSet} (h : Reachable set) (c : Condition) : Reachable (set.add c).state
  /-- The condition at an address is removed. -/
  | remove {set : ConditionSet} (h : Reachable set) (address : UInt32) :
      Reachable (set.remove address).state
  /-- Every condition is removed. -/
  | clear {set : ConditionSet} (h : Reachable set) : Reachable set.clear.state
  /-- A callback is added. -/
  | addCallback {set : ConditionSet} (h : Reachable set) (callback : ConditionCallback) :
      Reachable (set.addCallback callback)
  /-- Every callback is removed. -/
  | removeCallbacks {set : ConditionSet} (h : Reachable set) : Reachable set.removeCallbacks
  /-- Some of the conditions are checked. -/
  | check {set : ConditionSet} (h : Reachable set) (selects : Condition → Bool)
      (observed : Condition → UInt32) : Reachable (set.check selects observed).state

/-- The condition that is added takes the place of the one at its address. -/
lemma add_keeps {set : ConditionSet} (c : Condition)
    (hnodup : (set.conditions.map Condition.address).Nodup)
    (hlegal : ∀ o ∈ set.conditions, Legal o.address o.size) :
    ((set.add c).state.conditions.map Condition.address).Nodup ∧
      ∀ o ∈ (set.add c).state.conditions, Legal o.address o.size := by
  unfold add
  split
  · exact ⟨hnodup, hlegal⟩
  · rename_i w hrange
    constructor
    · rw [List.map_append, List.map_singleton]
      refine List.nodup_append.mpr ⟨?_, List.nodup_singleton _, ?_⟩
      · exact hnodup.sublist (List.filter_sublist.map _)
      · intro place hplace other hother
        obtain ⟨o, ho, rfl⟩ := List.mem_map.mp hplace
        rw [List.mem_singleton.mp hother]
        have hne := (List.mem_filter.mp ho).2
        simpa only [bne_iff_ne] using hne
    · intro o ho
      rcases List.mem_append.mp ho with hold | hnew
      · exact hlegal o (List.mem_of_mem_filter hold)
      · rw [List.mem_singleton.mp hnew]
        exact legal_iff.mpr ⟨w, hrange⟩

/-- **A set holds one condition for each address.**

**Proof sketch.** By induction on how the set came about. Adding a condition drops the one at its
address, and nothing else puts one in. -/
theorem Reachable.nodup_addresses {set : ConditionSet} (h : Reachable set) :
    (set.conditions.map Condition.address).Nodup := by
  have hkept : (set.conditions.map Condition.address).Nodup ∧
      ∀ c ∈ set.conditions, Legal c.address c.size := by
    induction h with
    | new => exact ⟨List.nodup_nil, List.forall_mem_nil _⟩
    | add _ c ih => exact add_keeps c ih.1 ih.2
    | remove _ address ih =>
      unfold ConditionSet.remove
      split
      · refine ⟨ih.1.sublist (List.filter_sublist.map _), fun c hc => ?_⟩
        exact ih.2 c (List.mem_of_mem_filter hc)
      · exact ih
    | clear => exact ⟨List.nodup_nil, List.forall_mem_nil _⟩
    | addCallback _ _ ih | removeCallbacks _ ih | check _ _ _ ih => exact ih
  exact hkept.1

/-! ## What a check reports -/

/-- The outcomes of a check: each active condition that it selects, oldest first, with whether it
holds of what is observed of it. -/
def outcomes (set : ConditionSet) (selects : Condition → Bool) (observed : Condition → UInt32) :
    List (Condition × Bool) :=
  (set.conditions.filter fun c => c.active && selects c).map fun c => (c, c.holds (observed c))

/-- The calls that tell outcomes: for each outcome one of every callback, in the order of their
registration. -/
def calls (set : ConditionSet) (outcomes : List (Condition × Bool)) : List Event :=
  outcomes.flatMap fun outcome => set.callbacks.map fun c => outcomeEvent c.name outcome

/-- A check that reports given outcomes and does nothing else. -/
structure Reports (set : ConditionSet) (outcomes : List (Condition × Bool))
    (checked : Outcome ConditionSet Bool) : Prop where
  /-- The check passes when every outcome is positive. -/
  value : checked.value = outcomes.all Prod.snd
  /-- For each outcome every callback is called once. -/
  events : checked.journal.events = set.calls outcomes
  /-- On each of these calls a callback may ask for commands, knowing the outcomes up to then. -/
  commands : checked.journal.commands = outcomes.inits.tail.flatMap fun heard =>
    set.callbacks.flatMap fun c => c.answer (heard.reverse ++ c.history)
  /-- Nothing is noted. -/
  notes : checked.journal.notes = []
  /-- The conditions stay, and the callbacks have been told the outcomes. -/
  state : checked.state = { set with callbacks := set.callbacks.map fun c => c.hear outcomes }

/-- The first of some outcomes is told to every callback before the others are. -/
lemma Reports.cons {set : ConditionSet} {outcome : Condition × Bool}
    {others : List (Condition × Bool)} {checked : Outcome ConditionSet Bool}
    (h : Reports { set with callbacks := set.callbacks.map fun c => (c.call outcome).2 } others
      checked) :
    Reports set (outcome :: others) ⟨outcome.2 && checked.value, checked.state,
      (Callback.tellAll outcomeEvent outcome set.callbacks).journal ++ checked.journal⟩ := by
  rw [Callback.tellAll_eq]
  constructor
  · rw [List.all_cons, h.value]
  · rw [Journal.events_append, h.events, calls, calls, List.flatMap_cons]
    refine congrArg _ (List.flatMap_congr fun other _ => ?_)
    exact List.map_map
  · -- what is heard by a later call is what is heard of the others, after the first
    have hparts : others.inits = [] :: others.inits.tail := by cases others <;> rfl
    rw [Journal.commands_append, h.commands, List.inits_cons, List.tail_cons, hparts, List.map_cons,
      List.flatMap_cons, List.flatMap_map, List.tail_cons]
    refine congrArg _ (List.flatMap_congr fun heard _ => ?_)
    rw [List.flatMap_map]
    refine List.flatMap_congr fun c _ => ?_
    rw [List.reverse_cons, List.append_assoc]
    rfl
  · rw [Journal.notes_append, h.notes, List.append_nil]
  · rw [h.state]
    refine congrArg (ConditionSet.mk set.conditions) (List.map_map.trans ?_)
    exact List.map_congr_left fun c _ => c.hear_cons outcome others

/-- Evaluating conditions reports their outcomes, whatever they are.

**Proof sketch.** By induction on the conditions. The first outcome is told to all callbacks before
the others are, so the callbacks know it by then. -/
lemma evaluate_reports (observed : Condition → UInt32) (conditions kept : List Condition)
    (callbacks : List ConditionCallback) :
    Reports ⟨kept, callbacks⟩ (conditions.map fun c => (c, c.holds (observed c)))
      ⟨(evaluate observed conditions callbacks).value,
        ⟨kept, (evaluate observed conditions callbacks).state⟩,
        (evaluate observed conditions callbacks).journal⟩ := by
  induction conditions generalizing callbacks with
  | nil => constructor <;> simp [evaluate, calls, Callback.hear]
  | cons c rest ih =>
    have hall := @Reports.cons ⟨kept, callbacks⟩ (c, c.holds (observed c)) _ _ (ih _)
    rw [Callback.tellAll_eq] at hall
    simp only [evaluate, Callback.tellAll_eq]
    exact hall

/-- **A check reports its outcomes**, all of them, also after one that is negative. -/
theorem check_reports (set : ConditionSet) (selects : Condition → Bool)
    (observed : Condition → UInt32) :
    Reports set (set.outcomes selects observed) (set.check selects observed) :=
  evaluate_reports observed _ set.conditions set.callbacks

/-- Callbacks that have been told something are called as before. -/
lemma calls_hear (set : ConditionSet) (heard outcomes : List (Condition × Bool)) :
    calls { set with callbacks := set.callbacks.map fun c => c.hear heard } outcomes =
      set.calls outcomes :=
  List.flatMap_congr fun _ _ => List.map_map

/-! ## The three checks -/

variable {set : ConditionSet} {start middle last : UInt32}

/-- The outcomes of the conditions at the addresses from `start` to `last`, on their own operand. -/
def outcomesBetween (set : ConditionSet) (start last : UInt32) : List (Condition × Bool) :=
  set.outcomes (fun c => start ≤ c.address && c.address ≤ last) Condition.value

/-- At one address there is at most one outcome. -/
lemma length_outcomes_le_one (hnodup : (set.conditions.map Condition.address).Nodup)
    (address : UInt32) (observed : Condition → UInt32) :
    (set.outcomes (fun c => c.address == address) observed).length ≤ 1 := by
  rw [outcomes, List.length_map, ← List.countP_eq_length_filter]
  calc set.conditions.countP (fun c => c.active && c.address == address)
      ≤ set.conditions.countP fun c => c.address == address :=
        List.countP_mono_left fun c _ hc => (Bool.and_eq_true_iff.mp hc).2
    _ = (set.conditions.map Condition.address).count address := by
        rw [List.count, List.countP_map]
        rfl
    _ ≤ 1 := List.nodup_iff_count_le_one.mp hnodup address

/-- **The outcomes of two adjacent ranges are those of both together.**

**Proof sketch.** Each condition with an address in the whole range has it in one of the two. The
first address of the upper one is computed without wrapping, since there is one above `middle`. -/
theorem outcomes_split (set : ConditionSet) (hlow : start ≤ middle) (hhigh : middle < last) :
    (set.outcomesBetween start last).Perm
      (set.outcomesBetween start middle ++ set.outcomesBetween (middle + 1) last) := by
  have hone : (1 : UInt32).toNat = 1 := rfl
  have hnext : (middle + 1).toNat = middle.toNat + 1 := by
    have hbelow := UInt32.lt_iff_toNat_lt.mp hhigh
    have hlast := last.toNat_lt
    rw [UInt32.toNat_add, hone, Nat.mod_eq_of_lt (by omega)]
  rw [UInt32.le_iff_toNat_le] at hlow
  rw [UInt32.lt_iff_toNat_lt] at hhigh
  -- sort the conditions of the whole range by whether they belong to its lower part
  have hparts := (List.filter_append_perm (fun c : Condition => c.address ≤ middle)
    (set.conditions.filter fun c => c.active && (start ≤ c.address && c.address ≤ last))).symm.map
      fun c => (c, c.holds c.value)
  rw [List.map_append, List.filter_filter, List.filter_filter] at hparts
  refine hparts.trans (List.Perm.of_eq ?_)
  refine congrArg₂ (fun lower upper => List.map _ lower ++ List.map _ upper) ?_ ?_
  · refine List.filter_congr fun c _ => ?_
    rw [Bool.and_left_comm]
    refine congrArg (c.active && ·) ?_
    rw [Bool.eq_iff_iff]
    simp only [Bool.and_eq_true, decide_eq_true_eq, UInt32.le_iff_toNat_le]
    omega
  · refine List.filter_congr fun c _ => ?_
    rw [Bool.and_left_comm]
    refine congrArg (c.active && ·) ?_
    rw [Bool.eq_iff_iff]
    simp only [Bool.and_eq_true, Bool.not_eq_true', decide_eq_true_eq, decide_eq_false_iff_not,
      UInt32.le_iff_toNat_le, hnext]
    omega

/-- Over all addresses every condition is checked. -/
lemma checkBetween_all (set : ConditionSet) : set.checkBetween 0 0xffffffff = set.checkAll := by
  have hevery : (fun c : Condition => decide (0 ≤ c.address) && decide (c.address ≤ 0xffffffff)) =
      fun _ => true := by
    funext c
    have hlast := c.address.toNat_lt
    have hbound : (0xffffffff : UInt32).toNat = 4294967295 := rfl
    rw [Bool.and_eq_true_iff, decide_eq_true_eq, decide_eq_true_eq, UInt32.le_iff_toNat_le,
      UInt32.le_iff_toNat_le, hbound]
    exact ⟨Nat.zero_le _, by omega⟩
  rw [checkBetween, hevery, checkAll]

/-- Where the last address comes before the first, no condition is checked. -/
lemma checkBetween_empty (set : ConditionSet) (h : last < start) :
    set.checkBetween start last = ⟨true, set, {}⟩ := by
  have hnone : (set.conditions.filter fun c =>
      c.active && (decide (start ≤ c.address) && decide (c.address ≤ last))) = [] := by
    refine List.filter_eq_nil_iff.mpr fun c _ hc => ?_
    simp only [Bool.and_eq_true, decide_eq_true_eq, UInt32.le_iff_toNat_le] at hc
    rw [UInt32.lt_iff_toNat_lt] at h
    omega
  rw [checkBetween, check, hnone]
  rfl

/-- **Checks report every outcome**, on any set that comes about. A check evaluates each active
condition that it selects: on the value of the caller when it is the check of one address, and else
on the operand of the condition. Every callback is called once for each outcome, in the order of the
conditions and, for each of them, of the registration, also after an outcome that is negative. The
check passes when all outcomes are positive, and it changes nothing but what the callbacks have been
told. At one address there is at most one outcome. The check of all addresses is the check of all
conditions. A range may be checked in two parts, one after the other or each for itself: the whole
passes when both parts do, and they report the same outcomes as the whole. Where the last address
comes before the first, the check passes and nothing is reported.

**Proof sketch.** A check is told by the list of its outcomes, so the rest is about which conditions
are selected. That there is at most one at an address is the invariant that no two of them share
one. -/
theorem checks_split (h : Reachable set) :
    (∀ address value : UInt32,
      Reports set (set.outcomes (fun c => c.address == address) fun _ => value)
        (set.checkAddress address value) ∧
      (set.outcomes (fun c => c.address == address) fun _ => value).length ≤ 1) ∧
    (∀ start last : UInt32,
      Reports set (set.outcomesBetween start last) (set.checkBetween start last)) ∧
    Reports set (set.outcomes (fun _ => true) Condition.value) set.checkAll ∧
    set.checkBetween 0 0xffffffff = set.checkAll ∧
    (∀ start middle last : UInt32, start ≤ middle → middle < last →
      let whole := set.checkBetween start last
      let lower := set.checkBetween start middle
      let upper := lower.state.checkBetween (middle + 1) last
      let apart := set.checkBetween (middle + 1) last
      whole.value = (lower.value && upper.value) ∧
        whole.journal.events.Perm (lower.journal.events ++ upper.journal.events) ∧
        apart.value = upper.value ∧ apart.journal.events = upper.journal.events) ∧
    (∀ start last : UInt32, last < start → set.checkBetween start last = ⟨true, set, {}⟩) := by
  refine ⟨fun address value => ⟨check_reports set _ _, ?_⟩, fun start last => check_reports set _ _,
    check_reports set _ _, checkBetween_all set, fun start middle last hlow hhigh => ?_,
    fun start last hnone => checkBetween_empty set hnone⟩
  · exact length_outcomes_le_one h.nodup_addresses address _
  · intro whole lower upper apart
    have hwhole : Reports set (set.outcomesBetween start last) whole := check_reports set _ _
    have hlower : Reports set (set.outcomesBetween start middle) lower := check_reports set _ _
    have hapart : Reports set (set.outcomesBetween (middle + 1) last) apart := check_reports set _ _
    -- the first part leaves the conditions, so the second selects what it would have selected
    have hupper : Reports lower.state (set.outcomesBetween (middle + 1) last) upper :=
      check_reports lower.state _ _
    have hsplit := set.outcomes_split hlow hhigh
    have hcalls : upper.journal.events = set.calls (set.outcomesBetween (middle + 1) last) := by
      rw [hupper.events, hlower.state, calls_hear]
    refine ⟨?_, ?_, ?_, ?_⟩
    · rw [hwhole.value, hlower.value, hupper.value, ← List.all_append]
      exact hsplit.all_eq
    · rw [hwhole.events, hlower.events, hcalls, calls, calls, calls, ← List.flatMap_append]
      exact hsplit.flatMap_right _
    · rw [hapart.value, hupper.value]
    · rw [hapart.events, hcalls]

/-- A set with two conditions, of which the second does not hold of its own operand, and two
callbacks, of which the first asks for the removal of the conditions once one has failed. -/
def graded : ConditionSet :=
  ((((({} : ConditionSet).add ⟨0x10, 4, 9, 0, 0, 0, .lessEqual, true⟩).state.add
    ⟨0x20, 4, 9, 0, 0, 0, .greaterThan, true⟩).state.addCallback
      (.script "purge" [.clearConditions] 1 fun outcome => !outcome.2)).addCallback
        (.script "log" [] 0 fun _ => true))

/-- Both outcomes of `graded` are reported to both callbacks, and in two parts as well. -/
theorem checks_split_graded :
    let lower := graded.checkBetween 0 0x1f
    let upper := lower.state.checkBetween (0x1f + 1) 0x2f
    Reachable graded ∧ graded.checkAll.value = false ∧
      graded.checkAll.journal.events =
        [.evaluated "purge" ⟨0x10, 4, 9, 0, 0, 0, .lessEqual, true⟩ true,
          .evaluated "log" ⟨0x10, 4, 9, 0, 0, 0, .lessEqual, true⟩ true,
          .evaluated "purge" ⟨0x20, 4, 9, 0, 0, 0, .greaterThan, true⟩ false,
          .evaluated "log" ⟨0x20, 4, 9, 0, 0, 0, .greaterThan, true⟩ false] ∧
      graded.checkAll.journal.commands = [.clearConditions] ∧
      graded.checkBetween 0 0xffffffff = graded.checkAll ∧
      lower.value = true ∧ upper.value = false ∧
      (graded.checkBetween 0 0x2f).journal.events.Perm
        (lower.journal.events ++ upper.journal.events) := by
  intro lower upper
  have hreach : Reachable graded := (((Reachable.new.add _).add _).addCallback _).addCallback _
  obtain ⟨-, -, hall, hevery, hsplit, -⟩ := checks_split hreach
  obtain ⟨-, hevents, -, -⟩ := hsplit 0 0x1f 0x2f (by decide) (by decide)
  exact ⟨hreach, hall.value, hall.events, rfl, hevery, rfl, rfl, hevents⟩

end ConditionSet

end GuestWatch
