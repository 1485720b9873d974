import GuestWatch.Proofs.Watch.Refresh

set_option relaxedAutoImplicit false
set_option autoImplicit false

/-!
# What passes count

A refresh finds that a watch shows the value seen last, or a new one, or that it cannot be read.
Which of these it is depends on the watch's own read alone. Write notices and polls count what their
refreshes find.

## Main definitions

* `GuestWatch.Watch.differs` — the watch shows a new value.
* `GuestWatch.Watch.unreadable` — the watch cannot be read.

## Main results

* `GuestWatch.WatchList.value_notifyWatches` — what a write notice counts.
* `GuestWatch.WatchList.value_pollWatches` — what a poll counts.
-/

namespace GuestWatch

/-- Where each entry leads to one result or to none, the results are counted by the entries that
lead to one. -/
lemma length_flatMap_eq_countP {α γ : Type} {results : α → List γ} {p : α → Bool} {entries : List α}
    (h : ∀ a ∈ entries, (results a).length = if p a then 1 else 0) :
    (entries.flatMap results).length = entries.countP p := by
  induction entries with
  | nil => rfl
  | cons a rest ih =>
    rw [List.flatMap_cons, List.length_append, List.countP_cons, h a List.mem_cons_self,
      ih fun b hb => h b (List.mem_cons_of_mem a hb), Nat.add_comm]

namespace Watch

/-- Whether a watch can be read and shows another value than the one seen last. -/
def differs (look : Look) (w : Watch) : Bool :=
  match look w.address w.size with
  | .error _ => false
  | .ok value => value != w.lastValue

/-- Whether a watch cannot be read. -/
def unreadable (look : Look) (w : Watch) : Bool :=
  match look w.address w.size with
  | .error _ => true
  | .ok _ => false

variable {look : Look} {w : Watch}

/-- A watch that shows the value seen last neither differs nor fails. -/
lemma not_differs_of_same (h : look w.address w.size = .ok w.lastValue) :
    w.differs look = false ∧ w.unreadable look = false := by
  simp [differs, unreadable, h]

/-- A watch that was read again and is still active shows nothing new. -/
lemma not_differs_reread (h : (w.reread look).active = true) :
    (w.reread look).differs look = false ∧ (w.reread look).unreadable look = false :=
  not_differs_of_same (look_reread h)

/-- An active watch is active after it was read again, unless it cannot be read. -/
lemma active_reread (h : w.active = true) : (w.reread look).active = !w.unreadable look := by
  cases hlook : look w.address w.size with
  | error fault => simp [reread, unreadable, hlook]
  | ok value => by_cases hsame : value = w.lastValue <;> simp [reread, unreadable, hlook, hsame, h]

/-- A watch that cannot be read comes to one end, and no other watch does. -/
lemma length_ending (look : Look) (w : Watch) :
    (w.ending look).length = if w.unreadable look then 1 else 0 := by
  unfold ending unreadable
  cases look w.address w.size <;> rfl

/-- What a refresh finds depends on what the read answers. -/
lemma refresh_value (w : Watch) (probe : Probe Ram) :
    (w.refresh probe).value = match probe.memory.look w.address w.size with
      | .error fault => .failed fault
      | .ok value => if value = w.lastValue then .steady else .changed (w.changeTo value) := by
  simp only [refresh, Probe.attempt_value]
  cases probe.memory.look w.address w.size with
  | error fault => rfl
  | ok value =>
    simp only
    split <;> rfl

end Watch

namespace WatchList

open Watch

/-- A write notice counts the watches that it hits and that show something new. -/
theorem value_notifyWatches (address size : UInt32) (ws : List Watch) (probe : Probe Ram) :
    (notifyWatches address size ws probe).value =
      ws.countP fun w => isNotified address size w && w.differs probe.memory.look := by
  induction ws generalizing probe with
  | nil => rfl
  | cons w rest ih =>
    rw [List.countP_cons]
    by_cases hhit : isNotified address size w = true
    · have htail := ih (w.refresh probe).state.2
      rw [(refresh_recounted w probe).alike.look_eq] at htail
      simp only [notifyWatches, hhit, if_true, htail, Bool.true_and, refresh_value, differs]
      cases probe.memory.look w.address w.size with
      | error fault => simp
      | ok value => by_cases hsame : value = w.lastValue <;> simp [hsame, Nat.add_comm 1]
    · simp [notifyWatches, hhit, ih]

/-- What a poll of one watch counts depends on what the read answers, also where the range is
refused at once. -/
lemma value_pollWatch (w : Watch) (probe : Probe Ram) (ledger : Ledger) :
    (pollWatch w probe ledger).value =
      { fired := if w.differs probe.memory.look then 1 else 0
        deactivated := if w.unreadable probe.memory.look then 1 else 0 } := by
  unfold pollWatch
  split
  · rename_i fault hrange
    simp [differs, unreadable, Ram.look_of_refused hrange]
  · have hvalue := refresh_value w probe
    cases hlook : probe.memory.look w.address w.size with
    | error fault =>
      simp only [hlook] at hvalue
      simp [hvalue, differs, unreadable, hlook]
    | ok value =>
      by_cases hsame : value = w.lastValue <;> simp only [hlook, hsame, if_true, if_false] at hvalue
        <;> simp [hvalue, differs, unreadable, hlook, hsame]

/-- **A poll counts the watches that show something new, and those that cannot be read.**

**Proof sketch.** By induction on the list. The poll of the first watch leaves the memory alike, so
the reads of the others answer the same as before. -/
theorem value_pollWatches (ws : List Watch) (probe : Probe Ram) (ledger : Ledger) :
    (pollWatches ws probe ledger).value =
      { fired := ws.countP (differs probe.memory.look)
        deactivated := ws.countP (unreadable probe.memory.look) } := by
  induction ws generalizing probe ledger with
  | nil => rfl
  | cons w rest ih =>
    have htail := ih (pollWatch w probe ledger).state.2.1 (pollWatch w probe ledger).state.2.2
    rw [(pollWatch_recounted w probe ledger).alike.look_eq] at htail
    simp only [pollWatches, htail, value_pollWatch, List.countP_cons]
    rw [Nat.add_comm (List.countP _ _), Nat.add_comm (List.countP _ _)]

end WatchList

end GuestWatch
