import GuestWatch.Proofs.Monitor.Tables

set_option relaxedAutoImplicit false
set_option autoImplicit false

/-!
# Watches that cease to be active

A watch ceases to be active when a write notice or a poll reads it again and the read fails. No other
move of the monitor does that: commands and removals drop a watch as it is, and a watch that is
added starts out active. So the watches that ceased to be active in an operation can be counted in
two ways, which come to the same: move by move, by comparing the lists of watches, or in the journal,
by the notes of the watches that were given up.

## Main definitions

* `GuestWatch.Monitor.lapsed` — how many watches ceased to be active between two states.
* `GuestWatch.Monitor.Lapses` — moves one after the other, and how many watches ceased to be active
  in them.
* `GuestWatch.Monitor.Idle` — a move that reads no watch again.

## Main results

* `GuestWatch.WatchList.Pass.length_endings` — a pass notes each watch that it ends.
* `GuestWatch.Monitor.Move.notified_or_polled_or_idle` — what a move may do to watches.
* `GuestWatch.Monitor.Lapses.count_eq` — however an operation is taken apart into moves, the watches
  that ceased to be active are those noted in its journal.
-/

namespace GuestWatch

variable {look : Look}

/-! ## Passes -/

namespace Watch

/-- Whether an active watch is found no longer active in a list, at its address. -/
def lapsedIn (ws' : List Watch) (w : Watch) : Bool :=
  w.active && ws'.any fun v => v.address == w.address && !v.active

/-- No watch ceases to be active where each one is an old one or is active. -/
lemma countP_lapsedIn_eq_zero {ws ws' : List Watch} (hnodup : (ws.map Watch.address).Nodup)
    (h : ∀ v ∈ ws', v ∈ ws ∨ v.active = true) : ws.countP (lapsedIn ws') = 0 := by
  rw [List.countP_eq_zero]
  intro w hw hlapsed
  rw [lapsedIn, Bool.and_eq_true, List.any_eq_true] at hlapsed
  obtain ⟨hactive, v, hv, hfound⟩ := hlapsed
  simp only [Bool.and_eq_true, beq_iff_eq, Bool.not_eq_true'] at hfound
  obtain ⟨haddress, hinactive⟩ := hfound
  rcases h v hv with hold | hnew
  · rw [sole_of_mem hnodup hw v hold haddress, hactive] at hinactive
    cases hinactive
  · rw [hnew] at hinactive
    cases hinactive

end Watch

namespace WatchList

open Watch

/-- **A pass over watches, of which it hits active ones, notes each watch that it ends.**

**Proof sketch.** The pass keeps addresses, and no two watches share one. So what is found at the
address of a watch afterwards is that watch, reread when it was hit. -/
theorem Pass.length_endings {hit : Watch → Bool} {ws ws' : List Watch} {j : Journal}
    (h : Pass look hit ws ws' j) (hnodup : (ws.map Watch.address).Nodup)
    (hactive : ∀ w ∈ ws, hit w = true → w.active = true) :
    j.endings.length = ws.countP (lapsedIn ws') := by
  rw [h.endings]
  refine length_flatMap_eq_countP fun w hw => ?_
  have hfound : (ws'.any fun v => v.address == w.address && !v.active) =
      !(if hit w then w.reread look else w).active := by
    rw [h.watches, List.any_map, Bool.eq_iff_iff, List.any_eq_true]
    simp only [Function.comp_apply, Bool.and_eq_true, beq_iff_eq]
    constructor
    · rintro ⟨u, hu, haddress, hinactive⟩
      have hsame : u.address = w.address := by
        rw [← haddress]
        split <;> simp
      rw [sole_of_mem hnodup hw u hu hsame] at hinactive
      exact hinactive
    · intro hinactive
      refine ⟨w, hw, ?_, hinactive⟩
      split <;> simp
  rw [lapsedIn, hfound]
  by_cases hhit : hit w = true
  · rw [if_pos hhit, if_pos hhit, hactive w hw hhit, active_reread (hactive w hw hhit),
      length_ending]
    cases w.unreadable look <;> rfl
  · rw [if_neg hhit, if_neg hhit]
    cases w.active <;> rfl

end WatchList

namespace Monitor

variable {op : MonitorOp} {m m' : Monitor} {j : Journal}

/-! ## Moves -/

/-- How many active watches of one state are found no longer active in another one. -/
def lapsed (m m' : Monitor) : Nat := m.watches.watches.countP (Watch.lapsedIn m'.watches.watches)

/-- What a move does that reads no watch again: no watch ends, each watch is an old one or is active,
and within an operation that settles the fault counters stay. -/
structure Idle (op : MonitorOp) (m : Monitor) (j : Journal) (m' : Monitor) : Prop where
  /-- No watch ends. -/
  endings : j.endings = []
  /-- Each watch is an old one or is active. -/
  watches : ∀ w ∈ m'.watches.watches, w ∈ m.watches.watches ∨ w.active = true
  /-- Nothing is counted on the way of an operation that settles. -/
  tally : op.settles = true → m'.tally = m.tally

/-- A calm move that only drops watches is idle. -/
lemma Idle.of_calm (hcalm : j.Calm) (hwatches : m'.watches.watches.Sublist m.watches.watches)
    (htally : m'.tally = m.tally) : Idle op m j m' :=
  ⟨hcalm.endings, fun _ hw => Or.inl (hwatches.subset hw), fun _ => htally⟩

lemma tally_unloadGame (m : Monitor) : m.unloadGame.state.tally = m.tally := by
  unfold unloadGame
  split <;> rfl

/-- Commands count nothing. -/
lemma tally_carryOut (m : Monitor) (command : Command) :
    (m.carryOut command).state.tally = m.tally := by
  cases command with
  | unloadGame => exact tally_unloadGame m
  | disableAchievements => exact tally_unloadGame _
  | _ => rfl

/-- The whole of an operation that does not settle is idle: a watch that it adds is active. -/
lemma idle_direct (m : Monitor) (h : op.settles = false) :
    Idle op m (m.step op).journal (m.step op).state := by
  refine ⟨(quiet_step m h).endings, ?_, fun hsettles => ?_⟩
  · by_cases hadds : ∀ address size callback, op ≠ .addWatch address size callback
    · exact fun w hw => Or.inl ((watches_step m h hadds).subset hw)
    · push Not at hadds
      obtain ⟨address, size, callback, rfl⟩ := hadds
      intro w hw
      simp only [step, answer] at hw
      rcases addWatch_cases m address size callback with ⟨-, value, -, hplaced⟩ | ⟨-, hsame⟩
      · rw [hplaced] at hw
        rcases WatchList.mem_of_mem_place hw with rfl | hold
        · exact Or.inr rfl
        · exact Or.inl hold
      · rw [hsame] at hw
        exact Or.inl hw
  · rw [h] at hsettles
    cases hsettles

/-- **What a move may do to watches**: it notices a write, it polls, or it is idle. -/
theorem Move.notified_or_polled_or_idle (h : Move op m j m') :
    (∃ address size, j = (m.notify address size).journal ∧
      m' = (m.notify address size).state) ∨
    (j = m.poll.journal ∧ m' = m.poll.state) ∨ Idle op m j m' := by
  cases h with
  | notified address size => exact Or.inl ⟨address, size, rfl, rfl⟩
  | polled => exact Or.inr (Or.inl ⟨rfl, rfl⟩)
  | carried h =>
    rename_i command rest
    have hdone : Idle op m ({ m with followUps := rest }.carryOut command).journal
        ({ m with followUps := rest }.carryOut command).state :=
      Idle.of_calm (calm_carryOut _ _) (within_carryOut_rest m _ _).watches (tally_carryOut _ _)
    exact Or.inr (Or.inr ⟨hdone.endings, hdone.watches, hdone.tally⟩)
  | tracked access =>
    have hquiet := (WatchList.plain_track m.ledger access).quiet
    exact Or.inr (Or.inr (Idle.of_calm hquiet.toCalm (List.Sublist.refl _) rfl))
  | installed =>
    have hquiet := (plain_installIntercepts m).quiet
    obtain ⟨reads, writes, installed, hstate⟩ := m.installIntercepts_frame
    rw [hstate]
    exact Or.inr (Or.inr (Idle.of_calm hquiet.toCalm (List.Sublist.refl _) rfl))
  | taken =>
    exact Or.inr (Or.inr (Idle.of_calm Journal.Quiet.empty.toCalm (List.Sublist.refl _) rfl))
  | checked selects observed =>
    have hcalm := calm_afterCheck m selects observed
    exact Or.inr (Or.inr (Idle.of_calm hcalm (List.Sublist.refl _) rfl))
  | switched on =>
    have hwithin := within_switchHardcore m on
    exact Or.inr (Or.inr (Idle.of_calm (calm_switchHardcore m on) hwithin.watches rfl))
  | ended =>
    have hwithin := within_endSession m
    exact Or.inr (Or.inr (Idle.of_calm (calm_endSession m) hwithin.watches (tally_unloadGame _)))
  | started =>
    exact Or.inr (Or.inr
      (Idle.of_calm (Journal.Quiet.note rfl rfl).toCalm (List.Sublist.refl _) rfl))
  | direct h => exact Or.inr (Or.inr (idle_direct m h))

/-- **The watches that cease to be active in a move are those that it notes.** -/
theorem Move.lapsed_eq (h : Move op m j m') (hnodup : (m.watches.watches.map Watch.address).Nodup) :
    m.lapsed m' = j.endings.length := by
  rcases h.notified_or_polled_or_idle with ⟨address, size, rfl, rfl⟩ | ⟨rfl, rfl⟩ | hidle
  · exact ((notify_pass m address size).length_endings hnodup
      fun _ _ => WatchList.active_of_isNotified).symm
  · have hactive : ∀ w ∈ m.watches.activeWatches, w.active = true :=
      fun w hw => (List.mem_filter.mp hw).2
    have hpass := (poll_pass m).length_endings (hnodup.sublist (List.filter_sublist.map _))
      fun w hw _ => hactive w hw
    -- watches that are not active cannot cease to be so, and the poll drops them first
    rw [hpass, WatchList.activeWatches, List.countP_filter, lapsed]
    refine List.countP_congr fun w _ => ?_
    rw [Watch.lapsedIn, Bool.and_right_comm, Bool.and_self]
  · rw [lapsed, Watch.countP_lapsedIn_eq_zero hnodup hidle.watches, hidle.endings]
    rfl

/-! ## Operations -/

/-- Moves of the monitor one after the other, with their joint journal, and how many watches ceased
to be active in them. -/
inductive Lapses (op : MonitorOp) : Monitor → Journal → Nat → Monitor → Prop where
  /-- No move. -/
  | refl (m : Monitor) : Lapses op m {} 0 m
  /-- One more move at the start. -/
  | cons {m m' m'' : Monitor} {j j' : Journal} {count : Nat} (head : Move op m j m')
      (tail : Lapses op m' j' count m'') : Lapses op m (j ++ j') (m.lapsed m' + count) m''

/-- **However an operation is taken apart into moves, the watches that ceased to be active are those
that its journal notes.** -/
theorem Lapses.count_eq {count : Nat} (h : Lapses op m j count m') (htables : m.Tables) :
    count = j.endings.length := by
  induction h with
  | refl m => rfl
  | cons head tail ih =>
    rw [head.lapsed_eq htables.watchAddresses, ih (head.keeps_tables htables),
      Journal.endings_append, List.length_append]

/-- The moves of a path can be followed with a count. -/
lemma Path.lapses (h : Path op m j m') : ∃ count, Lapses op m j count m' := by
  induction h with
  | refl m => exact ⟨0, Lapses.refl m⟩
  | cons head tail ih =>
    obtain ⟨count, hcount⟩ := ih
    exact ⟨_, Lapses.cons head hcount⟩

end Monitor

end GuestWatch
