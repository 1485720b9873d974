import GuestWatch.Proofs.Watch.Due
import GuestWatch.Proofs.Watch.Polls

set_option relaxedAutoImplicit false
set_option autoImplicit false

/-!
# Many write notices

Each write notice reads the active watches again that it overlaps. While the memory stays as it is,
a watch that was read again has nothing new to show when a later notice overlaps it too, and one that
ended is not read any more. So a number of notices read each watch again once or not at all: those
that one of the notices overlaps. In which order the notices came, and how often, is of no account.

## Main definitions

* `GuestWatch.WatchList.Notice` — the range of a write.
* `GuestWatch.WatchList.notifyAll` — handles write notices one after the other.
* `GuestWatch.WatchList.isReached` — an active watch that one of some notices overlaps.
* `GuestWatch.WatchList.Refreshes` — the watches that are reached were read again once.

## Main results

* `GuestWatch.WatchList.perm_twice` — what two passes tell, one after the other.
* `GuestWatch.WatchList.notifyAll_refreshes` — write notices read again what they reach.
* `GuestWatch.WatchList.notices_unordered` — the order and the number of the notices are of no
  account, and notices that reach every watch come to what a poll comes to.
-/

namespace GuestWatch

open Watch

variable {look : Look}

/-! ## Two passes over the same memory -/

section Twice

variable {first later : Watch → Bool}

namespace WatchList

/-- Where a watch that was just read again has nothing to tell, what two passes tell is what one pass
tells that hits whatever one of them hits. -/
lemma perm_twice {α : Type} {told : Watch → List α}
    (hfresh : ∀ w : Watch, (w.reread look).active = true → told (w.reread look) = [])
    (hlater : ∀ w, later w = true → w.active = true) (ws : List Watch) :
    ((ws.flatMap fun w => if first w then told w else []) ++
      (ws.map fun w => if first w then w.reread look else w).flatMap
        fun w => if later w then told w else []).Perm
      (ws.flatMap fun w => if first w || later w then told w else []) := by
  rw [List.flatMap_map]
  refine (List.flatMap_append_perm _ _ _).trans (List.Perm.of_eq ?_)
  refine List.flatMap_congr fun w _ => ?_
  by_cases hfirst : first w = true
  · have hnone : (if later (w.reread look) then told (w.reread look) else []) = [] := by
      split
      · rename_i hagain
        exact hfresh w (hlater _ hagain)
      · rfl
    simp only [hfirst, if_true, Bool.true_or, hnone, List.append_nil]
  · simp only [hfirst, Bool.false_or, Bool.false_eq_true, if_false, List.nil_append]

/-- The watches with something new to show are counted in one of the passes. -/
lemma countP_twice (hlater : ∀ w, later w = true → w.active = true) (ws : List Watch) :
    (ws.countP fun w => first w && w.differs look) +
      ((ws.map fun w => if first w then w.reread look else w).countP
        fun w => later w && w.differs look) =
      ws.countP fun w => (first w || later w) && w.differs look := by
  induction ws with
  | nil => rfl
  | cons w rest ih =>
    simp only [List.map_cons, List.countP_cons]
    by_cases hfirst : first w = true
    · have hnone : (later (w.reread look) && (w.reread look).differs look) = false := by
        rw [Bool.and_eq_false_imp]
        exact fun hagain => (not_differs_reread (hlater _ hagain)).1
      simp only [hfirst, if_true, Bool.true_and, Bool.true_or, hnone, Bool.false_eq_true, if_false]
      omega
    · simp only [hfirst, Bool.false_and, Bool.false_or, Bool.false_eq_true, if_false]
      omega

end WatchList

end Twice

namespace WatchList

/-! ## Notices -/

/-- The range of a write. -/
structure Notice where
  /-- The first address written. -/
  address : UInt32
  /-- The number of bytes written. -/
  size : UInt32
  deriving DecidableEq, Repr

/-- Handles write notices one after the other. The value is the number of changes found. -/
def notifyAll : List Notice → WatchList → Probe Ram → Outcome (WatchList × Probe Ram) Nat
  | [], ws, probe => ⟨0, (ws, probe), {}⟩
  | notice :: rest, ws, probe =>
    let head := ws.notify probe notice.address notice.size
    let tail := notifyAll rest head.state.1 head.state.2
    ⟨head.value + tail.value, tail.state, head.journal ++ tail.journal⟩

/-- Whether a watch is active and one of some write notices overlaps it. -/
def isReached (notices : List Notice) (w : Watch) : Bool :=
  w.active && notices.any fun notice =>
    rangesOverlap w.address w.size notice.address notice.size

/-- Only active watches are reached. -/
lemma active_of_isReached {notices : List Notice} {w : Watch} (h : isReached notices w = true) :
    w.active = true :=
  (Bool.and_eq_true_iff.mp h).1

/-- A watch is reached by the first of some notices or by the others. -/
lemma isReached_cons (notice : Notice) (rest : List Notice) (w : Watch) :
    isReached (notice :: rest) w =
      (isNotified notice.address notice.size w || isReached rest w) := by
  simp only [isReached, isNotified, List.any_cons, Bool.and_or_distrib_left]

/-- Which watches are reached depends only on which notices there are. -/
lemma isReached_congr {notices others : List Notice} (h : ∀ n, n ∈ others ↔ n ∈ notices) :
    isReached others = isReached notices := by
  funext w
  have hany : (others.any fun notice => rangesOverlap w.address w.size notice.address notice.size) =
      notices.any fun notice => rangesOverlap w.address w.size notice.address notice.size := by
    rw [Bool.eq_iff_iff, List.any_eq_true, List.any_eq_true]
    simp only [h]
  rw [isReached, isReached, hany]

/-- What write notices come to when each watch that one of them reaches is read again once, and no
other watch is. -/
structure Refreshes (look : Look) (notices : List Notice) (ws : List Watch)
    (told : Outcome (WatchList × Probe Ram) Nat) : Prop where
  /-- The watches that are reached are as if they had been read again once, and the others are as
  they were. -/
  watches : told.state.1.watches = ws.map fun w => if isReached notices w then w.reread look else w
  /-- The watches that are reached and show something new are counted. -/
  fired : told.value = ws.countP fun w => isReached notices w && w.differs look
  /-- Each of them reports its change once. -/
  changes : told.journal.changes.Perm
    (ws.flatMap fun w => if isReached notices w then w.report look else [])
  /-- Each watch that is reached and cannot be read ends once. -/
  endings : told.journal.endings.Perm
    (ws.flatMap fun w => if isReached notices w then w.ending look else [])

/-- A notice may come before others: what it reads again shows nothing new to them. -/
lemma Refreshes.cons {notice : Notice} {rest : List Notice} {ws : List Watch}
    {head tail : Outcome (WatchList × Probe Ram) Nat}
    (hpass : Pass look (isNotified notice.address notice.size) ws head.state.1.watches head.journal)
    (hvalue : head.value =
      ws.countP fun w => isNotified notice.address notice.size w && w.differs look)
    (htail : Refreshes look rest head.state.1.watches tail) :
    Refreshes look (notice :: rest) ws
      ⟨head.value + tail.value, tail.state, head.journal ++ tail.journal⟩ := by
  have hlater : ∀ w, isReached rest w = true → w.active = true := fun _ => active_of_isReached
  obtain ⟨hwatches, hfired, hchanges, hendings⟩ := htail
  rw [hpass.watches] at hwatches hfired hchanges hendings
  constructor
  · simp only [hwatches, List.map_map, isReached_cons]
    exact List.map_congr_left fun w _ => reread_twice hlater w
  · simp only [hvalue, hfired, isReached_cons]
    exact countP_twice hlater ws
  · simp only [Journal.changes_append, hpass.changes, isReached_cons]
    refine (hchanges.append_left _).trans (perm_twice (fun w h => ?_) hlater ws)
    exact (reread_of_same (look_reread h)).2.1
  · simp only [Journal.endings_append, hpass.endings, isReached_cons]
    refine (hendings.append_left _).trans (perm_twice (fun w h => ?_) hlater ws)
    exact (reread_of_same (look_reread h)).2.2.1

/-- **Write notices read again what they reach.**

**Proof sketch.** By induction on the notices. The first is a pass over the watches that it overlaps
and leaves the memory alike, so the others read what it read. -/
theorem notifyAll_refreshes (notices : List Notice) (ws : WatchList) (probe : Probe Ram) :
    Refreshes probe.memory.look notices ws.watches (notifyAll notices ws probe) := by
  induction notices generalizing ws probe with
  | nil =>
    have hnone : ∀ w, isReached [] w = false := fun w => Bool.and_false w.active
    constructor <;> simp [notifyAll, hnone, Journal.changes, Journal.endings]
  | cons notice rest ih =>
    have halike := (notifyWatches_recounted notice.address notice.size ws.watches probe).alike
    have htail := ih (ws.notify probe notice.address notice.size).state.1
      (ws.notify probe notice.address notice.size).state.2
    refine Refreshes.cons ?_ ?_ (halike.look_eq ▸ htail)
    · exact notifyWatches_pass notice.address notice.size ws.watches probe
    · exact value_notifyWatches notice.address notice.size ws.watches probe

/-! ## Notices that reach every watch -/

/-- What write notices come to when they do to the active watches what a poll does to them. -/
structure AgreesWith (ws : List Watch) (told : Outcome (WatchList × Probe Ram) Nat)
    (polled : Polled) : Prop where
  /-- The watches that were active before have become those that the poll leaves. -/
  watches : ((ws.zip told.state.1.watches).filter fun pair => pair.1.active).map Prod.snd =
    watchesOf polled
  /-- The same number of changes is found. -/
  fired : told.value = polled.value.fired
  /-- The same changes are told. -/
  changes : told.journal.changes.Perm polled.journal.changes
  /-- The same watches end. -/
  endings : told.journal.endings.Perm polled.journal.endings

/-- What the active ones of some watches become, where each becomes what a function makes of it. -/
lemma active_zip_map (after : Watch → Watch) (ws : List Watch) :
    ((ws.zip (ws.map after)).filter fun pair => pair.1.active).map Prod.snd =
      (ws.filter Watch.active).map after := by
  induction ws with
  | nil => rfl
  | cons w rest ih => by_cases hactive : w.active = true <;> simp [hactive, ih]

/-- Notices that reach every active watch do what a poll does. -/
theorem Refreshes.agreesWith {notices : List Notice} {ws : List Watch}
    {told : Outcome (WatchList × Probe Ram) Nat} {polled : Polled}
    (h : Refreshes look notices ws told) (hpolled : Polls look ws polled)
    (hreached : ∀ w ∈ ws, isReached notices w = w.active) : AgreesWith ws told polled := by
  have htold : ∀ {α : Type} (report : Watch → List α),
      (ws.flatMap fun w => if isReached notices w then report w else []) =
        (ws.filter Watch.active).flatMap report := by
    intro α report
    rw [flatMap_filter_active]
    exact List.flatMap_congr fun w hw => by rw [hreached w hw]
  constructor
  · rw [h.watches, active_zip_map, hpolled.watches]
    refine List.map_congr_left fun w hw => ?_
    obtain ⟨hmem, hactive⟩ := List.mem_filter.mp hw
    rw [hreached w hmem, if_pos hactive]
  · rw [h.fired, hpolled.fired, List.countP_filter]
    refine List.countP_congr fun w hw => ?_
    rw [hreached w hw, Bool.and_comm]
  · rw [hpolled.changes, ← htold]
    exact h.changes
  · rw [hpolled.endings, ← htold]
    exact h.endings

/-- **The order and the number of write notices are of no account.** While the memory stays as it is,
write notices leave each active watch that one of them overlaps as if it had been read again once,
and every other watch as it was; together they count the watches of these that show something new,
and tell each change once. So notices that come in another order, or more often or less often, leave
the same watches, count the same and tell the same changes. When every active watch is overlapped by
one of them, they do to the active watches what a poll does. -/
theorem notices_unordered (ws : WatchList) (probe : Probe Ram) (notices : List Notice) :
    let told := notifyAll notices ws probe
    Refreshes probe.memory.look notices ws.watches told ∧
      (∀ others : List Notice, (∀ n, n ∈ others ↔ n ∈ notices) →
        let again := notifyAll others ws probe
        again.state.1.watches = told.state.1.watches ∧ again.value = told.value ∧
          again.journal.changes.Perm told.journal.changes ∧
          again.journal.endings.Perm told.journal.endings) ∧
      ((∀ w ∈ ws.watches, w.active = true → ∃ notice ∈ notices,
          rangesOverlap w.address w.size notice.address notice.size = true) →
        ∀ ledger : Ledger, AgreesWith ws.watches told (ws.poll probe ledger)) := by
  intro told
  have htold : Refreshes probe.memory.look notices ws.watches told :=
    notifyAll_refreshes notices ws probe
  refine ⟨htold, fun others hothers => ?_, fun hcovered ledger => ?_⟩
  · intro again
    have hagain : Refreshes probe.memory.look others ws.watches again :=
      notifyAll_refreshes others ws probe
    obtain ⟨hwatches, hfired, hchanges, hendings⟩ := hagain
    rw [isReached_congr hothers] at hwatches hfired hchanges hendings
    refine ⟨hwatches.trans htold.watches.symm, hfired.trans htold.fired.symm, ?_, ?_⟩
    · exact hchanges.trans htold.changes.symm
    · exact hendings.trans htold.endings.symm
  · refine htold.agreesWith (poll_polls ws probe ledger) fun w hw => ?_
    cases hactive : w.active with
    | false => simp [isReached, hactive]
    | true =>
      obtain ⟨notice, hnotice, hoverlaps⟩ := hcovered w hw hactive
      simp only [isReached, hactive, Bool.true_and, List.any_eq_true]
      exact ⟨notice, hnotice, hoverlaps⟩

/-- The active watches of `motley` are overlapped by these notices, in whichever order they come, and
however often. Two of them overlap the watch that has changed, and two the one that cannot be read;
the change is told once, and that watch ends once. -/
theorem notices_unordered_motley :
    let notices : List Notice := [⟨0x0ffe, 4⟩, ⟨0x2000, 1⟩, ⟨0x1003, 0x2000⟩]
    let others : List Notice := [⟨0x1003, 0x2000⟩, ⟨0x0ffe, 4⟩, ⟨0x1003, 0x2000⟩, ⟨0x2000, 1⟩]
    let told := notifyAll notices motley patchy
    let again := notifyAll others motley patchy
    told.value = 1 ∧ again.value = 1 ∧
      again.state.1.watches = told.state.1.watches ∧
      again.journal.changes.Perm [("meter", ⟨0x1000, 4, 0, 7⟩)] ∧
      AgreesWith motley.watches told (motley.poll patchy {}) := by
  intro notices others told again
  obtain ⟨hrefreshes, hsame, hagrees⟩ := notices_unordered motley patchy notices
  have hmembers : ∀ n, n ∈ others ↔ n ∈ notices := by
    intro n
    simp only [others, notices, List.mem_cons, List.not_mem_nil, or_false]
    tauto
  obtain ⟨hwatches, hvalue, hchanges, -⟩ := hsame others hmembers
  have hcovered : ∀ w ∈ motley.watches, w.active = true → ∃ notice ∈ notices,
      rangesOverlap w.address w.size notice.address notice.size = true := by
    simp only [notices]
    decide
  have hpolled : (motley.poll patchy {}).journal.changes = [("meter", ⟨0x1000, 4, 0, 7⟩)] := rfl
  have hfired : told.value = 1 := (hagrees hcovered {}).fired
  refine ⟨hfired, hvalue.trans hfired, hwatches, ?_, hagrees hcovered {}⟩
  rw [← hpolled]
  exact hchanges.trans (hagrees hcovered {}).changes

end WatchList

end GuestWatch
