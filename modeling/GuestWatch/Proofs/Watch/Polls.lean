import GuestWatch.Proofs.Watch.Verdicts

set_option relaxedAutoImplicit false
set_option autoImplicit false

/-!
# What a poll does to each watch

A poll drops the watches that ended before and reads every other one again. What becomes of a watch
is settled by its own read: it does not matter which other watches there are, which of them fail or
have changed, and what the ledger and the fault counters hold. So the poll of two lists of watches
put together is the poll of one and the poll of the other.

While the memory stays as it is, the poll after that finds nothing new. It drops the watches that
the first one gave up, and from then on nothing happens.

## Main definitions

* `GuestWatch.WatchList.Polls` — each watch is dropped or read again, and counted.
* `GuestWatch.WatchList.Joins` — a poll comes to the same as two others, put together.

## Main results

* `GuestWatch.WatchList.poll_polls` — a poll does this.
* `GuestWatch.WatchList.Polls.join` — polls of two parts of a list make up the poll of the whole.
* `GuestWatch.WatchList.Polls.again` — the poll that follows another drops the watches that this one
  gave up.
* `GuestWatch.WatchList.poll_pointwise` — a poll does to each watch what its own read asks for, and
  two of them settle the list.
-/

namespace GuestWatch

namespace WatchList

open Watch

/-- What a poll yields. -/
abbrev Polled := Outcome (WatchList × Probe Ram × Ledger) FrameReport

/-- The watches that are left after a poll. -/
abbrev watchesOf (polled : Polled) : List Watch := polled.state.1.watches

/-- The memory after a poll. -/
abbrev memoryOf (polled : Polled) : Ram := polled.state.2.1.memory

/-- A poll that drops the watches that ended before and reads each of the others again, in their
order. What a read answers is all that decides what becomes of its watch. -/
structure Polls (look : Look) (ws : List Watch) (polled : Polled) : Prop where
  /-- The watches that were active are left, each of them read again. -/
  watches : watchesOf polled = (ws.filter Watch.active).map (Watch.reread look)
  /-- The watches that had ended are counted. -/
  pruned : polled.value.pruned = ws.countP fun w => !w.active
  /-- The watches that show something new are counted. -/
  fired : polled.value.fired = (ws.filter Watch.active).countP (differs look)
  /-- The watches that cannot be read are counted. -/
  deactivated : polled.value.deactivated = (ws.filter Watch.active).countP (unreadable look)
  /-- Each change is told once, in the order of the watches. -/
  changes : polled.journal.changes = (ws.filter Watch.active).flatMap (report look)
  /-- Each end is noted once, in the order of the watches. -/
  endings : polled.journal.endings = (ws.filter Watch.active).flatMap (ending look)
  /-- The commands that the callbacks ask for come in the order of the watches. -/
  commands : polled.journal.commands = (ws.filter Watch.active).flatMap (asks look)

/-- A poll comes to what two others come to, one after the other. -/
structure Joins (first second whole : Polled) : Prop where
  /-- The watches that the first leaves are followed by those that the second leaves. -/
  watches : watchesOf whole = watchesOf first ++ watchesOf second
  /-- Their reports add up. -/
  report : whole.value =
    { pruned := first.value.pruned + second.value.pruned
      fired := first.value.fired + second.value.fired
      deactivated := first.value.deactivated + second.value.deactivated }
  /-- The changes of the first are told before those of the second. -/
  changes : whole.journal.changes = first.journal.changes ++ second.journal.changes
  /-- The watches that the first gives up are noted before those that the second gives up. -/
  endings : whole.journal.endings = first.journal.endings ++ second.journal.endings
  /-- The commands asked for in the first come before those asked for in the second. -/
  commands : whole.journal.commands = first.journal.commands ++ second.journal.commands

/-- A poll reads each active watch again. -/
theorem poll_polls (ws : WatchList) (probe : Probe Ram) (ledger : Ledger) :
    Polls probe.memory.look ws.watches (ws.poll probe ledger) := by
  have hpass := pollWatches_pass ws.activeWatches probe ledger
  have hvalue := value_pollWatches ws.activeWatches probe ledger
  have hquiet := ws.quiet_pruneJournal
  obtain ⟨hwatches, hchanges, hendings, hcommands, -⟩ := hpass
  simp only [if_true] at hwatches hchanges hendings hcommands
  constructor
  · exact hwatches
  · rfl
  · exact congrArg FrameReport.fired hvalue
  · exact congrArg FrameReport.deactivated hvalue
  · rw [poll, Journal.changes_append, hquiet.changes, List.nil_append, hchanges, activeWatches]
  · rw [poll, Journal.endings_append, hquiet.endings, List.nil_append, hendings, activeWatches]
  · rw [poll, Journal.commands_append, hquiet.commands, List.nil_append, hcommands, activeWatches]

/-- A poll leaves the memory alike. -/
lemma alike_poll (ws : WatchList) (probe : Probe Ram) (ledger : Ledger) :
    (memoryOf (ws.poll probe ledger)).Alike probe.memory :=
  (pollWatches_recounted ws.activeWatches probe ledger).alike

namespace Polls

variable {look : Look} {ws before after : List Watch} {polled first second : Polled}

/-- Whatever is polled beside it, a part of a list comes to the same. -/
theorem join (h : Polls look (before ++ after) polled) (hfirst : Polls look before first)
    (hsecond : Polls look after second) : Joins first second polled := by
  constructor
  · rw [h.watches, hfirst.watches, hsecond.watches, List.filter_append, List.map_append]
  · obtain ⟨-, hpruned, hfired, hdeactivated, -, -, -⟩ := h
    rw [List.countP_append, ← hfirst.pruned, ← hsecond.pruned] at hpruned
    rw [List.filter_append, List.countP_append, ← hfirst.fired, ← hsecond.fired] at hfired
    rw [List.filter_append, List.countP_append, ← hfirst.deactivated,
      ← hsecond.deactivated] at hdeactivated
    rw [← hpruned, ← hfired, ← hdeactivated]
  · rw [h.changes, hfirst.changes, hsecond.changes, List.filter_append, List.flatMap_append]
  · rw [h.endings, hfirst.endings, hsecond.endings, List.filter_append, List.flatMap_append]
  · rw [h.commands, hfirst.commands, hsecond.commands, List.filter_append, List.flatMap_append]

/-- The watches that a poll leaves have ended, or have seen what the memory holds. -/
lemma seen (h : Polls look ws polled) {w : Watch} (hw : w ∈ (watchesOf polled).filter Watch.active) :
    look w.address w.size = .ok w.lastValue := by
  obtain ⟨hmem, hactive⟩ := List.mem_filter.mp hw
  rw [h.watches, List.mem_map] at hmem
  obtain ⟨u, -, rfl⟩ := hmem
  exact look_reread hactive

/-- The watches that have ended when a poll is done are those that it gave up. -/
lemma countP_ended (h : Polls look ws polled) :
    ((watchesOf polled).countP fun w => !w.active) = polled.value.deactivated := by
  rw [h.watches, h.deactivated, List.countP_map]
  refine List.countP_congr fun w hw => ?_
  simp [active_reread (List.of_mem_filter hw)]

/-- **The poll that follows another**, with the same memory, finds nothing new: it only drops the
watches that the other one gave up. -/
theorem again (h : Polls look ws first) (hagain : Polls look (watchesOf first) second) :
    second.value = { pruned := first.value.deactivated } ∧
      watchesOf second = (watchesOf first).filter Watch.active ∧
      second.journal.changes = [] ∧ second.journal.endings = [] ∧ second.journal.commands = [] := by
  have hsame : ∀ w ∈ (watchesOf first).filter Watch.active, w.reread look = w ∧
      w.report look = [] ∧ w.ending look = [] ∧ w.asks look = [] :=
    fun w hw => reread_of_same (h.seen hw)
  have hquiet : ∀ w ∈ (watchesOf first).filter Watch.active,
      w.differs look = false ∧ w.unreadable look = false :=
    fun w hw => not_differs_of_same (h.seen hw)
  have hfired : second.value.fired = 0 := by
    rw [hagain.fired, List.countP_eq_zero]
    intro w hw
    simp [(hquiet w hw).1]
  have hdeactivated : second.value.deactivated = 0 := by
    rw [hagain.deactivated, List.countP_eq_zero]
    intro w hw
    simp [(hquiet w hw).2]
  have hpruned : second.value.pruned = first.value.deactivated := by
    rw [hagain.pruned, h.countP_ended]
  refine ⟨?_, ?_, ?_, ?_, ?_⟩
  · calc second.value
        = ⟨second.value.pruned, second.value.fired, second.value.deactivated⟩ := rfl
      _ = { pruned := first.value.deactivated } := by rw [hpruned, hfired, hdeactivated]
  · rw [hagain.watches]
    exact (List.map_congr_left fun w hw => (hsame w hw).1).trans (List.map_id _)
  · rw [hagain.changes, List.flatMap_eq_nil_iff]
    exact fun w hw => (hsame w hw).2.1
  · rw [hagain.endings, List.flatMap_eq_nil_iff]
    exact fun w hw => (hsame w hw).2.2.1
  · rw [hagain.commands, List.flatMap_eq_nil_iff]
    exact fun w hw => (hsame w hw).2.2.2

end Polls

/-- **A poll does to each watch what its own read asks for**, whatever else it polls. It drops the
watches that had ended and reads the others again, each once and in their order: one that shows a new
value remembers it and tells its callback, one that cannot be read ends and keeps the value seen
last, and one that shows what it showed before stays as it is. The report counts the three kinds of
watches. Two parts of the list could be polled apart, with other ledgers and other fault counters,
and would come to the same. As long as the memory answers the same, the next poll finds nothing new
and drops the watches that this one gave up, and the poll after that does nothing at all. -/
theorem poll_pointwise (ws : WatchList) (probe : Probe Ram) (ledger : Ledger) :
    let first := ws.poll probe ledger
    Polls probe.memory.look ws.watches first ∧ (memoryOf first).Alike probe.memory ∧
      (∀ before after, ws.watches = before ++ after →
        ∀ p q : Probe Ram, p.memory.Alike probe.memory → q.memory.Alike probe.memory →
          ∀ l l' : Ledger,
            Joins ((⟨before⟩ : WatchList).poll p l) ((⟨after⟩ : WatchList).poll q l') first) ∧
      ∀ p q : Probe Ram, p.memory.Alike probe.memory → q.memory.Alike probe.memory →
        ∀ l l' : Ledger,
          let second := first.state.1.poll p l
          let third := second.state.1.poll q l'
          second.value = { pruned := first.value.deactivated } ∧ second.journal.changes = [] ∧
            third.value = {} ∧ third.journal.changes = [] ∧ watchesOf third = watchesOf second := by
  intro first
  -- what any poll does with a memory that answers as this one
  have hpolls : ∀ (watches : WatchList) (p : Probe Ram) (l : Ledger),
      p.memory.Alike probe.memory → Polls probe.memory.look watches.watches (watches.poll p l) := by
    intro watches p l halike
    rw [← halike.look_eq]
    exact poll_polls watches p l
  have hfirst : Polls probe.memory.look ws.watches first := poll_polls ws probe ledger
  refine ⟨hfirst, alike_poll ws probe ledger, ?_, ?_⟩
  · intro before after hsplit p q hp hq l l'
    rw [hsplit] at hfirst
    exact hfirst.join (hpolls ⟨before⟩ p l hp) (hpolls ⟨after⟩ q l' hq)
  · intro p q hp hq l l' second third
    have hsecond : Polls probe.memory.look (watchesOf first) second := hpolls first.state.1 p l hp
    have hthird : Polls probe.memory.look (watchesOf second) third := hpolls second.state.1 q l' hq
    obtain ⟨hdropped, hleft, hsilent, -⟩ := hfirst.again hsecond
    obtain ⟨hnone, hkept, hmute, -⟩ := hsecond.again hthird
    refine ⟨hdropped, hsilent, ?_, hmute, ?_⟩
    · rw [hnone, hdropped]
    · rw [hkept, hleft, List.filter_filter]
      simp

/-- A watch whose value has changed, one that cannot be read, one that shows what it showed before,
and one that ended earlier. The callback of the first asks for all watches to be removed. -/
def motley : WatchList :=
  ⟨[⟨0x1000, 4, 0, true, some (Callback.script "meter" [.clearWatches] 1 fun _ => true)⟩,
    ⟨0x2000, 1, 5, true, none⟩, ⟨0x3000, 4, 0, true, none⟩, ⟨0x4000, 4, 9, false, none⟩]⟩

/-- The memory that the watches of `motley` look at. -/
def patchy : Probe Ram := ⟨(({} : Ram).setWord 0x1000 7).failAt 0x2000, {}⟩

/-- The first poll of `motley` drops the last watch, finds one change and gives up one watch, which
keeps its value; the second drops that one; the third does nothing. The first watch comes to the same
when it is polled alone, with a ledger that records nothing. -/
theorem poll_pointwise_motley :
    let first := motley.poll patchy {}
    let second := first.state.1.poll first.state.2.1 first.state.2.2
    let third := second.state.1.poll second.state.2.1 second.state.2.2
    first.value = { pruned := 1, fired := 1, deactivated := 1 } ∧
      (watchesOf first).map (fun w => (w.address, w.lastValue, w.active)) =
        [(0x1000, 7, true), (0x2000, 5, false), (0x3000, 0, true)] ∧
      first.journal.changes = [("meter", ⟨0x1000, 4, 0, 7⟩)] ∧
      second.value = { pruned := 1 } ∧ third.value = {} ∧
      Joins ((⟨motley.watches.take 1⟩ : WatchList).poll patchy { tracking := false })
        ((⟨motley.watches.drop 1⟩ : WatchList).poll patchy {}) first := by
  intro first second third
  obtain ⟨hpolls, halike, hjoin, hagain⟩ := poll_pointwise motley patchy {}
  have hvalue : first.value = { pruned := 1, fired := 1, deactivated := 1 } := rfl
  have hsecond : (memoryOf second).Alike patchy.memory :=
    (alike_poll first.state.1 first.state.2.1 first.state.2.2).trans halike
  obtain ⟨hdropped, -, hnone, -, -⟩ :=
    hagain first.state.2.1 second.state.2.1 halike hsecond first.state.2.2 second.state.2.2
  refine ⟨hvalue, ?_, ?_, hdropped, hnone, ?_⟩
  · rw [hpolls.watches]
    rfl
  · rw [hpolls.changes]
    rfl
  · exact hjoin _ _ (List.take_append_drop 1 motley.watches).symm patchy patchy
      (Ram.Alike.refl _) (Ram.Alike.refl _) _ _

end WatchList

end GuestWatch
