import GuestWatch.Proofs.Monitor.Queue

set_option relaxedAutoImplicit false
set_option autoImplicit false

/-!
# The end of a session

Commands only take away: whatever observers ask for while commands are carried out, no watch,
condition or region comes back, no game is loaded, and achievements stay off once they are off. So a
session that ends in hardcore mode has ended when the operation returns, and only a reset switches
achievements on again.

## Main definitions

* `GuestWatch.Monitor.Within` — a monitor from which things were taken away.
* `GuestWatch.Monitor.Ended` — achievements are off, no game is loaded, and no watch is left.

## Main results

* `GuestWatch.Monitor.within_drain` — carrying out commands only takes away.
* `GuestWatch.Monitor.ended_step` — an operation in which achievements are disabled by a command
  ends the session.
* `GuestWatch.Monitor.achievements_step` — achievements are switched on by a reset only.
* `GuestWatch.Monitor.session_ends` — what using a save state does, in and outside hardcore mode.
-/

namespace GuestWatch

namespace Monitor

/-! ## Taking away -/

/-- What is left of a monitor: some of its watches, conditions and regions as they were, its game or
none, its records or none, and achievements at most as before. -/
structure Within (left m : Monitor) : Prop where
  /-- The watches are some of the old ones. -/
  watches : left.watches.watches.Sublist m.watches.watches
  /-- The conditions are some of the old ones. -/
  conditions : left.conditions.conditions.Sublist m.conditions.conditions
  /-- The protected regions are some of the old ones. -/
  regions : left.hardcore.guard.regions.Sublist m.hardcore.guard.regions
  /-- The game is the old one, or none is loaded. -/
  game : left.game = m.game ∨ left.game = none
  /-- The records are the old ones, or none is kept. -/
  history : left.ledger.history = m.ledger.history ∨ left.ledger.history = []
  /-- Achievements were not switched on. -/
  achievements : left.hardcore.achievements = true → m.hardcore.achievements = true

/-- Nothing is taken away where all six are the same. -/
lemma Within.of_eq {left m : Monitor} (hwatches : left.watches = m.watches)
    (hconditions : left.conditions.conditions = m.conditions.conditions)
    (hregions : left.hardcore.guard.regions = m.hardcore.guard.regions)
    (hgame : left.game = m.game) (hhistory : left.ledger.history = m.ledger.history)
    (hachievements : left.hardcore.achievements = m.hardcore.achievements) : left.Within m := by
  refine ⟨?_, ?_, ?_, Or.inl hgame, Or.inl hhistory, fun h => hachievements ▸ h⟩
  · exact hwatches ▸ List.Sublist.refl _
  · exact hconditions ▸ List.Sublist.refl _
  · exact hregions ▸ List.Sublist.refl _

lemma Within.refl (m : Monitor) : m.Within m := Within.of_eq rfl rfl rfl rfl rfl rfl

/-- More may be taken away from what is left. -/
lemma Within.trans {a b c : Monitor} (h : a.Within b) (h' : b.Within c) : a.Within c := by
  refine ⟨h.watches.trans h'.watches, h.conditions.trans h'.conditions,
    h.regions.trans h'.regions, ?_, ?_, fun ha => h'.achievements (h.achievements ha)⟩
  · rcases h.game with hgame | hgame
    · rw [hgame]
      exact h'.game
    · exact Or.inr hgame
  · rcases h.history with hhistory | hhistory
    · rw [hhistory]
      exact h'.history
    · exact Or.inr hhistory

/-- Dropping the game and the watches takes away. -/
lemma within_unloadGame (m : Monitor) : m.unloadGame.state.Within m := by
  unfold unloadGame
  split
  · exact { Within.refl m with watches := List.nil_sublist _ }
  · exact { Within.refl m with watches := List.nil_sublist _, game := Or.inr rfl }

/-- Switching hardcore mode takes nothing away. -/
lemma within_switchHardcore (m : Monitor) (on : Bool) : (m.switchHardcore on).state.Within m := by
  simp only [switchHardcore, Hardcore.setEnabled]
  split <;> exact Within.of_eq rfl rfl rfl rfl rfl rfl

/-- Ending the session takes away. -/
lemma within_endSession (m : Monitor) : m.endSession.state.Within m := by
  refine (within_unloadGame _).trans ?_
  exact { Within.refl m with achievements := fun h => by cases h }

/-- Carrying out a command takes away. -/
lemma within_carryOut (m : Monitor) (command : Command) :
    (m.carryOut command).state.Within m := by
  cases command with
  | clearWatches => exact { Within.refl m with watches := List.nil_sublist _ }
  | removeWatch address => exact { Within.refl m with watches := List.filter_sublist }
  | clearConditions => exact { Within.refl m with conditions := List.nil_sublist _ }
  | clearRegions => exact { Within.refl m with regions := List.nil_sublist _ }
  | setHardcore on => exact within_switchHardcore m on
  | enableTracking on =>
    refine { Within.refl m with history := ?_ }
    cases on
    · exact Or.inr rfl
    · exact Or.inl rfl
  | unloadGame => exact within_unloadGame m
  | disableAchievements => exact within_endSession m

/-- Carrying out the first command that waits takes away. -/
lemma within_carryOut_rest (m : Monitor) (command : Command) (rest : List Command) :
    ({ m with followUps := rest }.carryOut command).state.Within m :=
  (within_carryOut _ command).trans (Within.of_eq rfl rfl rfl rfl rfl rfl)

/-- **Carrying out commands only takes away**, whatever the observers ask for meanwhile. -/
theorem within_drain (m : Monitor) : m.drain.state.Within m := by
  fun_induction drain m with
  | case1 m h => exact Within.refl m
  | case2 m command rest h done drained ih =>
    exact ih.trans (within_carryOut_rest m command rest)

/-! ## Ended sessions -/

/-- The session has ended: achievements are off, no game is loaded, and no watch is left. -/
structure Ended (m : Monitor) : Prop where
  /-- Achievements cannot unlock. -/
  achievements : m.hardcore.achievements = false
  /-- No game is loaded. -/
  game : m.game = none
  /-- No watch is left. -/
  watches : m.watches.watches = []

/-- Whatever is taken away, a session that has ended stays so. -/
lemma Ended.of_within {left m : Monitor} (h : m.Ended) (hwithin : left.Within m) : left.Ended := by
  refine ⟨?_, ?_, ?_⟩
  · rw [Bool.eq_false_iff]
    intro hon
    have hoff := h.achievements
    rw [hwithin.achievements hon] at hoff
    cases hoff
  · rcases hwithin.game with hgame | hgame
    · rw [hgame, h.game]
    · exact hgame
  · have hwatches := hwithin.watches
    rw [h.watches] at hwatches
    exact List.sublist_nil.mp hwatches

/-- Ending the session ends it. -/
lemma ended_endSession (m : Monitor) : m.endSession.state.Ended := by
  simp only [endSession, unloadGame]
  split
  · rename_i hgame
    exact ⟨rfl, hgame, rfl⟩
  · exact ⟨rfl, rfl, rfl⟩

/-- A move within an operation that settles keeps the end of a session: it takes away, or it rereads
watches of which there are none. -/
lemma Move.keeps_ended {op : MonitorOp} {m m' : Monitor} {j : Journal} (h : Move op m j m')
    (hsettles : op.settles = true) (hended : m.Ended) : m'.Ended := by
  cases h with
  | carried h => exact hended.of_within (within_carryOut_rest m _ _)
  | notified address size =>
    refine ⟨hended.achievements, hended.game, ?_⟩
    simp only [notify, WatchList.notify, enqueue, hended.watches]
    rfl
  | polled =>
    refine ⟨hended.achievements, hended.game, ?_⟩
    simp only [poll, WatchList.poll, WatchList.activeWatches, enqueue, hended.watches]
    rfl
  | installed =>
    obtain ⟨reads, writes, installed, hstate⟩ := m.installIntercepts_frame
    rw [hstate]
    exact ⟨hended.achievements, hended.game, hended.watches⟩
  | switched on => exact hended.of_within (within_switchHardcore m on)
  | ended => exact ended_endSession m
  | direct h =>
    rw [hsettles] at h
    cases h
  | _ => exact ⟨hended.achievements, hended.game, hended.watches⟩

/-- A path within an operation that settles keeps the end of a session. -/
lemma Path.keeps_ended {op : MonitorOp} {m m' : Monitor} {j : Journal} (h : Path op m j m')
    (hsettles : op.settles = true) (hended : m.Ended) : m'.Ended := by
  induction h with
  | refl m => exact hended
  | cons head tail ih => exact ih (head.keeps_ended hsettles hended)

/-- A move carries out no command, or it carries out the first that waits. -/
lemma Move.applied_eq {op : MonitorOp} {m m' : Monitor} {j : Journal} (h : Move op m j m') :
    j.applied = [] ∨ ∃ (command : Command) (rest : List Command), j.applied = [command] ∧
      m' = ({ m with followUps := rest }.carryOut command).state := by
  cases h with
  | carried h =>
    rename_i command rest
    refine Or.inr ⟨command, rest, ?_, rfl⟩
    rw [Journal.applied_append, (calm_carryOut _ _).applied]
    rfl
  | notified address size => exact Or.inl (notify_pass m address size).applied
  | tracked access => exact Or.inl (WatchList.plain_track m.ledger access).quiet.applied
  | polled => exact Or.inl (poll_pass m).applied
  | installed => exact Or.inl (plain_installIntercepts m).quiet.applied
  | taken => exact Or.inl rfl
  | checked selects observed => exact Or.inl (calm_afterCheck m selects observed).applied
  | switched on => exact Or.inl (calm_switchHardcore m on).applied
  | ended => exact Or.inl (calm_endSession m).applied
  | started => exact Or.inl rfl
  | direct h => exact Or.inl (quiet_step m h).applied

/-- Where the command to disable achievements is carried out, the session has ended from then on. -/
lemma Path.ended_of_applied {op : MonitorOp} {m m' : Monitor} {j : Journal} (h : Path op m j m')
    (hsettles : op.settles = true) (hmem : .disableAchievements ∈ j.applied) : m'.Ended := by
  induction h with
  | refl m => cases hmem
  | cons head tail ih =>
    rw [Journal.applied_append, List.mem_append] at hmem
    rcases hmem with hhead | htail
    · rcases head.applied_eq with hnone | ⟨command, rest, hone, hstate⟩
      · rw [hnone] at hhead
        cases hhead
      · rw [hone, List.mem_singleton] at hhead
        rw [← hhead] at hstate
        refine tail.keeps_ended hsettles ?_
        rw [hstate]
        exact ended_endSession _
    · exact ih htail

/-- An operation in which the command to disable achievements is carried out ends the session. -/
theorem ended_step {m : Monitor} {op : MonitorOp}
    (hmem : .disableAchievements ∈ (m.step op).journal.applied) : (m.step op).state.Ended := by
  by_cases hsettles : op.settles = true
  · exact (path_step m op).ended_of_applied hsettles hmem
  · have hquiet := quiet_step m (by simpa using hsettles)
    rw [hquiet.applied] at hmem
    cases hmem

/-! ## Achievements -/

/-- No move but a reset switches achievements on.

**Proof sketch.** What carries out commands, switches the mode or ends the session takes away. Of the
operations that do not settle, most keep hardcore mode, and the few that govern it leave the flag
alone. -/
lemma Move.achievements_le {op : MonitorOp} {m m' : Monitor} {j : Journal} (h : Move op m j m')
    (hop : op ≠ .resetAchievements) (hon : m'.hardcore.achievements = true) :
    m.hardcore.achievements = true := by
  cases h with
  | carried h => exact (within_carryOut_rest m _ _).achievements hon
  | installed =>
    unfold installIntercepts at hon
    split at hon <;> exact hon
  | switched on => exact (within_switchHardcore m on).achievements hon
  | ended => exact (within_endSession m).achievements hon
  | direct hsettles =>
    by_cases hgoverns : op.governs = false
    · rwa [hardcore_step m hsettles hgoverns] at hon
    cases op with
    | addObserver observer => exact hon
    | clearRegions => exact hon
    | addRegion r =>
      simp only [step, answer, addRegion, Hardcore.addRegion] at hon
      cases hadd : m.hardcore.guard.add r with
      | error fault =>
        rw [hadd] at hon
        exact hon
      | ok added =>
        rw [hadd] at hon
        exact hon
    | resetAchievements => exact absurd rfl hop
    | _ => exact absurd rfl hgoverns
  | _ => exact hon

/-- No path of an operation but a reset switches achievements on. -/
lemma Path.achievements_le {op : MonitorOp} {m m' : Monitor} {j : Journal} (h : Path op m j m')
    (hop : op ≠ .resetAchievements) (hon : m'.hardcore.achievements = true) :
    m.hardcore.achievements = true := by
  induction h with
  | refl m => exact hon
  | cons head tail ih => exact head.achievements_le hop (ih hon)

/-- Achievements are switched on by a reset only. -/
theorem achievements_step {m : Monitor} {op : MonitorOp} (hoff : m.hardcore.achievements = false)
    (hon : (m.step op).state.hardcore.achievements = true) : op = .resetAchievements := by
  by_contra hop
  have hbefore := (path_step m op).achievements_le hop hon
  rw [show (m.enqueue op.given).hardcore = m.hardcore from rfl, hoff] at hbefore
  cases hbefore

/-- A run that switches achievements on has a reset in it. -/
lemma achievements_run {m : Monitor} {ops : List MonitorOp}
    (hoff : m.hardcore.achievements = false)
    (hon : (run ops m).state.hardcore.achievements = true) : .resetAchievements ∈ ops := by
  induction ops generalizing m with
  | nil =>
    rw [run, hoff] at hon
    cases hon
  | cons op rest ih =>
    cases hnext : (m.step op).state.hardcore.achievements with
    | true =>
      rw [achievements_step hoff hnext]
      exact List.mem_cons_self
    | false => exact List.mem_cons_of_mem _ (ih hnext hon)

/-! ## Using a save state -/

/-- In hardcore mode using a save state ends the session. -/
lemma ended_saveStateUsed {m : Monitor} (h : m.hardcore.enabled = true) :
    m.saveStateUsed.state.Ended := by
  simp only [saveStateUsed, h, if_true, settle]
  exact (ended_endSession m).of_within (within_drain _)

/-- Outside hardcore mode using a save state does nothing. -/
lemma saveStateUsed_of_disabled {m : Monitor} (hqueue : m.followUps = [])
    (h : m.hardcore.enabled = false) : m.saveStateUsed = ⟨(), m, {}⟩ := by
  simp only [saveStateUsed, h, settle, Bool.false_eq_true, if_false, drain_of_nil hqueue,
    Journal.append_empty]

/-- **Using a save state in hardcore mode ends the session**, and so does the command to disable
achievements, in whatever mode and operation it is carried out: when the operation returns,
achievements are off, no game is loaded and no watch is left. Outside hardcore mode a save state may
be used and nothing happens. Carrying out commands only takes away, whatever waits and whatever
observers ask for, and achievements are switched on by a reset only.

**Proof sketch.** The session ends before the commands are carried out, and those only take away.
For an operation with many moves: from the move on that carries out the command, the session has
ended, and no move of such an operation adds a watch, loads a game or switches achievements on. -/
theorem session_ends :
    (∀ m : Monitor, m.hardcore.enabled = true →
      (m.step .saveStateCreated).state.Ended ∧ (m.step .saveStateLoaded).state.Ended) ∧
    (∀ m : Monitor, (m.step (.command .disableAchievements)).state.Ended) ∧
    (∀ (m : Monitor) (op : MonitorOp),
      .disableAchievements ∈ (m.step op).journal.applied → (m.step op).state.Ended) ∧
    (∀ m : Monitor, Reachable m → m.hardcore.enabled = false →
      m.step .saveStateCreated = ⟨.done, m, {}⟩ ∧ m.step .saveStateLoaded = ⟨.done, m, {}⟩) ∧
    (∀ (m : Monitor) (commands : List Command), (m.enqueue commands).drain.state.Within m) ∧
    (∀ (m : Monitor) (op : MonitorOp), m.hardcore.achievements = false →
      (m.step op).state.hardcore.achievements = true → op = .resetAchievements) ∧
    (∀ (m : Monitor) (ops : List MonitorOp), m.hardcore.achievements = false →
      (run ops m).state.hardcore.achievements = true → .resetAchievements ∈ ops) := by
  refine ⟨fun m h => ⟨ended_saveStateUsed h, ended_saveStateUsed h⟩, ?_,
    fun m op => ended_step, ?_, ?_, fun m op => achievements_step, fun m ops => achievements_run⟩
  · intro m
    refine ended_step ?_
    have happlied : (m.step (.command .disableAchievements)).journal.applied =
        m.followUps ++ .disableAchievements :: (m.command .disableAchievements).journal.commands :=
      applied_command m .disableAchievements
    rw [happlied]
    exact List.mem_append_right _ List.mem_cons_self
  · intro m hreach h
    have hused := saveStateUsed_of_disabled hreach.followUps_eq_nil h
    constructor <;> simp only [step, answerDone, answer, hused]
  · intro m commands
    exact (within_drain _).trans (Within.of_eq rfl rfl rfl rfl rfl rfl)

/-- A started monitor in hardcore mode with a game and a watch. When achievements are disabled, its
observer has hardcore mode switched off and on again. -/
def staked : Monitor :=
  (run [.setHardcore true, .start, .loadGame "game", .addWatch 0x1000 4 none,
    .addObserver (Callback.script "defiant" [.setHardcore false, .setHardcore true] 1 not)]
    (make {} 0)).state

/-- The monitor `staked` has all that a save state takes from it, and loses it by one. -/
theorem session_ends_staked :
    staked.hardcore.enabled = true ∧ staked.hardcore.achievements = true ∧
      staked.game = some "game" ∧ staked.watches.size = 1 ∧
      (staked.step .saveStateLoaded).state.Ended := by
  have hnobody : ((make {} 0).switchHardcore true).state.followUps = [] := rfl
  have hswitched :
      ((make {} 0).setHardcore true).state = ((make {} 0).switchHardcore true).state := by
    simp only [setHardcore, settle, drain_of_nil hnobody]
  have hstaked : staked = (run [.start, .loadGame "game", .addWatch 0x1000 4 none,
      .addObserver (Callback.script "defiant" [.setHardcore false, .setHardcore true] 1 not)]
      ((make {} 0).switchHardcore true).state).state := by
    rw [← hswitched]
    rfl
  have hon : staked.hardcore.enabled = true := by
    rw [hstaked]
    rfl
  refine ⟨hon, ?_, ?_, ?_, (session_ends.1 staked hon).2⟩ <;> rw [hstaked] <;> rfl

end Monitor

end GuestWatch
