import GuestWatch.Proofs.Monitor.Contents
import GuestWatch.Proofs.Monitor.Session
import GuestWatch.Proofs.Watch.Course

set_option relaxedAutoImplicit false
set_option autoImplicit false

/-!
# What operations do to the watches

An operation of the monitor either adds one watch, or leaves the watches on a course: it drops some
and reads active ones again. Memory does not change in an operation that reads watches, so all reads
of an operation see the memory as it was before. No two watches of a reachable monitor share an
address.

## Main definitions

* `GuestWatch.Monitor.Follows` — a course of the watches over a memory that stays alike.

## Main results

* `GuestWatch.Monitor.course_step` — an operation that adds no watch leaves the watches on a course.
* `GuestWatch.Monitor.addWatch_cases` — what adding a watch does.
* `GuestWatch.Monitor.Reachable.distinct` — no two watches share an address.
-/

namespace GuestWatch

namespace WatchList

/-! ## Placing a watch -/

/-- A watch that is placed is in the list. -/
lemma mem_place_self (w : Watch) (ws : List Watch) : w ∈ place w ws := by
  induction ws with
  | nil => exact List.mem_singleton_self w
  | cons other rest ih =>
    unfold place
    split
    · exact List.mem_cons_self
    · exact List.mem_cons_of_mem other ih

/-- No other watch comes into the list. -/
lemma mem_of_mem_place {v w : Watch} {ws : List Watch} (h : v ∈ place w ws) : v = w ∨ v ∈ ws := by
  induction ws with
  | nil => exact Or.inl (List.mem_singleton.mp h)
  | cons other rest ih =>
    unfold place at h
    split at h
    · rcases List.mem_cons.mp h with heq | hrest
      · exact Or.inl heq
      · exact Or.inr (List.mem_cons_of_mem other hrest)
    · rcases List.mem_cons.mp h with heq | hrest
      · exact Or.inr (heq ▸ List.mem_cons_self)
      · exact (ih hrest).imp id (List.mem_cons_of_mem other)

/-- Where no two watches share an address, none do after one was placed. -/
lemma nodup_place {w : Watch} {ws : List Watch} (h : (ws.map Watch.address).Nodup) :
    ((place w ws).map Watch.address).Nodup := by
  induction ws with
  | nil => exact List.nodup_singleton _
  | cons other rest ih =>
    rw [List.map_cons, List.nodup_cons] at h
    unfold place
    split
    · rename_i hsame
      rw [List.map_cons, List.nodup_cons, ← hsame]
      exact h
    · rename_i hother
      rw [List.map_cons, List.nodup_cons]
      refine ⟨fun hmem => ?_, ih h.2⟩
      obtain ⟨v, hv, hsame⟩ := List.mem_map.mp hmem
      rcases mem_of_mem_place hv with heq | hrest
      · exact hother (hsame ▸ congrArg Watch.address heq)
      · exact h.1 (hsame ▸ List.mem_map_of_mem hrest)

end WatchList

/-- A watch of a list in which no two share an address is alone at its address. -/
lemma Watch.sole_of_mem {w : Watch} {ws : List Watch} (hnodup : (ws.map Watch.address).Nodup)
    (h : w ∈ ws) : w.Sole ws :=
  fun _ hv hsame => List.inj_on_of_nodup_map hnodup hv h hsame

namespace Monitor

/-! ## Moves -/

/-- The watches are on a course over a memory that stays alike. -/
structure Follows (m : Monitor) (j : Journal) (m' : Monitor) : Prop where
  /-- The course of the watches. -/
  course : Course m.ram.look m.watches.watches j.changes j.endings m'.watches.watches
  /-- Bytes and failures stay. -/
  alike : m'.ram.Alike m.ram

/-- Dropping watches, with a calm journal. -/
lemma Follows.of_calm {m m' : Monitor} {j : Journal} (hcalm : j.Calm)
    (hwatches : m'.watches.watches.Sublist m.watches.watches) (halike : m'.ram.Alike m.ram) :
    Follows m j m' := by
  refine ⟨?_, halike⟩
  rw [hcalm.changes, hcalm.endings]
  exact Course.dropped hwatches

lemma Follows.trans {m m' m'' : Monitor} {j j' : Journal} (h : Follows m j m')
    (h' : Follows m' j' m'') : Follows m (j ++ j') m'' := by
  refine ⟨?_, h'.alike.trans h.alike⟩
  have hcourse := h'.course
  rw [h.alike.look_eq] at hcourse
  rw [Journal.changes_append, Journal.endings_append]
  exact h.course.trans hcourse

/-- A write notice reads active watches again. -/
lemma follows_notify (m : Monitor) (address size : UInt32) :
    Follows m (m.notify address size).journal (m.notify address size).state :=
  ⟨(notify_pass m address size).course fun _ _ => WatchList.active_of_isNotified,
    alike_notify m address size⟩

/-- A poll drops the watches that ended and reads the others again. -/
lemma follows_poll (m : Monitor) : Follows m m.poll.journal m.poll.state := by
  have hdropped : Course m.ram.look m.watches.watches [] [] m.watches.activeWatches :=
    Course.dropped List.filter_sublist
  have hpolled := (poll_pass m).course fun w hw _ => (List.mem_filter.mp hw).2
  exact ⟨hdropped.trans hpolled, alike_poll m⟩

/-- Intercepts are not seen by reads. -/
lemma alike_installIntercepts (m : Monitor) : m.installIntercepts.state.ram.Alike m.ram :=
  (agrees_installIntercepts m).toAlike

/-- A move within an operation that settles leaves the watches on a course and keeps memory alike.
-/
lemma Move.follows {op : MonitorOp} {m m' : Monitor} {j : Journal} (h : Move op m j m')
    (hsettles : op.settles = true) : Follows m j m' := by
  have halike := (h.agrees hsettles).toAlike
  cases h with
  | carried h =>
    rename_i command rest
    -- the note of the command is not calm, but it is about no watch
    have hdone : Follows m ({ m with followUps := rest }.carryOut command).journal
        ({ m with followUps := rest }.carryOut command).state :=
      Follows.of_calm (calm_carryOut _ _) (within_carryOut_rest m _ _).watches halike
    exact ⟨hdone.course, halike⟩
  | notified address size => exact follows_notify m address size
  | polled => exact follows_poll m
  | tracked access =>
    exact Follows.of_calm (WatchList.plain_track m.ledger access).quiet.toCalm
      (List.Sublist.refl _) halike
  | installed =>
    obtain ⟨reads, writes, installed, hstate⟩ := m.installIntercepts_frame
    rw [hstate] at halike ⊢
    exact Follows.of_calm (plain_installIntercepts m).quiet.toCalm (List.Sublist.refl _) halike
  | taken => exact Follows.of_calm Journal.Quiet.empty.toCalm (List.Sublist.refl _) halike
  | checked selects observed =>
    exact Follows.of_calm (calm_afterCheck m selects observed) (List.Sublist.refl _) halike
  | switched on =>
    exact Follows.of_calm (calm_switchHardcore m on) (within_switchHardcore m on).watches halike
  | ended => exact Follows.of_calm (calm_endSession m) (within_endSession m).watches halike
  | started =>
    exact Follows.of_calm (Journal.Quiet.note rfl rfl).toCalm (List.Sublist.refl _) halike
  | direct h =>
    rw [hsettles] at h
    cases h

/-- A path within an operation that settles leaves the watches on a course and keeps memory alike.
-/
lemma Path.follows {op : MonitorOp} {m m' : Monitor} {j : Journal} (h : Path op m j m')
    (hsettles : op.settles = true) : Follows m j m' := by
  induction h with
  | refl m => exact ⟨Course.refl _, Ram.Alike.refl _⟩
  | cons head tail ih => exact (head.follows hsettles).trans ih

/-! ## Operations -/

/-- Adding a watch places one with the value that is read, or it fails and leaves the watches. -/
lemma addWatch_cases (m : Monitor) (address size : UInt32) (callback : Option (Callback Change)) :
    ((m.addWatch address size callback).value = true ∧ ∃ value,
      m.ram.look address size = .ok value ∧
      (m.addWatch address size callback).state.watches.watches =
        WatchList.place { address, size, lastValue := value, callback } m.watches.watches) ∨
    ((m.addWatch address size callback).value = false ∧
      (m.addWatch address size callback).state.watches = m.watches) := by
  have hlook := Probe.attempt_value m.probe address size
  by_cases hactive : m.active = true
  · simp only [addWatch, hactive, if_true, WatchList.add]
    cases checkRange address size with
    | error fault => exact Or.inr ⟨rfl, rfl⟩
    | ok _ =>
      by_cases hwidth : Watch.widths.contains size = true
      · simp only [hwidth, if_true]
        rw [hlook]
        cases hvalue : m.probe.memory.look address size with
        | error fault => exact Or.inr ⟨rfl, rfl⟩
        | ok value => exact Or.inl ⟨rfl, value, hvalue, rfl⟩
      · simp only [hwidth]
        exact Or.inr ⟨rfl, rfl⟩
  · simp only [addWatch, hactive]
    exact Or.inr ⟨rfl, rfl⟩

/-- An operation that neither settles nor adds a watch drops watches at most. -/
lemma watches_step (m : Monitor) {op : MonitorOp} (hsettles : op.settles = false)
    (hadds : ∀ address size callback, op ≠ .addWatch address size callback) :
    (m.step op).state.watches.watches.Sublist m.watches.watches := by
  by_cases htouches : op.touches = false
  · have hsession := session_step m htouches
    simp only [session, Prod.mk.injEq] at hsession
    rw [hsession.1]
  cases op with
  | addWatch address size callback => exact absurd rfl (hadds address size callback)
  | shutdown =>
    simp only [step, answerDone, answer, shutdown]
    split
    · exact List.nil_sublist _
    · exact List.Sublist.refl _
  | unloadGame => exact (within_unloadGame m).watches
  | removeWatch address =>
    simp only [step, answer, removeWatch]
    split
    · exact List.filter_sublist
    · exact List.Sublist.refl _
  | clearWatches =>
    simp only [step, silently, clearWatches]
    split
    · exact List.nil_sublist _
    · exact List.Sublist.refl _
  | addRegion r =>
    simp only [step, answer, addRegion]
    split <;> exact List.Sublist.refl _
  | loadGame id => exact List.Sublist.refl _
  | addObserver observer => exact List.Sublist.refl _
  | clearRegions => exact List.Sublist.refl _
  | resetAchievements => exact List.Sublist.refl _
  | _ => first | exact absurd rfl htouches | cases hsettles

/-- **An operation that adds no watch leaves the watches on a course**, over the memory as it was
before the operation. -/
theorem course_step (m : Monitor) {op : MonitorOp}
    (hadds : ∀ address size callback, op ≠ .addWatch address size callback) :
    Course m.ram.look m.watches.watches (m.step op).journal.changes (m.step op).journal.endings
      (m.step op).state.watches.watches := by
  by_cases hsettles : op.settles = true
  · exact ((path_step m op).follows hsettles).course
  · have hquiet := quiet_step m (by simpa using hsettles)
    rw [hquiet.changes, hquiet.endings]
    exact Course.dropped (watches_step m (by simpa using hsettles) hadds)

/-- No two watches share an address after an operation, if none did before. -/
lemma distinct_step {m : Monitor} (h : (m.watches.watches.map Watch.address).Nodup)
    (op : MonitorOp) : ((m.step op).state.watches.watches.map Watch.address).Nodup := by
  by_cases hadds : ∀ address size callback, op ≠ .addWatch address size callback
  · exact h.sublist (course_step m hadds).addresses_sublist
  · push Not at hadds
    obtain ⟨address, size, callback, rfl⟩ := hadds
    rcases addWatch_cases m address size callback with ⟨-, value, -, hplaced⟩ | ⟨-, hsame⟩
    · simp only [step, answer, hplaced]
      exact WatchList.nodup_place h
    · simp only [step, answer, hsame]
      exact h

/-- **No two watches of a reachable monitor share an address.** -/
theorem Reachable.distinct {m : Monitor} (h : Reachable m) :
    (m.watches.watches.map Watch.address).Nodup := by
  induction h with
  | make options now => exact List.nodup_nil
  | step h op ih => exact distinct_step ih op

end Monitor

end GuestWatch
