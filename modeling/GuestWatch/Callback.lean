import GuestWatch.Command

set_option relaxedAutoImplicit false
set_option autoImplicit false

/-!
# Callbacks

A callback is a program of the host that is told about something and may ask for commands. What it
asks for on a call may depend on everything it was told so far, so a callback is a function of the
history of its calls. Over its whole life it asks for commands on a bounded number of calls, each
time for as many as it likes: the bound is part of it.

## Main definitions

* `GuestWatch.Callback` — a callback for messages of one type, with `call`.
* `GuestWatch.Callback.remaining` — on how many more calls it may ask for commands.
* `GuestWatch.Callback.script` — the callback that asks for the same commands each time, on a given
  number of wanted calls.
* `GuestWatch.Callback.silence` — the callback that is told the same and asks for nothing.

## Main results

* `GuestWatch.Callback.remaining_call` — a call on which commands are asked for is taken off the
  remaining ones.
-/

namespace GuestWatch

variable {α : Type}

/-- The number of calls, one or none, on which these commands were asked for. -/
def asking (commands : List Command) : Nat := if commands = [] then 0 else 1

@[simp] theorem asking_nil : asking [] = 0 := rfl

/-- Asking for two lists of commands takes no more calls than asking for each of them. -/
theorem asking_append_le (first second : List Command) :
    asking (first ++ second) ≤ asking first + asking second := by
  cases first with
  | nil => simp
  | cons command rest => simp [asking]

/-- On how many calls of a history, newest first, commands were asked for. -/
def asked (answer : List α → List Command) : List α → Nat
  | [] => 0
  | a :: past => asked answer past + asking (answer (a :: past))

/-- A program of the host that is told messages of type `α`. -/
structure Callback (α : Type) where
  /-- The name under which its calls are reported. -/
  name : String
  /-- What it asks for on the first call of a history, newest call first. -/
  answer : List α → List Command
  /-- The number of calls on which it asks for commands at most. -/
  limit : Nat
  /-- Over no history commands are asked for on more calls than that. -/
  asked_le : ∀ history, asked answer history ≤ limit
  /-- The calls so far, newest first. -/
  history : List α := []

namespace Callback

/-- Tells a callback something: what it asks for, and the callback afterwards. -/
def call (c : Callback α) (a : α) : List Command × Callback α :=
  (c.answer (a :: c.history), { c with history := a :: c.history })

/-- On how many more calls a callback may ask for commands. -/
def remaining (c : Callback α) : Nat := c.limit - asked c.answer c.history

/-- A call on which commands are asked for is taken off the remaining ones. -/
theorem remaining_call (c : Callback α) (a : α) :
    (c.call a).2.remaining + asking (c.call a).1 = c.remaining := by
  have h := c.asked_le (a :: c.history)
  simp only [asked] at h
  simp only [call, remaining, asked]
  omega

/-! ## Silence -/

/-- Nothing is asked for over a history of silent answers. -/
theorem asked_nil_answers (history : List α) : asked (fun _ => []) history = 0 := by
  induction history with
  | nil => rfl
  | cons a past ih => rw [asked, ih, asking_nil]

/-- The callback that is told the same things and asks for nothing. -/
def silence (c : Callback α) : Callback α where
  name := c.name
  answer _ := []
  limit := 0
  asked_le history := Nat.le_of_eq (asked_nil_answers history)
  history := c.history

/-- A silenced callback asks for nothing. -/
@[simp] theorem silence_call (c : Callback α) (a : α) :
    c.silence.call a = ([], (c.call a).2.silence) := rfl

/-! ## Scripts -/

/-- What a script asks for: `commands`, on wanted calls, as long as fewer than `times` wanted calls
came before. -/
def scriptAnswer (commands : List Command) (times : Nat) (wanted : α → Bool) :
    List α → List Command
  | [] => []
  | a :: past => if wanted a && past.countP wanted < times then commands else []

/-- A script asks for its commands on wanted calls only, and on at most `times` of them.

**Proof sketch.** By induction on the history. A call that is not wanted adds nothing. A wanted one
adds at most one call, and it counts as one more wanted call, as long as there were fewer than
`times` of them. -/
theorem asked_scriptAnswer_le (commands : List Command) (times : Nat) (wanted : α → Bool)
    (history : List α) :
    asked (scriptAnswer commands times wanted) history ≤ min times (history.countP wanted) := by
  induction history with
  | nil => simp [asked]
  | cons a past ih =>
    rw [asked, scriptAnswer, List.countP_cons]
    by_cases hw : wanted a = true
    · by_cases ht : past.countP wanted < times
      · have hone : asking commands ≤ 1 := by
          unfold asking
          split <;> omega
        simp only [hw, ht, decide_true, Bool.and_self, if_true]
        omega
      · simp only [hw, ht, decide_false, Bool.and_false, Bool.false_eq_true, if_false, if_true,
          asking_nil]
        omega
    · simp only [hw, Bool.false_and, Bool.false_eq_true, if_false, asking_nil, Nat.add_zero]
      exact ih

/-- The callback that asks for `commands` on each of its first `times` wanted calls. -/
def script (name : String) (commands : List Command) (times : Nat) (wanted : α → Bool) :
    Callback α where
  name := name
  answer := scriptAnswer commands times wanted
  limit := times
  asked_le history :=
    Nat.le_trans (asked_scriptAnswer_le commands times wanted history) (Nat.min_le_left _ _)

end Callback

end GuestWatch
