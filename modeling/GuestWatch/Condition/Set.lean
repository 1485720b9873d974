import GuestWatch.Address.Range
import GuestWatch.Journal.Basic

set_option relaxedAutoImplicit false
set_option autoImplicit false

/-!
# Sets of conditions

A set holds one condition for each address. A check evaluates the active conditions it selects, all
of them, also after one has failed, and tells every callback each outcome.

## Main definitions

* `GuestWatch.ConditionSet` — the conditions and the callbacks.
* `GuestWatch.ConditionSet.checkAddress` — checks a value of the caller.
* `GuestWatch.ConditionSet.checkBetween`, `GuestWatch.ConditionSet.checkAll` — evaluate conditions
  on their own operand.
-/

namespace GuestWatch

/-- What a callback of conditions is told: the condition and whether it held. -/
abbrev ConditionCallback := Callback (Condition × Bool)

/-- The conditions, one for each address, and who is told their outcomes. -/
structure ConditionSet where
  /-- The conditions, oldest first. -/
  conditions : List Condition := []
  /-- The callbacks in the order of their registration. -/
  callbacks : List ConditionCallback := []

namespace ConditionSet

/-- Adds a condition with a legal range; the one at its address, if any, is dropped. -/
def add (set : ConditionSet) (c : Condition) : Outcome ConditionSet (Except Fault Unit) :=
  match checkRange c.address c.size with
  | .error fault => ⟨.error fault, set, {}⟩
  | .ok _ =>
    ⟨.ok (),
      { set with conditions := (set.conditions.filter fun o => o.address != c.address) ++ [c] },
      Journal.note (.conditionAdded c.address)⟩

/-- Removes the condition at an address; the value says whether there was one. -/
def remove (set : ConditionSet) (address : UInt32) : Outcome ConditionSet Bool :=
  if set.conditions.any fun c => c.address == address then
    ⟨true, { set with conditions := set.conditions.filter fun c => c.address != address },
      Journal.note (.conditionRemoved address)⟩
  else ⟨false, set, {}⟩

/-- Removes every condition. -/
def clear (set : ConditionSet) : Outcome ConditionSet Unit :=
  ⟨(), { set with conditions := [] }, Journal.note .conditionsCleared⟩

/-- Adds a callback. -/
def addCallback (set : ConditionSet) (callback : ConditionCallback) : ConditionSet :=
  { set with callbacks := set.callbacks ++ [callback] }

/-- Removes every callback. -/
def removeCallbacks (set : ConditionSet) : ConditionSet := { set with callbacks := [] }

/-! ## Checks -/

/-- The report of one outcome. -/
def outcomeEvent (name : String) (outcome : Condition × Bool) : Event :=
  .evaluated name outcome.1 outcome.2

/-- Evaluates conditions one after the other on what is observed of each, and tells the callbacks
each outcome. The value says whether all of them held. -/
def evaluate (observed : Condition → UInt32) :
    List Condition → List ConditionCallback → Outcome (List ConditionCallback) Bool
  | [], callbacks => ⟨true, callbacks, {}⟩
  | c :: rest, callbacks =>
    let passed := c.holds (observed c)
    let told := Callback.tellAll outcomeEvent (c, passed) callbacks
    let others := evaluate observed rest told.state
    ⟨passed && others.value, others.state, told.journal ++ others.journal⟩

/-- Evaluates the active conditions that are selected. -/
def check (set : ConditionSet) (selects : Condition → Bool) (observed : Condition → UInt32) :
    Outcome ConditionSet Bool :=
  let run := evaluate observed
    (set.conditions.filter fun c => c.active && selects c) set.callbacks
  ⟨run.value, { set with callbacks := run.state }, run.journal⟩

/-- Checks a value against the condition at an address. -/
def checkAddress (set : ConditionSet) (address value : UInt32) : Outcome ConditionSet Bool :=
  set.check (fun c => c.address == address) fun _ => value

/-- Checks the conditions at the addresses from `start` to `last`, both included, on their own
operand. -/
def checkBetween (set : ConditionSet) (start last : UInt32) : Outcome ConditionSet Bool :=
  set.check (fun c => start ≤ c.address && c.address ≤ last) Condition.value

/-- Checks every condition on its own operand. -/
def checkAll (set : ConditionSet) : Outcome ConditionSet Bool :=
  set.check (fun _ => true) Condition.value

/-- A set on one line. -/
def text (set : ConditionSet) : String :=
  Text.record "ValidationEngine" [("conditions", Text.list (set.conditions.map Condition.text)),
    ("callbacks", Nat.repr set.callbacks.length)]

end ConditionSet

end GuestWatch
