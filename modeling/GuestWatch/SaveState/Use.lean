set_option relaxedAutoImplicit false
set_option autoImplicit false

/-!
# Uses of a save state

## Main definitions

* `GuestWatch.StateUse` — what the gate of save states is asked about.
-/

namespace GuestWatch

/-- What the gate of save states is asked about. -/
inductive StateUse where
  /-- Writing a save state. -/
  | save
  /-- Restoring a save state. -/
  | load
  deriving DecidableEq, Repr

/-- The lower-case name of a use, for messages. -/
def StateUse.word : StateUse → String
  | .save => "save"
  | .load => "load"

/-- The name of a use. -/
def StateUse.name : StateUse → String
  | .save => "Save"
  | .load => "Load"

/-- Both uses. -/
def StateUse.all : List StateUse := [.save, .load]

end GuestWatch
