import GuestWatch.Text.Record

set_option relaxedAutoImplicit false
set_option autoImplicit false

/-!
# Commands

A callback runs while the monitor walks over its own lists, so it cannot change them. It asks for
commands instead, and the monitor carries them out, in the order they were asked, once the operation
at hand is finished.

## Main definitions

* `GuestWatch.Command` — what a callback may ask for.
-/

namespace GuestWatch

/-- What a callback may ask the monitor to do. -/
inductive Command where
  /-- Remove every watch. -/
  | clearWatches
  /-- Remove the watch at an address. -/
  | removeWatch (address : UInt32)
  /-- Remove every condition. -/
  | clearConditions
  /-- Remove every protected region. -/
  | clearRegions
  /-- Switch hardcore mode. -/
  | setHardcore (on : Bool)
  /-- Switch the recording of accesses. -/
  | enableTracking (on : Bool)
  /-- Drop the loaded game. -/
  | unloadGame
  /-- Disable achievements for the rest of the session. -/
  | disableAchievements
  deriving DecidableEq, Repr

/-- A command on one line. -/
def Command.text : Command → String
  | clearWatches => "ClearWatches"
  | removeWatch address => Text.call "RemoveWatch" (Text.word address)
  | clearConditions => "ClearConditions"
  | clearRegions => "ClearProtectedRegions"
  | setHardcore on => Text.call "SetHardcore" (Text.flag on)
  | enableTracking on => Text.call "EnableTracking" (Text.flag on)
  | unloadGame => "UnloadGame"
  | disableAchievements => "DisableAchievements"

/-- A queue of commands on one line. -/
def Command.queueText (queue : List Command) : String :=
  Text.record "Followups" [("queue", Text.list (queue.map Command.text))]

end GuestWatch
