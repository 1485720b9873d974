import GuestWatch.Access
import GuestWatch.Command
import GuestWatch.Fault.Basic
import GuestWatch.SaveState.Use

set_option relaxedAutoImplicit false
set_option autoImplicit false

/-!
# Notes

A note is one line for the log. It is kept as what happened; its level and its words follow from
that.

## Main definitions

* `GuestWatch.Note` — what can be noted, with `level` and `message`.
* `GuestWatch.Note.text` — the line of the log.
-/

namespace GuestWatch

/-- How much a note matters. -/
inductive Level where
  /-- Single accesses. -/
  | trace
  /-- Changes of what is observed. -/
  | debug
  /-- Changes of the mode. -/
  | info
  /-- Something was refused or failed. -/
  | warn
  deriving DecidableEq, Repr

/-- The name of a level. -/
def Level.name : Level → String
  | .trace => "TRACE"
  | .debug => "DEBUG"
  | .info => "INFO"
  | .warn => "WARN"

/-- Something for the log. -/
inductive Note where
  /-- A read of an unusual width becomes a read of a word. -/
  | unusualWidth (size address : UInt32)
  /-- A read failed and answered zero. -/
  | readFailed (address size : UInt32) (fault : Fault)
  /-- A watch was given up. -/
  | watchDeactivated (address : UInt32) (fault : Fault)
  /-- Inactive watches were dropped. -/
  | watchesPruned (count : Nat)
  /-- A watch was not added. -/
  | watchRefused (address : UInt32) (fault : Fault)
  /-- A condition was added. -/
  | conditionAdded (address : UInt32)
  /-- A condition was removed. -/
  | conditionRemoved (address : UInt32)
  /-- All conditions were removed. -/
  | conditionsCleared
  /-- A condition was not added. -/
  | conditionRefused (fault : Fault)
  /-- An access was recorded. -/
  | accessRecorded (access : Access)
  /-- An access was not recorded. -/
  | accessRefused (fault : Fault)
  /-- A protected region was added and intersecting ones were evicted. -/
  | regionAdded (start : UInt32) (stop evicted : Nat)
  /-- All protected regions were removed. -/
  | regionsCleared
  /-- A protected region was not added. -/
  | regionRefused (fault : Fault)
  /-- The contents of a protected region failed the memory's own check. -/
  | regionInvalid (start size : UInt32)
  /-- Hardcore mode was switched. -/
  | hardcoreSwitched (on : Bool)
  /-- Achievements were disabled. -/
  | achievementsDisabled
  /-- A use of save states was refused by name. -/
  | saveStateBlocked (name : String)
  /-- A use of a save state was refused because of the header. -/
  | saveStateDenied (use : StateUse) (fault : Fault)
  /-- The monitor was started. -/
  | started
  /-- The monitor was shut down. -/
  | stopped
  /-- The intercepts were installed. -/
  | interceptsInstalled
  /-- The intercepts were removed. -/
  | interceptsRemoved
  /-- An intercepted access found the queue full. -/
  | accessDropped (access : Access)
  /-- A game was loaded. -/
  | gameLoaded (id : String)
  /-- The loaded game was dropped. -/
  | gameUnloaded (id : String)
  /-- A command asked for by a callback is carried out. -/
  | commandApplied (command : Command)
  deriving DecidableEq, Repr

namespace Note

/-- How much a note matters. -/
def level : Note → Level
  | unusualWidth .. | readFailed .. | watchDeactivated .. | watchRefused .. | conditionRefused _
  | accessRefused _ | regionRefused _ | regionInvalid .. | saveStateBlocked _
  | saveStateDenied .. => .warn
  | hardcoreSwitched _ | achievementsDisabled | started | stopped
  | interceptsInstalled | interceptsRemoved | gameLoaded _ | gameUnloaded _ => .info
  | watchesPruned _ | conditionAdded _ | conditionRemoved _ | conditionsCleared | regionAdded ..
  | regionsCleared | commandApplied _ => .debug
  | accessRecorded _ | accessDropped _ => .trace

/-- What a note says. -/
def message : Note → String
  | unusualWidth size address =>
    "unsupported read width " ++ Text.word size ++ " at " ++ Hex.address address
      ++ ", falling back to a word read"
  | readFailed address size fault =>
    "memory read at " ++ Hex.address address ++ " (size " ++ Text.word size ++ ") failed: "
      ++ fault.message
  | watchDeactivated address fault =>
    "deactivating watch at " ++ Hex.address address ++ ": " ++ fault.message
  | watchesPruned count => "pruned " ++ Nat.repr count ++ " inactive watch(es)"
  | watchRefused address fault =>
    "watch at " ++ Hex.address address ++ " refused: " ++ fault.message
  | conditionAdded address => "added validation condition at " ++ Hex.address address
  | conditionRemoved address => "removed validation condition at " ++ Hex.address address
  | conditionsCleared => "cleared all validation conditions"
  | conditionRefused fault => "validation condition refused: " ++ fault.message
  | accessRecorded access =>
    access.kind.name ++ " access at " ++ Hex.address access.address ++ ", size "
      ++ Text.word access.size ++ ", value " ++ Hex.address access.value
  | accessRefused fault => "access not tracked: " ++ fault.message
  | regionAdded start stop evicted =>
    "protected region " ++ Hex.address start ++ ".." ++ Hex.padded stop ++ " added, "
      ++ Nat.repr evicted ++ " evicted"
  | regionsCleared => "cleared all protected regions"
  | regionRefused fault => "protected region refused: " ++ fault.message
  | regionInvalid start size =>
    "protected region " ++ Hex.address start ++ "+" ++ Hex.size size ++ " failed validation"
  | hardcoreSwitched on => "hardcore mode " ++ if on then "enabled" else "disabled"
  | achievementsDisabled => "achievements disabled for this session"
  | saveStateBlocked name => "save state " ++ name ++ " blocked in hardcore mode"
  | saveStateDenied use fault =>
    "save state " ++ use.word ++ " denied: " ++ fault.message
  | started => "memory engine initialized"
  | stopped => "memory engine shut down"
  | interceptsInstalled => "memory intercepts installed"
  | interceptsRemoved => "memory intercepts removed"
  | accessDropped access => "intercept queue full, dropped " ++ access.text
  | gameLoaded id => "game context " ++ id ++ " loaded"
  | gameUnloaded id => "game context " ++ id ++ " unloaded"
  | commandApplied command => "applying follow-up " ++ command.text

/-- The line of the log: the level, a blank and the message. -/
def text (note : Note) : String := note.level.name ++ " " ++ note.message

end Note

end GuestWatch
