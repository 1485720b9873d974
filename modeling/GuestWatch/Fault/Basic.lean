import GuestWatch.SaveState.Rejection

set_option relaxedAutoImplicit false
set_option autoImplicit false

/-!
# Faults

A fault is the reason an operation was refused. None is fatal: whoever meets one reports it and
carries on without the one watch, condition, region or save state it concerns.

## Main definitions

* `GuestWatch.AccessError` — what a memory answers when it cannot serve a read.
* `GuestWatch.Fault` — the faults, with their `kind`, `address?`, `message` and `sources`.
* `GuestWatch.FaultKind` — the four kinds that are counted.
-/

namespace GuestWatch

/-- A memory could not serve a read. -/
inductive AccessError where
  /-- Nothing is mapped at the address. -/
  | unmapped (address : UInt32)
  /-- The device behind the address failed. -/
  | deviceFault (address : UInt32)
  deriving DecidableEq, Repr

/-- What an access error says. -/
def AccessError.message : AccessError → String
  | .unmapped address => "no storage mapped at " ++ Hex.address address
  | .deviceFault address => "device fault at " ++ Hex.address address

/-- A setting that takes only some numbers. -/
inductive Setting where
  /-- The width of a watch. -/
  | watchWidth
  /-- The code of a condition's comparator. -/
  | conditionKind
  deriving DecidableEq, Repr

/-- The name of a setting in messages. -/
def Setting.name : Setting → String
  | .watchWidth => "watch width"
  | .conditionKind => "condition kind"

/-- The kinds under which faults are counted. -/
inductive FaultKind where
  /-- A range is empty, wraps or leaves the windows. -/
  | bounds
  /-- A read failed. -/
  | read
  /-- A save-state header was refused. -/
  | header
  /-- A setting has an unsupported number. -/
  | configuration
  deriving DecidableEq, Repr

/-- The name of a fault kind. -/
def FaultKind.name : FaultKind → String
  | .bounds => "Bounds"
  | .read => "Read"
  | .header => "Header"
  | .configuration => "Configuration"

/-- The fault kinds in the order of their counters. -/
def FaultKind.all : List FaultKind := [.bounds, .read, .header, .configuration]

/-- Why an operation was refused. -/
inductive Fault where
  /-- The range is empty, wraps or is not inside one window. -/
  | outOfBounds (address size : UInt32)
  /-- A read of `size` bytes failed in the memory. -/
  | readFailure (address size : UInt32) (cause : AccessError)
  /-- A save-state header was refused. -/
  | headerInvalid (rejection : HeaderRejection)
  /-- A setting has an unsupported number. -/
  | configuration (address : UInt32) (setting : Setting) (value : UInt32)
  deriving DecidableEq, Repr

namespace Fault

/-- The kind under which a fault is counted. -/
def kind : Fault → FaultKind
  | outOfBounds .. => .bounds
  | readFailure .. => .read
  | headerInvalid _ => .header
  | configuration .. => .configuration

/-- The address a fault refers to; a header fault has none. -/
def address? : Fault → Option UInt32
  | outOfBounds address _ => some address
  | readFailure address _ _ => some address
  | headerInvalid _ => none
  | configuration address _ _ => some address

/-- What a fault says. -/
def message : Fault → String
  | outOfBounds address size =>
    "range " ++ Hex.address address ++ "+" ++ Hex.size size
      ++ " is outside the observable windows"
  | readFailure address size _ =>
    "read of " ++ Text.word size ++ " byte(s) at " ++ Hex.address address ++ " failed"
  | headerInvalid rejection => "save-state header rejected: " ++ rejection.message
  | configuration address setting value =>
    "unsupported " ++ setting.name ++ " " ++ Text.word value ++ " at " ++ Hex.address address

/-- The messages of the causes behind a fault, nearest first. -/
def sources : Fault → List String
  | readFailure _ _ cause => [cause.message]
  | headerInvalid rejection => rejection.message :: rejection.sources
  | _ => []

end Fault

end GuestWatch
