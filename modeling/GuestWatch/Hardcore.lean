import GuestWatch.Guard
import GuestWatch.Journal.Basic
import GuestWatch.Memory.Basic
import GuestWatch.SaveState.Archive
import GuestWatch.Word

set_option relaxedAutoImplicit false
set_option autoImplicit false

/-!
# Hardcore mode

In hardcore mode regions of memory are protected, save states are refused unless their header is in
order, and using one all the same disables achievements for the session. Observers are told each
switch of the mode and each disabling of achievements.

## Main definitions

* `GuestWatch.Hardcore` — the guard, the observers and the achievements flag.
* `GuestWatch.Hardcore.setEnabled` — switches the mode.
* `GuestWatch.Hardcore.inspect` — why the header in an archive does not permit a use.
* `GuestWatch.Hardcore.checkMemory` — lets a memory check its protected regions.

## Main results

* `GuestWatch.Hardcore.remaining_setEnabled`, `GuestWatch.Hardcore.remaining_disableAchievements` —
  when the observers ask for commands, a call is taken off those on which they may still ask.
-/

namespace GuestWatch

/-- The state of hardcore mode. -/
structure Hardcore where
  /-- The protected regions; its switch is the mode. -/
  guard : Guard := {}
  /-- Who is told about the mode, in the order of registration. -/
  observers : List (Callback Bool) := []
  /-- Whether achievements may still unlock. -/
  achievements : Bool := true

namespace Hardcore

variable {β : Type} [GuestMemory β]

/-- Whether hardcore mode is on. -/
def enabled (h : Hardcore) : Bool := h.guard.enabled

/-- Tells every observer. -/
def tellObservers (h : Hardcore) (on : Bool) : Outcome Hardcore Unit :=
  let told := Callback.tellAll Event.mode on h.observers
  ⟨(), { h with observers := told.state }, told.journal⟩

/-- Switches the mode. Nothing happens when it is set that way already. Otherwise the memory's write
protection follows, and every observer is told. The value says whether the mode changed. -/
def setEnabled (h : Hardcore) (on : Bool) (memory : β) : Outcome (Hardcore × β) Bool :=
  if h.enabled = on then ⟨false, (h, memory), {}⟩
  else
    let told := { h with guard := { h.guard with enabled := on } }.tellObservers on
    ⟨true, (told.state, GuestMemory.setProtection on memory),
      Journal.note (.hardcoreSwitched on) ++ told.journal⟩

/-- Adds an observer. -/
def addObserver (h : Hardcore) (observer : Callback Bool) : Hardcore :=
  { h with observers := h.observers ++ [observer] }

/-- Removes every observer. -/
def removeObservers (h : Hardcore) : Hardcore := { h with observers := [] }

/-! ## Protected regions -/

/-- Adds a protected region. -/
def addRegion (h : Hardcore) (r : Region) : Outcome Hardcore (Except Fault Unit) :=
  match h.guard.add r with
  | .error fault => ⟨.error fault, h, {}⟩
  | .ok (evicted, guard) =>
    ⟨.ok (), { h with guard }, Journal.note (.regionAdded r.start r.stop evicted)⟩

/-- Removes every protected region. -/
def clearRegions (h : Hardcore) : Outcome Hardcore Unit :=
  ⟨(), { h with guard := h.guard.clear }, Journal.note .regionsCleared⟩

/-- Lets a memory check regions in their order, up to the first that does not pass. -/
def checkRegions : List Region → β → Outcome β Bool
  | [], memory => ⟨true, memory, {}⟩
  | r :: rest, memory =>
    match GuestMemory.checkContents r.start (Word.satAdd r.start r.size) memory with
    | (true, memory) => checkRegions rest memory
    | (false, memory) => ⟨false, memory, Journal.note (.regionInvalid r.start r.size)⟩

/-- Lets a memory check the protected regions. Outside hardcore mode there is nothing to check. -/
def checkMemory (h : Hardcore) (memory : β) : Outcome β Bool :=
  if h.enabled then checkRegions h.guard.regions memory else ⟨true, memory, {}⟩

/-- Checks all there is to check: the memory. -/
def checkSystem (h : Hardcore) (memory : β) : Outcome β Bool :=
  if h.enabled then h.checkMemory memory else ⟨true, memory, {}⟩

/-! ## Save states -/

/-- Whether save states may be used without a look at their header. -/
def saveStateAllowed (h : Hardcore) : Bool := !h.enabled

/-- Permits a use of save states, given by its name, outside hardcore mode only. -/
def permits (h : Hardcore) (name : String) : Outcome Hardcore Bool :=
  if h.enabled then ⟨false, h, Journal.note (.saveStateBlocked name)⟩ else ⟨true, h, {}⟩

/-- Why a header does not permit a use: a save needs the right magic number, a load a
known version and known features as well. -/
def checkHeader (use : StateUse) (header : Header) : Except HeaderRejection Unit :=
  match header.checkMagic with
  | .error rejection => .error rejection
  | .ok _ =>
    match use with
    | .save => .ok ()
    | .load =>
      match header.checkCompatible with
      | .error rejection => .error rejection
      | .ok _ => .ok ()

/-- Why the save state in an archive does not permit a use. Outside hardcore mode it always
does. -/
def inspect (h : Hardcore) (archive : Archive) (use : StateUse) :
    Except Fault Unit :=
  if h.enabled then
    match Header.ofArchive archive with
    | .error rejection => .error (.headerInvalid rejection)
    | .ok header =>
      match checkHeader use header with
      | .error rejection => .error (.headerInvalid rejection)
      | .ok _ => .ok ()
  else .ok ()

/-- Whether the save state in an archive permits a use; a refusal is noted. -/
def allows (h : Hardcore) (archive : Archive) (use : StateUse) :
    Outcome Hardcore Bool :=
  match h.inspect archive use with
  | .ok _ => ⟨true, h, {}⟩
  | .error fault => ⟨false, h, Journal.note (.saveStateDenied use fault)⟩

/-- Disables achievements and tells every observer. -/
def disableAchievements (h : Hardcore) : Outcome Hardcore Unit :=
  let told := { h with achievements := false }.tellObservers false
  ⟨(), told.state, Journal.note .achievementsDisabled ++ told.journal⟩

/-- A save state was written or restored. In hardcore mode that disables achievements; the value
says whether it did. -/
def saveStateUsed (h : Hardcore) : Outcome Hardcore Bool :=
  if h.enabled then
    let disabled := h.disableAchievements
    ⟨true, disabled.state, disabled.journal⟩
  else ⟨false, h, {}⟩

/-- Enables achievements again. -/
def reset (h : Hardcore) : Hardcore := { h with achievements := true }

/-- Hardcore mode on one line. -/
def text (h : Hardcore) : String :=
  Text.record "HardcoreCoordinator" [("guard", h.guard.text),
    ("observers", Nat.repr h.observers.length), ("achievements_enabled", Text.flag h.achievements)]

/-! ## Commands of the observers -/

/-- On how many more calls the observers may ask for commands. -/
def remaining (h : Hardcore) : Nat := Callback.totalRemaining h.observers

/-- When the observers ask for commands, a call is taken off those on which they may still ask. -/
theorem remaining_tellObservers (h : Hardcore) (on : Bool) :
    (h.tellObservers on).state.remaining + asking (h.tellObservers on).journal.commands
      ≤ h.remaining :=
  Callback.totalRemaining_tellAll Event.mode on h.observers

/-- When the observers ask for commands at a switch of the mode, a call is taken off those on which
they may still ask. -/
theorem remaining_setEnabled (h : Hardcore) (on : Bool) (memory : β) :
    (h.setEnabled on memory).state.1.remaining
        + asking (h.setEnabled on memory).journal.commands ≤ h.remaining := by
  unfold setEnabled
  split
  · exact Nat.le_refl _
  · exact remaining_tellObservers { h with guard := { h.guard with enabled := on } } on

/-- When the observers ask for commands as achievements are disabled, a call is taken off those on
which they may still ask. -/
theorem remaining_disableAchievements (h : Hardcore) :
    h.disableAchievements.state.remaining + asking h.disableAchievements.journal.commands
      ≤ h.remaining :=
  remaining_tellObservers { h with achievements := false } false

end Hardcore

end GuestWatch
