import GuestWatch.Monitor.Operations

set_option relaxedAutoImplicit false
set_option autoImplicit false

/-!
# Runs of the monitor

Whatever can happen to a monitor is an operation: its own ones, and those of the host and the guest
on its memory and its clock. A run is a list of them.

## Main definitions

* `GuestWatch.MonitorOp`, `GuestWatch.MonitorReply` — operations and their answers.
* `GuestWatch.Monitor.step` — carries out an operation.
* `GuestWatch.Monitor.run` — carries out a list of operations.
-/

namespace GuestWatch

/-- Something that can happen to a monitor. -/
inductive MonitorOp where
  /-- Starts the monitor. -/
  | start
  /-- Shuts the monitor down. -/
  | shutdown
  /-- Loads a game. -/
  | loadGame (id : String)
  /-- Drops the loaded game. -/
  | unloadGame
  /-- Does the work of one frame. -/
  | frame
  /-- Applies the intercepted accesses that wait. -/
  | applyPending
  /-- Notices a write of the guest. -/
  | writeObserved (address size : UInt32)
  /-- Carries out a command. -/
  | command (command : Command)
  /-- Adds a watch. -/
  | addWatch (address size : UInt32) (callback : Option (Callback Change))
  /-- Removes a watch. -/
  | removeWatch (address : UInt32)
  /-- Removes every watch. -/
  | clearWatches
  /-- Reads a range. -/
  | read (address size : UInt32)
  /-- Adds a condition. -/
  | addCondition (condition : Condition)
  /-- Adds a condition by the number of its comparison. -/
  | addConditionCode (address size code : UInt32) (configure : Condition → Condition)
  /-- Removes a condition. -/
  | removeCondition (address : UInt32)
  /-- Removes every condition. -/
  | clearConditions
  /-- Adds a callback of the conditions. -/
  | addConditionCallback (callback : ConditionCallback)
  /-- Checks a value against the condition at an address. -/
  | checkAddress (address value : UInt32)
  /-- Checks the conditions at a range of addresses. -/
  | checkBetween (start last : UInt32)
  /-- Checks every condition. -/
  | checkAll
  /-- An operation on the ledger, the clock included. -/
  | ledger (op : LedgerOp)
  /-- Switches hardcore mode. -/
  | setHardcore (on : Bool)
  /-- Adds an observer of the mode. -/
  | addObserver (observer : Callback Bool)
  /-- Adds a protected region. -/
  | addRegion (region : Region)
  /-- Removes every protected region. -/
  | clearRegions
  /-- Asks for a use of save states by name. -/
  | permits (name : String)
  /-- Asks for a use of the save state in an archive. -/
  | allows (archive : Archive) (use : StateUse)
  /-- Lets the memory check the protected regions. -/
  | checkMemory
  /-- Checks all there is to check. -/
  | checkSystem
  /-- A save state was written. -/
  | saveStateCreated
  /-- A save state was restored. -/
  | saveStateLoaded
  /-- Enables achievements again. -/
  | resetAchievements
  /-- The rules of the game read a byte. -/
  | peek (address : UInt32)
  /-- The rules of the game read bytes into a buffer. -/
  | peekBytes (address : UInt32) (buffer : List UInt8)
  /-- The rules of the game wrote a byte. -/
  | pokeObserved (address : UInt32) (value : UInt8)
  /-- An operation of the host or the guest on the memory. -/
  | memory (op : MemoryOp)

/-- The answer of an operation. -/
inductive MonitorReply where
  /-- Nothing to tell. -/
  | done
  /-- Yes or no. -/
  | flag (b : Bool)
  /-- A count. -/
  | count (n : Nat)
  /-- The report of a frame. -/
  | report (report : FrameReport)
  /-- A value that was read. -/
  | word (value : UInt32)
  /-- A byte that was read. -/
  | byte (value : UInt8)
  /-- How many bytes were filled, and the buffer. -/
  | filled (count : Nat) (buffer : List UInt8)
  /-- The answer of the memory. -/
  | memory (reply : MemoryReply)

namespace Monitor

/-- Answers an outcome. -/
def answer {α : Type} (reply : α → MonitorReply) (outcome : Outcome Monitor α) :
    Outcome Monitor MonitorReply :=
  ⟨reply outcome.value, outcome.state, outcome.journal⟩

/-- Answers an outcome that tells nothing. -/
def answerDone (outcome : Outcome Monitor Unit) : Outcome Monitor MonitorReply :=
  answer (fun _ => .done) outcome

/-- Answers a change of the state that does nothing else. -/
def silently (m : Monitor) : Outcome Monitor MonitorReply := ⟨.done, m, {}⟩

/-- Carries out an operation. -/
def step (m : Monitor) : MonitorOp → Outcome Monitor MonitorReply
  | .start => answerDone m.start
  | .shutdown => answerDone m.shutdown
  | .loadGame id => answerDone (m.loadGame id)
  | .unloadGame => answerDone m.unloadGame
  | .frame => answer .report m.frame
  | .applyPending => answer .count m.applyPending
  | .writeObserved address size => answer .count (m.writeObserved address size)
  | .command c => answerDone (m.command c)
  | .addWatch address size callback => answer .flag (m.addWatch address size callback)
  | .removeWatch address => answer .flag (m.removeWatch address)
  | .clearWatches => silently m.clearWatches
  | .read address size => answer .word (m.read address size)
  | .addCondition c => answer .flag (m.addCondition c)
  | .addConditionCode address size code configure =>
    answer .flag (m.addConditionCode address size code configure)
  | .removeCondition address => answer .flag (m.removeCondition address)
  | .clearConditions => answerDone m.clearConditions
  | .addConditionCallback callback => silently (m.addConditionCallback callback)
  | .checkAddress address value => answer .flag (m.checkAddress address value)
  | .checkBetween start last => answer .flag (m.checkBetween start last)
  | .checkAll => answer .flag m.checkAll
  | .ledger op =>
    let ran := m.ledger.step op
    ⟨.done, m.withLedger ran.state, ran.journal⟩
  | .setHardcore on => answer .flag (m.setHardcore on)
  | .addObserver observer => silently (m.addObserver observer)
  | .addRegion r => answer .flag (m.addRegion r)
  | .clearRegions => answerDone m.clearRegions
  | .permits name => answer .flag (m.permits name)
  | .allows archive use => answer .flag (m.allows archive use)
  | .checkMemory => answer .flag m.checkMemory
  | .checkSystem => answer .flag m.checkSystem
  | .saveStateCreated => answerDone m.saveStateUsed
  | .saveStateLoaded => answerDone m.saveStateUsed
  | .resetAchievements => silently m.resetAchievements
  | .peek address => answer .byte (m.peek address)
  | .peekBytes address buffer =>
    answer (fun filled => .filled filled.1 filled.2) (m.peekBytes address buffer)
  | .pokeObserved address value => answerDone (m.pokeObserved address value)
  | .memory op => answer .memory (m.memoryStep op)

/-- Carries out operations one after the other. The value holds their answers. -/
def run : List MonitorOp → Monitor → Outcome Monitor (List MonitorReply)
  | [], m => ⟨[], m, {}⟩
  | op :: rest, m =>
    let head := m.step op
    let tail := run rest head.state
    ⟨head.value :: tail.value, tail.state, head.journal ++ tail.journal⟩

end Monitor

end GuestWatch
