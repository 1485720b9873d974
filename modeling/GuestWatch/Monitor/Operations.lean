import GuestWatch.Monitor.FollowUps

set_option relaxedAutoImplicit false
set_option autoImplicit false

/-!
# The operations of the monitor

Each operation that may run a callback ends by carrying out the commands the callbacks asked for.

## Main definitions

* `GuestWatch.Monitor.start`, `GuestWatch.Monitor.shutdown` — the life of a monitor.
* `GuestWatch.Monitor.frame`, `GuestWatch.Monitor.applyPending`, `GuestWatch.Monitor.writeObserved`
  — how changes of memory are noticed.
* `GuestWatch.Monitor.peek`, `GuestWatch.Monitor.peekBytes`, `GuestWatch.Monitor.pokeObserved` —
  what the rules of a loaded game see. -/

namespace GuestWatch

namespace Monitor

/-- Carries out the commands that came up in an operation and appends what that does to its
journal. -/
def settle {α : Type} (outcome : Outcome Monitor α) : Outcome Monitor α :=
  let drained := outcome.state.drain
  ⟨outcome.value, drained.state, outcome.journal ++ drained.journal⟩

/-! ## Hardcore mode -/

/-- Switches hardcore mode; the value says whether that changed it. -/
def setHardcore (m : Monitor) (on : Bool) : Outcome Monitor Bool := settle (m.switchHardcore on)

/-- Adds a protected region; one with an illegal range is refused. -/
def addRegion (m : Monitor) (r : Region) : Outcome Monitor Bool :=
  let added := m.hardcore.addRegion r
  match added.value with
  | .ok _ => ⟨true, { m with hardcore := added.state }, added.journal⟩
  | .error fault =>
    ⟨false, m.record fault, added.journal ++ Journal.note (.regionRefused fault)⟩

/-- Removes every protected region. -/
def clearRegions (m : Monitor) : Outcome Monitor Unit :=
  let cleared := m.hardcore.clearRegions
  ⟨(), { m with hardcore := cleared.state }, cleared.journal⟩

/-- Adds an observer of the mode. -/
def addObserver (m : Monitor) (observer : Callback Bool) : Monitor :=
  { m with hardcore := m.hardcore.addObserver observer }

/-- Whether an address is protected now. -/
def isProtected (m : Monitor) (address : UInt32) : Bool := m.hardcore.guard.isProtected address

/-- Permits a use of save states by its name; a refusal is counted. -/
def permits (m : Monitor) (name : String) : Outcome Monitor Bool :=
  let asked := m.hardcore.permits name
  ⟨asked.value,
    if asked.value then m else { m with tally := m.tally.countDenied },
    asked.journal⟩

/-- Permits a use of the save state in an archive; a refusal is noted and counted, under its
fault as well. -/
def allows (m : Monitor) (archive : Archive) (use : StateUse) : Outcome Monitor Bool :=
  match m.hardcore.inspect archive use with
  | .ok _ => ⟨true, m, {}⟩
  | .error fault =>
    ⟨false, { m with tally := (m.tally.record fault).countDenied },
      Journal.note (.saveStateDenied use fault)⟩

/-- Lets the memory check the protected regions. -/
def checkMemory (m : Monitor) : Outcome Monitor Bool :=
  let ran := m.hardcore.checkMemory m.ram
  ⟨ran.value, { m with ram := ran.state }, ran.journal⟩

/-- Checks all there is to check. -/
def checkSystem (m : Monitor) : Outcome Monitor Bool :=
  let ran := m.hardcore.checkSystem m.ram
  ⟨ran.value, { m with ram := ran.state }, ran.journal⟩

/-- A save state was written or restored: in hardcore mode that ends the session. -/
def saveStateUsed (m : Monitor) : Outcome Monitor Unit :=
  settle (if m.hardcore.enabled then m.endSession else ⟨(), m, {}⟩)

/-- Enables achievements again. -/
def resetAchievements (m : Monitor) : Monitor := { m with hardcore := m.hardcore.reset }

/-- Carries out a command and whatever it leads to. -/
def command (m : Monitor) (c : Command) : Outcome Monitor Unit := (m.enqueue [c]).drain

/-! ## Life of a monitor -/

/-- Starts the monitor, in hardcore mode if its options ask for it. -/
def start (m : Monitor) : Outcome Monitor Unit :=
  if m.active then ⟨(), m, {}⟩
  else
    let started := Journal.note .started
    if m.options.hardcoreOnStart then
      let switched := { m with active := true }.setHardcore true
      ⟨(), switched.state, started ++ switched.journal⟩
    else ⟨(), { m with active := true }, started⟩

/-- Installs the monitor's intercept of one kind over a window, or an empty slot in its place. -/
def installSlot (m : Monitor) (w : Window) (kind : Direction) (handler : Option Handler) :
    Monitor :=
  { m with ram := m.ram.installSlot ⟨w.start, w.size, m.options.interceptPriority, handler⟩ kind }

/-- The handler of guest loads: loads are reported only if so configured. -/
def readHandler (m : Monitor) (w : Window) : Handler :=
  if m.options.trackReads then .capture w .read else .passThrough

/-- Installs the intercepts of both windows, unless they are installed. -/
def installIntercepts (m : Monitor) : Outcome Monitor Unit :=
  if m.intercepting then ⟨(), m, {}⟩
  else
    let installed := Window.all.foldl (fun m w =>
      (m.installSlot w .read (some (m.readHandler w))).installSlot w .write
        (some (.capture w .write))) m
    ⟨(), { installed with intercepting := true }, Journal.note .interceptsInstalled⟩

/-- Empties the slots of the intercepts, if they are installed. -/
def removeIntercepts (m : Monitor) : Outcome Monitor Unit :=
  if m.intercepting then
    let removed := Window.all.foldl (fun m w =>
      (m.installSlot w .read none).installSlot w .write none) m
    ⟨(), { removed with intercepting := false }, Journal.note .interceptsRemoved⟩
  else ⟨(), m, {}⟩

/-- Shuts the monitor down: no intercept, no watch and no waiting access is left. -/
def shutdown (m : Monitor) : Outcome Monitor Unit :=
  if m.active then
    let removed := m.removeIntercepts
    ⟨(), { removed.state.dropWatches with pending := [], active := false },
      removed.journal ++ Journal.note .stopped⟩
  else ⟨(), m, {}⟩

/-- Loads a game. -/
def loadGame (m : Monitor) (id : String) : Outcome Monitor Unit :=
  ⟨(), { m with game := some id }, Journal.note (.gameLoaded id)⟩

/-! ## Watches -/

/-- Adds a watch to a started monitor; a refusal is noted and counted. -/
def addWatch (m : Monitor) (address size : UInt32) (callback : Option (Callback Change)) :
    Outcome Monitor Bool :=
  if m.active then
    let added := m.watches.add m.probe address size callback
    let m := { m.withProbe added.state.2 with watches := added.state.1 }
    match added.value with
    | .ok _ => ⟨true, m, added.journal⟩
    | .error fault =>
      ⟨false, m.record fault, added.journal ++ Journal.note (.watchRefused address fault)⟩
  else ⟨false, m, {}⟩

/-- Removes the watch at an address; the value says whether a started monitor had one. -/
def removeWatch (m : Monitor) (address : UInt32) : Outcome Monitor Bool :=
  if m.active then
    ⟨m.watches.contains address, { m with watches := m.watches.remove address }, {}⟩
  else ⟨false, m, {}⟩

/-- Removes every watch of a started monitor. -/
def clearWatches (m : Monitor) : Monitor := if m.active then m.dropWatches else m

/-- Refreshes the watches a write overlaps; the commands their callbacks ask for wait. -/
def notify (m : Monitor) (address size : UInt32) : Outcome Monitor Nat :=
  let told := m.watches.notify m.probe address size
  ⟨told.value,
    { m.withProbe told.state.2 with watches := told.state.1 }.enqueue told.journal.commands,
    told.journal⟩

/-- Notices a write of the guest at once. The value is the number of changes found. -/
def writeObserved (m : Monitor) (address size : UInt32) : Outcome Monitor Nat :=
  if m.active then settle (m.notify address size) else ⟨0, m, {}⟩

/-- Records an access in the ledger. -/
def track (m : Monitor) (access : Access) : Outcome Monitor Unit :=
  let kept := m.ledger.track access
  ⟨(), { m with ledger := kept.state }, kept.journal⟩

/-- Applies an access: it is recorded, and a write is noticed. -/
def observe (m : Monitor) (access : Access) : Outcome Monitor Unit :=
  let kept := m.track access
  match access.kind with
  | .read => kept
  | .write =>
    let told := kept.state.notify access.address access.size
    ⟨(), told.state, kept.journal ++ told.journal⟩

/-- Applies accesses one after the other. -/
def observeAll : List Access → Monitor → Outcome Monitor Unit
  | [], m => ⟨(), m, {}⟩
  | access :: rest, m =>
    let head := m.observe access
    let tail := observeAll rest head.state
    ⟨(), tail.state, head.journal ++ tail.journal⟩

/-- Takes the accesses that wait off the queue and applies them, if the monitor is started. The
value is the number of accesses applied. -/
def applyPending (m : Monitor) : Outcome Monitor Nat :=
  let emptied := { m with pending := [] }
  if m.active then
    let seen := observeAll m.pending emptied
    settle ⟨m.pending.length, seen.state, seen.journal⟩
  else settle ⟨0, emptied, {}⟩

/-- Polls the watches; the commands their callbacks ask for wait. -/
def poll (m : Monitor) : Outcome Monitor FrameReport :=
  let polled := m.watches.poll m.probe m.ledger
  ⟨polled.value,
    { m.withProbe polled.state.2.1 with
        watches := polled.state.1, ledger := polled.state.2.2 }.enqueue polled.journal.commands,
    polled.journal⟩

/-- The work of one frame: installs the intercepts if need be, applies the accesses that wait, and
polls the watches. -/
def frame (m : Monitor) : Outcome Monitor FrameReport :=
  if m.active then
    let installed := m.installIntercepts
    let processed := installed.state.applyPending
    let polled := settle processed.state.poll
    ⟨polled.value, polled.state, installed.journal ++ (processed.journal ++ polled.journal)⟩
  else ⟨{}, m, {}⟩

/-! ## Conditions -/

/-- Adds a condition; one with an illegal range is refused. -/
def addCondition (m : Monitor) (c : Condition) : Outcome Monitor Bool :=
  let added := m.conditions.add c
  match added.value with
  | .ok _ => ⟨true, { m with conditions := added.state }, added.journal⟩
  | .error fault =>
    ⟨false, m.record fault, added.journal ++ Journal.note (.conditionRefused fault)⟩

/-- Adds the condition with the comparison of a given number, its operands filled in by
`configure`; an unknown number is refused. -/
def addConditionCode (m : Monitor) (address size code : UInt32)
    (configure : Condition → Condition) : Outcome Monitor Bool :=
  match Condition.ofCode address size code with
  | .ok c => m.addCondition (configure c)
  | .error fault => ⟨false, m.record fault, Journal.note (.conditionRefused fault)⟩

/-- Removes the condition at an address; the value says whether there was one. -/
def removeCondition (m : Monitor) (address : UInt32) : Outcome Monitor Bool :=
  let removed := m.conditions.remove address
  ⟨removed.value, { m with conditions := removed.state }, removed.journal⟩

/-- Removes every condition. -/
def clearConditions (m : Monitor) : Outcome Monitor Unit :=
  let cleared := m.conditions.clear
  ⟨(), { m with conditions := cleared.state }, cleared.journal⟩

/-- Adds a callback of the conditions. -/
def addConditionCallback (m : Monitor) (callback : ConditionCallback) : Monitor :=
  { m with conditions := m.conditions.addCallback callback }

/-- The monitor after a check of its conditions; the commands the callbacks ask for wait. -/
def afterCheck (m : Monitor) (checked : Outcome ConditionSet Bool) : Outcome Monitor Bool :=
  ⟨checked.value, { m with conditions := checked.state }.enqueue checked.journal.commands,
    checked.journal⟩

/-- Checks a value of the caller against the condition at an address. -/
def checkAddress (m : Monitor) (address value : UInt32) : Outcome Monitor Bool :=
  settle (m.afterCheck (m.conditions.checkAddress address value))

/-- Checks the conditions at the addresses from `start` to `last` on their own operand. -/
def checkBetween (m : Monitor) (start last : UInt32) : Outcome Monitor Bool :=
  settle (m.afterCheck (m.conditions.checkBetween start last))

/-- Checks every condition on its own operand. -/
def checkAll (m : Monitor) : Outcome Monitor Bool :=
  settle (m.afterCheck m.conditions.checkAll)

/-! ## Ledger -/

/-- Replaces the ledger. -/
def withLedger (m : Monitor) (ledger : Ledger) : Monitor := { m with ledger }

/-! ## Memory as the rules of a game see it -/

/-- Reads a range; a fault is noted and counted, and answers zero. -/
def read (m : Monitor) (address size : UInt32) : Outcome Monitor UInt32 :=
  let ran := m.probe.read address size
  ⟨ran.value, m.withProbe ran.state, ran.journal⟩

/-- Whether rules may look at memory: the monitor is started and a game is loaded. -/
def bridged (m : Monitor) : Bool := m.active && m.game.isSome

/-- Reads one byte for the rules of the loaded game; without one there is nothing to see. -/
def peek (m : Monitor) (address : UInt32) : Outcome Monitor UInt8 :=
  if m.bridged then
    let ran := m.read address 1
    ⟨ran.value.toUInt8, ran.state, ran.journal⟩
  else ⟨0, m, {}⟩

/-- Reads one byte after the other; after the last address comes the first again. -/
def peekRun : UInt32 → Nat → Monitor → Outcome Monitor (List UInt8)
  | _, 0, m => ⟨[], m, {}⟩
  | address, count + 1, m =>
    let head := m.peek address
    let tail := peekRun (address + 1) count head.state
    ⟨head.value :: tail.value, tail.state, head.journal ++ tail.journal⟩

/-- Fills a buffer for the rules of the loaded game. The value is the number of bytes filled and the
buffer; without a game no byte is filled. -/
def peekBytes (m : Monitor) (address : UInt32) (buffer : List UInt8) :
    Outcome Monitor (Nat × List UInt8) :=
  if m.bridged then
    let ran := peekRun address buffer.length m
    ⟨(buffer.length, ran.value), ran.state, ran.journal⟩
  else ⟨(0, buffer), m, {}⟩

/-- The rules of the loaded game wrote a byte. Memory is not changed: the write is applied as an
access. -/
def pokeObserved (m : Monitor) (address : UInt32) (value : UInt8) : Outcome Monitor Unit :=
  if m.bridged then settle (m.observe ⟨address, 1, value.toUInt32, .write⟩) else ⟨(), m, {}⟩

end Monitor

end GuestWatch
