import GuestWatch.Proofs.Monitor.Announcements
import GuestWatch.Proofs.Monitor.Protection
import GuestWatch.Proofs.Monitor.Wiring

set_option relaxedAutoImplicit false
set_option autoImplicit false

/-!
# Hardcore mode, write protection and observers

Hardcore mode is switched at the start of the monitor, by its owner, and by commands that callbacks
ask for, observers of the mode among them. In all of these the mode, the write protection of the
memory and the calls of the observers go together: a switch that changes the mode switches the
protection and calls every observer once, and one that does not change it does nothing.

## Main definitions

* `GuestWatch.Toggles` — switches of a flag, each of which changes it.
* `GuestWatch.Hardcore.tellings` — what the observers are told, each once and in order.
* `GuestWatch.Monitor.Concerted` — between two states the mode, the protection and the observers went
  together.

## Main results

* `GuestWatch.Monitor.Path.concerted` — within an operation that settles they go together.
* `GuestWatch.Monitor.mode_step`, `GuestWatch.Monitor.mode_run` — so they do over operations and runs.
* `GuestWatch.Monitor.mode_agrees` — the mode agrees with the protection and with what was told.
-/

namespace GuestWatch

/-! ## Switches that alternate -/

/-- Switches of a flag, from the value it has first to the one it has last. Each changes it. -/
inductive Toggles : Bool → List Bool → Bool → Prop where
  /-- No switch. -/
  | nil (on : Bool) : Toggles on [] on
  /-- One more switch at the beginning. -/
  | cons {on after : Bool} {rest : List Bool} (h : Toggles (!on) rest after) :
      Toggles on ((!on) :: rest) after

namespace Toggles

variable {before mid after : Bool} {first second switches : List Bool}

/-- Switches may go on. -/
lemma append (h : Toggles before first mid) (h' : Toggles mid second after) :
    Toggles before (first ++ second) after := by
  induction h with
  | nil on => exact h'
  | cons head ih => exact cons (ih h')

/-- A switch to another value. -/
lemma single (h : before ≠ after) : Toggles before [after] after := by
  have hnot : after = !before := by
    cases before <;> cases after <;> first | rfl | exact absurd rfl h
  rw [hnot]
  exact cons (nil _)

/-- Every second switch is to the value that the flag had first. -/
lemma eq_map (h : Toggles before switches after) :
    switches = (List.range switches.length).map fun k => (k % 2 == 0) ^^ before := by
  induction h with
  | nil on => rfl
  | cons h ih =>
    rename_i on after rest
    rw [List.length_cons, List.range_succ_eq_map, List.map_cons, List.map_map]
    refine congrArg₂ List.cons (by cases on <;> rfl) (ih.trans (List.map_congr_left fun k _ => ?_))
    -- one switch further on, the parity is the other one
    simp only [Function.comp_apply]
    rcases Nat.mod_two_eq_zero_or_one k with heven | hodd
    · have hnext : (k + 1) % 2 = 1 := by omega
      rw [heven, Nat.succ_eq_add_one, hnext]
      cases on <;> rfl
    · have hnext : (k + 1) % 2 = 0 := by omega
      rw [hodd, Nat.succ_eq_add_one, hnext]
      cases on <;> rfl

end Toggles

/-! ## Observers -/

/-- What the observers are told: each once, in the order of registration. -/
def Hardcore.tellings (h : Hardcore) (on : Bool) : List (String × Bool) :=
  h.observers.map fun c => (c.name, on)

/-- Hardcore mode with the same observers by name tells the same. -/
lemma Hardcore.tellings_congr {h h' : Hardcore}
    (hnames : h'.observers.map Callback.name = h.observers.map Callback.name) :
    h'.tellings = h.tellings := by
  funext on
  have hmap := congrArg (List.map fun name => (name, on)) hnames
  rwa [List.map_map, List.map_map] at hmap

/-- Telling observers calls each of them once, in order, and they keep their names. -/
lemma Callback.tellAll_mode (on : Bool) (observers : List (Callback Bool)) :
    (tellAll Event.mode on observers).journal.modes = observers.map (fun c => (c.name, on)) ∧
      (tellAll Event.mode on observers).journal.notes = [] ∧
      (tellAll Event.mode on observers).state.map Callback.name = observers.map Callback.name := by
  induction observers with
  | nil => exact ⟨rfl, rfl, rfl⟩
  | cons c rest ih =>
    obtain ⟨hmodes, hnotes, hnames⟩ := ih
    refine ⟨?_, ?_, ?_⟩
    · rw [tellAll, Journal.modes_append, hmodes]
      rfl
    · rw [tellAll, Journal.notes_append, hnotes]
      rfl
    · rw [tellAll, List.map_cons, List.map_cons, hnames]
      rfl

namespace Monitor

/-! ## Moves -/

/-- From one state to another the mode changed by switches that alternate, the write protection
followed it, and the observers were told all that was announced, each of them once. -/
structure Concerted (m : Monitor) (j : Journal) (m' : Monitor) : Prop where
  /-- The switches of the mode. -/
  toggles : Toggles m.hardcore.enabled j.switches m'.hardcore.enabled
  /-- The write protection follows the mode. -/
  protection : m.ram.protection = m.hardcore.enabled → m'.ram.protection = m'.hardcore.enabled
  /-- Each announcement is told to each observer. -/
  told : j.modes = j.announced.flatMap m.hardcore.tellings
  /-- The observers are the same ones. -/
  tellings : m'.hardcore.tellings = m.hardcore.tellings

lemma Concerted.trans {m m' m'' : Monitor} {j j' : Journal} (h : Concerted m j m')
    (h' : Concerted m' j' m'') : Concerted m (j ++ j') m'' := by
  refine ⟨?_, fun hagree => h'.protection (h.protection hagree), ?_, h'.tellings.trans h.tellings⟩
  · rw [Journal.switches_append]
    exact h.toggles.append h'.toggles
  · rw [Journal.modes_append, Journal.announced_append, List.flatMap_append, h.told, h'.told,
      h.tellings]

/-- What announces nothing and leaves hardcore mode and the write protection alone. -/
lemma Concerted.of_modeless {m m' : Monitor} {j : Journal} (hj : j.Modeless)
    (hhardcore : m'.hardcore = m.hardcore) (hprotection : m'.ram.protection = m.ram.protection) :
    Concerted m j m' := by
  refine ⟨?_, fun hagree => ?_, ?_, ?_⟩
  · rw [hj.switches, hhardcore]
    exact Toggles.nil _
  · rw [hprotection, hhardcore, hagree]
  · rw [hj.modes, hj.announced]
    rfl
  · rw [hhardcore]

/-- A switch to the mode that is set already does nothing. -/
lemma switchHardcore_of_eq {m : Monitor} {on : Bool} (h : m.hardcore.enabled = on) :
    m.switchHardcore on = ⟨false, m, {}⟩ := by
  simp only [switchHardcore, Hardcore.setEnabled, h, if_true, enqueue, List.append_nil]

/-- What a switch that changes the mode does. -/
structure Switched (m : Monitor) (on : Bool) (outcome : Outcome Monitor Bool) : Prop where
  /-- It says that the mode changed. -/
  value : outcome.value = true
  /-- The mode is the new one. -/
  enabled : outcome.state.hardcore.enabled = on
  /-- So is the write protection. -/
  protection : outcome.state.ram.protection = on
  /-- One switch is noted. -/
  switches : outcome.journal.switches = [on]
  /-- It is announced. -/
  announced : outcome.journal.announced = [on]
  /-- Each observer is told the new mode, once and in order. -/
  modes : outcome.journal.modes = m.hardcore.tellings on
  /-- The observers are the same ones. -/
  tellings : outcome.state.hardcore.tellings = m.hardcore.tellings

/-- A switch to the other mode changes it, and the write protection and the observers follow. -/
lemma switched_of_ne {m : Monitor} {on : Bool} (h : m.hardcore.enabled ≠ on) :
    Switched m on (m.switchHardcore on) := by
  obtain ⟨hmodes, hnotes, hnames⟩ := Callback.tellAll_mode on m.hardcore.observers
  have hjournal : (m.switchHardcore on).journal = Journal.note (.hardcoreSwitched on) ++
      (Callback.tellAll Event.mode on m.hardcore.observers).journal := by
    simp only [switchHardcore, Hardcore.setEnabled, h, if_false, Hardcore.tellObservers]
  have hstate : (m.switchHardcore on).state.hardcore = { m.hardcore with
      guard := { m.hardcore.guard with enabled := on }
      observers := (Callback.tellAll Event.mode on m.hardcore.observers).state } := by
    simp only [switchHardcore, Hardcore.setEnabled, h, if_false, Hardcore.tellObservers, enqueue]
  refine ⟨?_, ?_, ?_, ?_, ?_, ?_, ?_⟩
  · simp only [switchHardcore, Hardcore.setEnabled, h, if_false]
  · rw [hstate]
    rfl
  · simp only [switchHardcore, Hardcore.setEnabled, h, if_false, enqueue]
    rfl
  · rw [hjournal, Journal.switches, Journal.notes_append, hnotes]
    rfl
  · rw [hjournal, Journal.announced, Journal.notes_append, hnotes]
    rfl
  · rw [hjournal, Journal.modes_append, hmodes]
    rfl
  · rw [hstate]
    exact Hardcore.tellings_congr hnames

lemma concerted_switchHardcore (m : Monitor) (on : Bool) :
    Concerted m (m.switchHardcore on).journal (m.switchHardcore on).state := by
  by_cases h : m.hardcore.enabled = on
  · rw [switchHardcore_of_eq h]
    exact Concerted.of_modeless Journal.Modeless.empty rfl rfl
  · have hswitched := switched_of_ne h
    refine ⟨?_, fun _ => ?_, ?_, hswitched.tellings⟩
    · rw [hswitched.switches, hswitched.enabled]
      exact Toggles.single h
    · rw [hswitched.protection, hswitched.enabled]
    · rw [hswitched.modes, hswitched.announced, List.flatMap_singleton]

/-- The end of a session is announced like a switch to the mode off, which it is not. -/
lemma concerted_endSession (m : Monitor) :
    Concerted m m.endSession.journal m.endSession.state := by
  obtain ⟨hmodes, hnotes, hnames⟩ := Callback.tellAll_mode false m.hardcore.observers
  have hunload := (plain_unloadGame ({ m with hardcore := m.hardcore.disableAchievements.state
    }.enqueue m.hardcore.disableAchievements.journal.commands)).modeless
  have hjournal : m.endSession.journal = (Journal.note .achievementsDisabled ++
      (Callback.tellAll Event.mode false m.hardcore.observers).journal) ++
      ({ m with hardcore := m.hardcore.disableAchievements.state }.enqueue
        m.hardcore.disableAchievements.journal.commands).unloadGame.journal := rfl
  have hannounced : m.endSession.journal.announced = [false] := by
    rw [hjournal, Journal.announced_append, hunload.announced, Journal.announced,
      Journal.notes_append, hnotes]
    rfl
  have hstate : m.endSession.state.hardcore = m.hardcore.disableAchievements.state :=
    hardcore_unloadGame _
  refine ⟨?_, fun hagree => ?_, ?_, ?_⟩
  · have hswitches : m.endSession.journal.switches = [] := by
      rw [hjournal, Journal.switches_append, hunload.switches, Journal.switches,
        Journal.notes_append, hnotes]
      rfl
    rw [hswitches, hstate]
    exact Toggles.nil _
  · rw [hstate, ram_endSession, hagree]
    rfl
  · rw [hannounced, hjournal, Journal.modes_append, hunload.modes, Journal.modes_append, hmodes,
      List.flatMap_singleton, List.append_nil]
    rfl
  · rw [hstate]
    exact Hardcore.tellings_congr hnames

lemma concerted_carryOut (m : Monitor) (command : Command) :
    Concerted m (m.carryOut command).journal (m.carryOut command).state := by
  cases command with
  | setHardcore on => exact concerted_switchHardcore m on
  | disableAchievements => exact concerted_endSession m
  | unloadGame =>
    exact Concerted.of_modeless (plain_unloadGame m).modeless (hardcore_unloadGame m)
      (congrArg Ram.protection (ram_unloadGame m))
  | clearRegions =>
    have hcleared : (Journal.note .regionsCleared).Modeless := Journal.Modeless.note rfl
    refine ⟨?_, fun hagree => hagree, hcleared.modes.trans (by rfl), rfl⟩
    exact hcleared.switches ▸ Toggles.nil _
  | clearConditions => exact Concerted.of_modeless (Journal.Modeless.note rfl) rfl rfl
  | _ => exact Concerted.of_modeless Journal.Modeless.empty rfl rfl

/-- A move within an operation that settles is concerted: the mode is switched by switches and by
commands, and nothing else announces anything. -/
lemma Move.concerted {op : MonitorOp} {m m' : Monitor} {j : Journal} (h : Move op m j m')
    (hsettles : op.settles = true) : Concerted m j m' := by
  cases h with
  | carried h =>
    rename_i command rest
    have hnoted : Concerted m (Journal.note (.commandApplied command))
        { m with followUps := rest } :=
      Concerted.of_modeless (Journal.Modeless.note rfl) rfl rfl
    exact hnoted.trans (concerted_carryOut { m with followUps := rest } command)
  | notified address size =>
    exact Concerted.of_modeless (modeless_notify m address size) rfl
      (recounted_notify m address size).protection_eq
  | tracked access =>
    exact Concerted.of_modeless (WatchList.plain_track m.ledger access).modeless rfl rfl
  | polled =>
    exact Concerted.of_modeless (modeless_poll m) rfl (recounted_poll m).protection_eq
  | installed =>
    obtain ⟨reads, writes, installed, hstate⟩ := m.installIntercepts_frame
    rw [hstate]
    exact Concerted.of_modeless (plain_installIntercepts m).modeless rfl rfl
  | taken => exact Concerted.of_modeless Journal.Modeless.empty rfl rfl
  | checked selects observed =>
    exact Concerted.of_modeless (modeless_afterCheck m selects observed) rfl rfl
  | switched on => exact concerted_switchHardcore m on
  | ended => exact concerted_endSession m
  | started => exact Concerted.of_modeless (Journal.Modeless.note rfl) rfl rfl
  | direct h =>
    rw [hsettles] at h
    cases h

/-- **Within an operation that settles** the mode, the write protection and the observers go
together, however deep the commands of the observers lead. -/
theorem Path.concerted {op : MonitorOp} {m m' : Monitor} {j : Journal} (h : Path op m j m')
    (hsettles : op.settles = true) : Concerted m j m' := by
  induction h with
  | refl m => exact Concerted.of_modeless Journal.Modeless.empty rfl rfl
  | cons head tail ih => exact (head.concerted hsettles).trans ih

/-! ## Operations and runs -/

/-- An operation that does not settle leaves the mode as it is. -/
lemma enabled_step (m : Monitor) {op : MonitorOp} (hsettles : op.settles = false) :
    (m.step op).state.hardcore.enabled = m.hardcore.enabled := by
  by_cases hgoverns : op.governs = false
  · rw [hardcore_step m hsettles hgoverns]
  cases op with
  | addRegion r =>
    have hstep : m.step (.addRegion r) = answer .flag (m.addRegion r) := rfl
    cases hadd : m.hardcore.guard.add r with
    | error fault =>
      rw [hstep, addRegion_of_error hadd]
      rfl
    | ok added =>
      rw [hstep, addRegion_of_ok hadd]
      exact (Guard.add_cases hadd).2.1
  | addObserver observer => rfl
  | clearRegions => rfl
  | resetAchievements => rfl
  | _ => exact absurd rfl hgoverns

/-- An operation on the memory that does not switch the write protection leaves it as it is. -/
lemma protection_ramStep (ram : Ram) {op : MemoryOp} (hop : ∀ on, op ≠ .setProtection on) :
    (ram.step op).ram.protection = ram.protection := by
  have hread : ∀ (address : UInt32) (count : Nat),
      (ram.readReply address count).ram.protection = ram.protection := by
    intro address count
    rw [(ram.readReply_counts address count).1]
    rfl
  cases op with
  | setProtection on => exact absurd rfl (hop on)
  | loadWord address =>
    rcases Ram.rawRead_cases address 4 ram with ⟨bytes, -, hraw⟩ | ⟨e, -, hraw⟩ <;>
      simp only [Ram.step, Ram.loadWord, hraw, Ram.countRead]
  | failAt address =>
    simp only [Ram.step, Ram.failAt]
    split <;> rfl
  | readByte address => exact hread address 1
  | readHalf address => exact hread address 2
  | readWord address => exact hread address 4
  | installHook kind start size priority hook => cases kind <;> rfl
  | _ => rfl

/-- An operation that does not settle leaves the write protection as it is, unless it is the host that
switches it. -/
lemma protection_step (m : Monitor) {op : MonitorOp} (hsettles : op.settles = false)
    (hop : ∀ on, op ≠ .memory (.setProtection on)) :
    (m.step op).state.ram.protection = m.ram.protection := by
  by_cases hdisturbs : op.disturbs = false
  · exact (recounted_step m hdisturbs).protection_eq
  cases op with
  | shutdown =>
    simp only [step, answerDone, answer, shutdown, removeIntercepts]
    split
    · split <;> rfl
    · rfl
  | checkMemory =>
    obtain ⟨checked, hstate⟩ := checkMemory_frame m
    rw [hstate]
  | checkSystem =>
    obtain ⟨checked, hstate⟩ := checkSystem_frame m
    rw [hstate]
  | memory op =>
    have hram : (m.step (.memory op)).state.ram = (m.ram.step op).ram := ram_memoryStep m op
    rw [hram]
    exact protection_ramStep m.ram fun on hsame => hop on (hsame ▸ rfl)
  | _ => first | exact absurd rfl hdisturbs | cases hsettles

/-- **Over an operation** the mode changes by switches that alternate, each announcement is told to
each observer once, and the write protection follows the mode, unless the host switches it. -/
theorem mode_step (m : Monitor) (op : MonitorOp) :
    Toggles m.hardcore.enabled (m.step op).journal.switches
        (m.step op).state.hardcore.enabled ∧
      (m.step op).journal.modes = (m.step op).journal.announced.flatMap m.hardcore.tellings ∧
      ((∀ on, op ≠ .memory (.setProtection on)) → m.ram.protection = m.hardcore.enabled →
        (m.step op).state.ram.protection = (m.step op).state.hardcore.enabled) := by
  by_cases hsettles : op.settles = true
  · have hconcerted := (path_step m op).concerted hsettles
    exact ⟨hconcerted.toggles, hconcerted.told, fun _ => hconcerted.protection⟩
  · rw [Bool.not_eq_true] at hsettles
    have hmodeless := (plain_step m hsettles).modeless
    have henabled := enabled_step m hsettles
    refine ⟨?_, ?_, fun hop hagree => ?_⟩
    · rw [hmodeless.switches, henabled]
      exact Toggles.nil _
    · rw [hmodeless.modes, hmodeless.announced]
      rfl
    · rw [protection_step m hsettles hop, henabled, hagree]

/-- **Over a run** in which the host does not switch the write protection, it follows the mode, and
the mode changes by switches that alternate. -/
theorem mode_run {m : Monitor} (hagree : m.ram.protection = m.hardcore.enabled)
    {ops : List MonitorOp} (hops : ∀ on, .memory (.setProtection on) ∉ ops) :
    (run ops m).state.ram.protection = (run ops m).state.hardcore.enabled ∧
      Toggles m.hardcore.enabled (run ops m).journal.switches
        (run ops m).state.hardcore.enabled := by
  induction ops generalizing m with
  | nil => exact ⟨hagree, Toggles.nil _⟩
  | cons op rest ih =>
    obtain ⟨htoggles, -, hprotection⟩ := mode_step m op
    have hhead : ∀ on, op ≠ .memory (.setProtection on) := by
      intro on hsame
      exact hops on (hsame ▸ List.mem_cons_self)
    obtain ⟨hend, hrest⟩ := ih (hprotection hhead hagree) fun on hmem =>
      hops on (List.mem_cons_of_mem op hmem)
    refine ⟨hend, ?_⟩
    rw [run, Journal.switches_append]
    exact htoggles.append hrest

/-- Switching hardcore mode says whether the mode was another one, whatever is carried out after the
switch. -/
lemma value_setHardcore (m : Monitor) (on : Bool) :
    (m.setHardcore on).value = (m.hardcore.enabled != on) := by
  show (m.switchHardcore on).value = _
  by_cases h : m.hardcore.enabled = on
  · rw [switchHardcore_of_eq h, h, bne_self_eq_false]
  · rw [(switched_of_ne h).value, bne_iff_ne.mpr h]

/-- **The mode agrees with the write protection and with what observers were told.** After any run of
a new monitor, unless the host switches the protection itself, the protection is on exactly in
hardcore mode; the switches that changed the mode alternate, the first one to on, and end at the mode
as it is. In every operation each announcement, that of a switch among them, is told to every
observer once, in the order of registration, however deep in the commands that observers ask for. A
switch to the other mode changes the mode and the protection and tells it; a switch to the mode that
is set already does nothing at all. The answer of a switch tells the two cases apart, even if
commands switch the mode back before the operation returns.

**Proof sketch.** Each move of an operation is concerted: switches and commands keep the three
together, and nothing else announces anything. From there by induction on the moves and on the
run. -/
theorem mode_agrees (options : Options) (now : UInt64) {ops : List MonitorOp}
    (hops : ∀ on, .memory (.setProtection on) ∉ ops) :
    let ran := run ops (make options now)
    ran.state.ram.protection = ran.state.hardcore.enabled ∧
    Toggles false ran.journal.switches ran.state.hardcore.enabled ∧
    ran.journal.switches = (List.range ran.journal.switches.length).map (fun k => k % 2 == 0) ∧
    (∀ (m : Monitor) (op : MonitorOp),
      (m.step op).journal.modes = (m.step op).journal.announced.flatMap m.hardcore.tellings) ∧
    (∀ (m : Monitor) (on : Bool), m.hardcore.enabled ≠ on →
      Switched m on (m.switchHardcore on)) ∧
    (∀ (m : Monitor) (on : Bool), m.hardcore.enabled = on →
      m.switchHardcore on = ⟨false, m, {}⟩ ∧ m.carryOut (.setHardcore on) = ⟨(), m, {}⟩ ∧
        (Reachable m → m.setHardcore on = ⟨false, m, {}⟩)) ∧
    ∀ (m : Monitor) (on : Bool), (m.setHardcore on).value = (m.hardcore.enabled != on) := by
  intro ran
  obtain ⟨hprotection, halternates⟩ := @mode_run (make options now) rfl ops hops
  have htoggles : Toggles false ran.journal.switches ran.state.hardcore.enabled := halternates
  refine ⟨hprotection, htoggles, ?_, fun m op => (mode_step m op).2.1,
    fun m on h => switched_of_ne h, fun m on h => ?_, value_setHardcore⟩
  · have hmap := htoggles.eq_map
    simp only [Bool.xor_false] at hmap
    exact hmap
  · have hsame := switchHardcore_of_eq h
    refine ⟨hsame, ?_, fun hreach => ?_⟩
    · simp only [carryOut, hsame]
    · rw [setHardcore, hsame]
      exact settle_of_nil hreach.followUps_eq_nil

/-- An observer that wants hardcore mode off is registered, and the mode is switched on. -/
def contest : List MonitorOp :=
  [.addObserver (Callback.script "contrary" [.setHardcore false] 1 id), .setHardcore true]

/-- In the run `contest` the mode is switched on and off again in one operation, which answers that it
changed the mode; the observer is told both. -/
theorem mode_agrees_contest :
    (run contest (make {} 0)).journal.switches = [true, false] ∧
      (run contest (make {} 0)).journal.modes = [("contrary", true), ("contrary", false)] ∧
      (run contest (make {} 0)).state.hardcore.enabled = false ∧
      (run contest (make {} 0)).state.ram.protection = false ∧
      (contrary.setHardcore true).value = true := by
  have hops : ∀ on, .memory (.setProtection on) ∉ contest := by
    intro on hmem
    simp [contest] at hmem
  have hfirst : (contrary.switchHardcore true).state.followUps = [.setHardcore false] := rfl
  have hset : contrary.setHardcore true = ⟨true,
      ({ (contrary.switchHardcore true).state with followUps := [] }.carryOut
        (.setHardcore false)).state,
      (contrary.switchHardcore true).journal ++
        (Journal.note (.commandApplied (.setHardcore false)) ++
          ({ (contrary.switchHardcore true).state with followUps := [] }.carryOut
            (.setHardcore false)).journal)⟩ := by
    simp only [setHardcore, settle, drain_of_cons hfirst]
    rw [drain_of_nil (by rfl), Journal.append_empty]
    rfl
  have henabled : (run contest (make {} 0)).state.hardcore.enabled = false := by
    show (contrary.setHardcore true).state.hardcore.enabled = false
    rw [hset]
    rfl
  obtain ⟨hprotection, -, -, -, -, -, hvalue⟩ := mode_agrees {} 0 hops
  refine ⟨?_, ?_, henabled, hprotection.trans henabled, hvalue contrary true⟩
  · show ({} ++ ((contrary.setHardcore true).journal ++ {}) : Journal).switches = _
    rw [hset]
    rfl
  · show ({} ++ ((contrary.setHardcore true).journal ++ {}) : Journal).modes = _
    rw [hset]
    rfl

end Monitor

end GuestWatch
