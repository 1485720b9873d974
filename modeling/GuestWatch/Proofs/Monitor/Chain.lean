import GuestWatch.Proofs.Monitor.Watches
import GuestWatch.Proofs.Watch.Chain

set_option relaxedAutoImplicit false
set_option autoImplicit false

/-!
# The changes of a watch over a run

From its addition on until a watch is added at its address again, a watch reports a chain of
changes, however writes, polls and changes of memory take turns. After it ended it reports nothing.

## Main definitions

* `GuestWatch.Monitor.leaves` — a run in which no watch is added at an address.
* `GuestWatch.Monitor.Unwatched` — no active watch is at an address.

## Main results

* `GuestWatch.Monitor.stays_step` — what an operation makes of a watch.
* `GuestWatch.Monitor.change_chain` — what a watch reports over a run.
-/

namespace GuestWatch

open Journal Watch

namespace Monitor

/-- Whether an operation adds a watch at an address. -/
def adds (m : Monitor) (address : UInt32) : MonitorOp → Bool
  | .addWatch place size callback => place == address && (m.addWatch place size callback).value
  | _ => false

/-- Whether no operation of a run adds a watch at an address. -/
def leaves (address : UInt32) : List MonitorOp → Monitor → Bool
  | [], _ => true
  | op :: rest, m => !m.adds address op && leaves address rest (m.step op).state

lemma leaves_cons {address : UInt32} {op : MonitorOp} {rest : List MonitorOp} {m : Monitor} :
    leaves address (op :: rest) m = true ↔
      m.adds address op = false ∧ leaves address rest (m.step op).state = true := by
  simp only [leaves, Bool.and_eq_true, Bool.not_eq_true']

/-- A run goes on after its first part. -/
lemma leaves_append {address : UInt32} {early late : List MonitorOp} {m : Monitor} :
    leaves address (early ++ late) m = true ↔
      leaves address early m = true ∧ leaves address late (run early m).state = true := by
  induction early generalizing m with
  | nil => simp only [List.nil_append, leaves, run, true_and]
  | cons op rest ih =>
    rw [List.cons_append, leaves_cons, leaves_cons, ih, and_assoc]
    rfl

/-! ## One operation -/

/-- **What an operation makes of a watch** that is alone at its address: unless a watch is added
there, it is left alone or read again, what is reported at its address comes of that, and it stays
alone. -/
theorem stays_step {m : Monitor} (h : Reachable m) {w : Watch} (hsole : w.Sole m.watches.watches)
    {op : MonitorOp} (hadds : m.adds w.address op = false) :
    ∃ w', w.Stays m.ram.look (changesAt w.address (m.step op).journal.changes)
        (endingsAt w.address (m.step op).journal.endings) w' ∧
      w'.Sole (m.step op).state.watches.watches := by
  by_cases hnew : ∀ address size callback, op ≠ .addWatch address size callback
  · exact (course_step m hnew).stays h.distinct hsole
  · push Not at hnew
    obtain ⟨address, size, callback, rfl⟩ := hnew
    have hquiet : (m.step (.addWatch address size callback)).journal.Quiet := quiet_step m rfl
    rw [hquiet.changes, hquiet.endings]
    refine ⟨w, Stays.untouched, ?_⟩
    rcases addWatch_cases m address size callback with ⟨hadded, value, -, hplaced⟩ | ⟨-, hsame⟩
    · have hother : address ≠ w.address := by
        simpa only [adds, hadded, Bool.and_true, beq_eq_false_iff_ne] using hadds
      intro v hv haddress
      simp only [step, answer, hplaced] at hv
      rcases WatchList.mem_of_mem_place hv with heq | hold
      · rw [heq] at haddress
        exact absurd haddress hother
      · exact hsole v hold haddress
    · simp only [step, answer, hsame]
      exact hsole

/-! ## Runs -/

/-- Over a run a watch goes through a chain of changes, and what is reported at its address is what
its callback is told of them. -/
lemma tells_run {m : Monitor} (h : Reachable m) {w : Watch} (hsole : w.Sole m.watches.watches)
    {ops : List MonitorOp} (hleaves : leaves w.address ops m = true) :
    ∃ changes w', Tells w changes w' ∧
      changesAt w.address (run ops m).journal.changes = tellings w.callback changes ∧
      w'.Sole (run ops m).state.watches.watches := by
  induction ops generalizing m w with
  | nil => exact ⟨[], w, Tells.refl w, (tellings_nil _).symm, hsole⟩
  | cons op rest ih =>
    obtain ⟨hadds, hrest⟩ := leaves_cons.mp hleaves
    obtain ⟨w', hstays, hsole'⟩ := stays_step h hsole hadds
    obtain ⟨changes, htold, htells⟩ := hstays.tells
    rw [← htells.address_eq] at hrest
    obtain ⟨changes', w'', htells', htold', hsole''⟩ := ih (h.step op) hsole' hrest
    refine ⟨changes ++ changes', w'', htells.trans htells', ?_, hsole''⟩
    rw [htells.address_eq, htells.callback_eq] at htold'
    rw [tellings_append, ← htold, ← htold', ← changesAt_append, ← changes_append]
    rfl

/-- No active watch is at an address. -/
def Unwatched (m : Monitor) (address : UInt32) : Prop :=
  ∀ w ∈ m.watches.watches, w.address = address → w.active = false

/-- At every address some watch is alone: the one that is there, or one that is not in the list and
not active. -/
lemma Reachable.exists_sole {m : Monitor} (h : Reachable m) (address : UInt32) :
    ∃ w : Watch, w.address = address ∧ w.Sole m.watches.watches ∧
      (w ∈ m.watches.watches ∨ w.active = false) := by
  by_cases hthere : ∃ w ∈ m.watches.watches, w.address = address
  · obtain ⟨w, hmem, haddress⟩ := hthere
    exact ⟨w, haddress, sole_of_mem h.distinct hmem, Or.inl hmem⟩
  · push Not at hthere
    exact ⟨⟨address, 0, 0, false, none⟩, rfl, fun v hv hsame => absurd hsame (hthere v hv),
      Or.inr rfl⟩

/-- An address at which a watch that is not active is alone is unwatched. -/
lemma unwatched_of_sole {m : Monitor} {w : Watch} (hsole : w.Sole m.watches.watches)
    (hinactive : w.active = false) : m.Unwatched w.address :=
  fun v hv haddress => (hsole v hv haddress).symm ▸ hinactive

/-- Over a run nothing is reported at an address, and no active watch is there in the end. -/
structure Silent (address : UInt32) (ops : List MonitorOp) (m : Monitor) : Prop where
  /-- Nothing is reported at the address. -/
  changes : changesAt address (run ops m).journal.changes = []
  /-- No active watch is at the address in the end. -/
  unwatched : (run ops m).state.Unwatched address

/-- An operation that reports nothing, and a silent run after it. -/
lemma Silent.cons {m : Monitor} {address : UInt32} {op : MonitorOp} {rest : List MonitorOp}
    (hnone : changesAt address (m.step op).journal.changes = [])
    (h : Silent address rest (m.step op).state) : Silent address (op :: rest) m := by
  refine ⟨?_, h.unwatched⟩
  rw [run, changes_append, changesAt_append, hnone, h.changes, List.append_nil]

/-- From an unwatched address nothing is reported until a watch is added there. -/
lemma silent_of_unwatched {m : Monitor} (h : Reachable m) {address : UInt32}
    (hunwatched : m.Unwatched address) {ops : List MonitorOp}
    (hleaves : leaves address ops m = true) : Silent address ops m := by
  induction ops generalizing m with
  | nil => exact ⟨rfl, hunwatched⟩
  | cons op rest ih =>
    obtain ⟨w, rfl, hsole, hthere⟩ := h.exists_sole address
    have hinactive : w.active = false := hthere.elim (fun hmem => hunwatched w hmem rfl) id
    obtain ⟨hadds, hrest⟩ := leaves_cons.mp hleaves
    obtain ⟨w', hstays, hsole'⟩ := stays_step h hsole hadds
    obtain ⟨hnone, rfl⟩ := hstays.of_inactive hinactive
    exact Silent.cons hnone (ih (h.step op) (unwatched_of_sole hsole' hinactive) hrest)

/-- From an operation on in which a watch ends nothing is reported at its address, until a watch is
added there. -/
lemma silent_of_ending {m : Monitor} (h : Reachable m) {address : UInt32} {op : MonitorOp}
    {rest : List MonitorOp} (hleaves : leaves address (op :: rest) m = true) {fault : Fault}
    (hends : (address, fault) ∈ (m.step op).journal.endings) : Silent address (op :: rest) m := by
  obtain ⟨w, rfl, hsole, -⟩ := h.exists_sole address
  obtain ⟨hadds, hrest⟩ := leaves_cons.mp hleaves
  obtain ⟨w', hstays, hsole'⟩ := stays_step h hsole hadds
  have hat : endingsAt w.address (m.step op).journal.endings ≠ [] :=
    List.ne_nil_of_mem (List.mem_filter.mpr ⟨hends, beq_self_eq_true _⟩)
  obtain ⟨hnone, hinactive⟩ := hstays.of_ending hat
  refine Silent.cons hnone (silent_of_unwatched (h.step op) ?_ hrest)
  rw [← hstays.address_eq]
  exact unwatched_of_sole hsole' hinactive

/-- **The changes of a watch form a chain.** From the addition of a watch on, over any run in which
no watch is added at its address:

* what is reported at its address is what its callback is told of a chain of changes, which starts
  at the value read when it was added, and as long as the watch is there it remembers the value to
  which the chain led;
* once no active watch is at the address, nothing is reported there any more, and none comes back;
* from the operation on in which the watch ends, that one included, nothing is reported there.

**Proof sketch.** In one operation memory stays as it is, so the watch is read again once or not at
all, which adds one change to the chain or none. A watch that ends in an operation has not been read
with success in it, so it has no change to report. -/
theorem change_chain {m start : Monitor} (hreach : Reachable m) {address size : UInt32}
    {callback : Option (Callback Change)} {j : Journal}
    (hadded : m.addWatch address size callback = ⟨true, start, j⟩) {ops : List MonitorOp}
    (hleaves : leaves address ops start = true) :
    ∃ seed, m.ram.look address size = .ok seed ∧
      { address, size, lastValue := seed, callback } ∈ start.watches.watches ∧
      (∃ changes last, Chain address size seed changes last ∧
        changesAt address (run ops start).journal.changes = tellings callback changes ∧
        ∀ w ∈ (run ops start).state.watches.watches, w.address = address →
          w.size = size ∧ w.lastValue = last ∧ w.callback = heard callback changes) ∧
      (∀ early late, ops = early ++ late → (run early start).state.Unwatched address →
        Silent address late (run early start).state) ∧
      (∀ early op late fault, ops = early ++ op :: late →
        (address, fault) ∈ ((run early start).state.step op).journal.endings →
          Silent address (op :: late) (run early start).state) := by
  have hstart : Reachable start := by
    have hnext := hreach.step (.addWatch address size callback)
    simpa only [step, answer, hadded] using hnext
  -- what is left of a run after its first part is a run from a reachable state
  have hlate : ∀ early late, ops = early ++ late →
      Reachable (run early start).state ∧ leaves address late (run early start).state = true := by
    rintro early late rfl
    exact ⟨hstart.run early, (leaves_append.mp hleaves).2⟩
  rcases addWatch_cases m address size callback with ⟨-, seed, hlook, hplaced⟩ | ⟨hfailed, -⟩
  · rw [hadded] at hplaced
    have hmem := hplaced ▸ WatchList.mem_place_self _ m.watches.watches
    refine ⟨seed, hlook, hmem, ?_, ?_, ?_⟩
    · have hsole := sole_of_mem hstart.distinct hmem
      obtain ⟨changes, w', htells, htold, hsole'⟩ := tells_run hstart hsole hleaves
      refine ⟨changes, w'.lastValue, htells.chain, htold, fun w hw haddress => ?_⟩
      obtain rfl := hsole' w hw (haddress.trans htells.address_eq.symm)
      exact ⟨htells.size_eq, rfl, htells.callback_eq⟩
    · intro early late hsplit hunwatched
      obtain ⟨hmid, hleft⟩ := hlate early late hsplit
      exact silent_of_unwatched hmid hunwatched hleft
    · intro early op late fault hsplit hends
      obtain ⟨hmid, hleft⟩ := hlate early (op :: late) hsplit
      exact silent_of_ending hmid hleft hends
  · rw [hadded] at hfailed
    cases hfailed

/-- A started monitor over empty memory, with a watch whose callback asks for nothing. -/
def recording : Outcome Monitor Bool :=
  (make {} 0).start.state.addWatch 0x1000 4 (some (Callback.script "recorder" [] 0 fun _ => false))

/-- Memory changes and is noticed by a write notice and by a frame; then reads fail for a frame. -/
def unrest : List MonitorOp :=
  [.memory (.setWord 0x1000 7), .writeObserved 0x1000 4, .memory (.setWord 0x1000 9), .frame,
    .memory (.failAt 0x1000), .frame, .memory .clearFailures, .memory (.setWord 0x1000 11), .frame]

/-- Through all this the callback of the watch is told two changes, from zero to seven and on to nine.
In the frame in which the reads fail the watch ends, and from then on nothing is reported, although
its memory can be read again and holds another value. -/
theorem change_chain_unrest :
    Reachable (make {} 0).start.state ∧ recording.value = true ∧
      leaves 0x1000 unrest recording.state = true ∧
      Chain 0x1000 4 0 [⟨0x1000, 4, 0, 7⟩, ⟨0x1000, 4, 7, 9⟩] 9 ∧
      changesAt 0x1000 (run unrest recording.state).journal.changes =
        [("recorder", ⟨0x1000, 4, 0, 7⟩), ("recorder", ⟨0x1000, 4, 7, 9⟩)] ∧
      ((run (unrest.take 5) recording.state).state.step .frame).journal.endings =
        [(0x1000, .readFailure 0x1000 4 (.deviceFault 0x1000))] ∧
      Silent 0x1000 (unrest.drop 5) (run (unrest.take 5) recording.state).state := by
  have hreach : Reachable (make {} 0).start.state := (Reachable.make {} 0).step .start
  have hadded : recording = ⟨true, recording.state, recording.journal⟩ := rfl
  have hleaves : leaves 0x1000 unrest recording.state = true := rfl
  -- nobody asks for a command, so the notice and the frames leave none to carry out
  have hreports : changesAt 0x1000 (run unrest recording.state).journal.changes =
      [("recorder", ⟨0x1000, 4, 0, 7⟩), ("recorder", ⟨0x1000, 4, 7, 9⟩)] := by
    simp only [unrest, run, step, answer]
    rw [writeObserved_of_unasked, frame_of_unasked, frame_of_unasked, frame_of_unasked] <;> rfl
  have hends : ((run (unrest.take 5) recording.state).state.step .frame).journal.endings =
      [(0x1000, .readFailure 0x1000 4 (.deviceFault 0x1000))] := by
    simp only [unrest, List.take, run, step, answer]
    rw [writeObserved_of_unasked,
      @frame_of_unasked (((recording.state.memoryStep (.setWord 0x1000 7)).state.notify
        0x1000 4).state.memoryStep (.setWord 0x1000 9)).state, frame_of_unasked] <;> rfl
  obtain ⟨seed, hlook, -, ⟨changes, last, hchain, htold, -⟩, -, hsilent⟩ :=
    change_chain hreach hadded hleaves
  have hzero : (make {} 0).start.state.ram.look 0x1000 4 = .ok 0 := rfl
  cases hzero.symm.trans hlook
  -- the callback was told of nothing but the changes of the chain
  have hchanges : [⟨0x1000, 4, 0, 7⟩, ⟨0x1000, 4, 7, 9⟩] = changes := by
    have htellings := congrArg (List.map Prod.snd) (hreports.symm.trans htold)
    simpa only [tellings, List.map_map, Function.comp_def, List.map_id', List.map_cons,
      List.map_nil] using htellings
  subst hchanges
  have hlast : last = 9 := by
    cases hchain with
    | cons _ rest => cases rest with
      | cons _ rest => cases rest; rfl
  subst hlast
  refine ⟨hreach, rfl, hleaves, hchain, hreports, hends, ?_⟩
  have hended : (0x1000, Fault.readFailure 0x1000 4 (.deviceFault 0x1000)) ∈
      ((run (unrest.take 5) recording.state).state.step .frame).journal.endings := by
    rw [hends]
    exact List.mem_singleton_self _
  exact hsilent (unrest.take 5) .frame (unrest.drop 6) _ rfl hended

end Monitor

end GuestWatch
