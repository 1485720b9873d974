import GuestWatch.Proofs.Monitor.Session
import GuestWatch.Proofs.Regions

set_option relaxedAutoImplicit false
set_option autoImplicit false

/-!
# Protected addresses over a run

Regions are added by the owner of the monitor and removed by the owner or at the request of a
callback. Nothing else touches them, switching hardcore mode included, so the protected addresses
follow from the mode and from the regions that were accepted since they were last cleared.

## Main definitions

* `GuestWatch.Monitor.regionActs` — what an operation does to the protected regions.
* `GuestWatch.Monitor.regionHistory` — what a run does to them.

## Main results

* `GuestWatch.Monitor.regions_step`, `GuestWatch.Monitor.regions_run` — nothing else touches the
  regions.
* `GuestWatch.Monitor.protected_history` — the protected addresses after a run.
-/

namespace GuestWatch

/-- What carrying out a command does to the protected regions. -/
def Command.regionAct? : Command → Option Guard.Act
  | .clearRegions => some .cleared
  | _ => none

namespace Monitor

/-- What an operation does to the protected regions: one that is accepted is added, all are cleared
by the owner, or all are cleared whenever a callback asked for that and the command is carried
out. -/
def regionActs (m : Monitor) : MonitorOp → List Guard.Act
  | .addRegion r => if (m.addRegion r).value then [.added r] else []
  | .clearRegions => [.cleared]
  | op => (m.step op).journal.applied.filterMap Command.regionAct?

/-- What a run does to the protected regions, in order. -/
def regionHistory : List MonitorOp → Monitor → List Guard.Act
  | [], _ => []
  | op :: rest, m => m.regionActs op ++ regionHistory rest (m.step op).state

/-! ## Nothing else touches the regions -/

/-- Switching hardcore mode keeps the regions. -/
lemma regions_switchHardcore (m : Monitor) (on : Bool) :
    (m.switchHardcore on).state.hardcore.guard.regions = m.hardcore.guard.regions := by
  simp only [switchHardcore, Hardcore.setEnabled]
  split <;> rfl

/-- Ending the session keeps the regions. -/
lemma regions_endSession (m : Monitor) :
    m.endSession.state.hardcore.guard.regions = m.hardcore.guard.regions := by
  simp only [endSession, hardcore_unloadGame]
  rfl

/-- Carrying out a command clears the regions if that is what it asks for. -/
lemma regions_carryOut (m : Monitor) (command : Command) :
    (m.carryOut command).state.hardcore.guard.regions =
      command.regionAct?.toList.foldl Guard.Act.apply m.hardcore.guard.regions := by
  cases command with
  | setHardcore on => exact regions_switchHardcore m on
  | unloadGame => exact congrArg (fun h => h.guard.regions) (hardcore_unloadGame m)
  | disableAchievements => exact regions_endSession m
  | _ => rfl

/-- A move within an operation that settles touches the regions by carrying out commands only. -/
lemma Move.regions {op : MonitorOp} {m m' : Monitor} {j : Journal} (h : Move op m j m')
    (hsettles : op.settles = true) :
    m'.hardcore.guard.regions =
      (j.applied.filterMap Command.regionAct?).foldl Guard.Act.apply m.hardcore.guard.regions := by
  rcases h.applied_eq with hnone | ⟨command, rest, hone, rfl⟩
  · rw [hnone]
    cases h with
    | carried h =>
      rw [Journal.applied_append] at hnone
      exact absurd (List.append_eq_nil_iff.mp hnone).1 (List.cons_ne_nil _ _)
    | installed =>
      obtain ⟨reads, writes, installed, hstate⟩ := m.installIntercepts_frame
      rw [hstate]
      rfl
    | switched on => exact regions_switchHardcore m on
    | ended => exact regions_endSession m
    | direct h =>
      rw [hsettles] at h
      cases h
    | _ => rfl
  · rw [hone, List.filterMap_cons, List.filterMap_nil, regions_carryOut]
    cases command.regionAct? <;> rfl

/-- A path within an operation that settles touches the regions by carrying out commands only. -/
lemma Path.regions {op : MonitorOp} {m m' : Monitor} {j : Journal} (h : Path op m j m')
    (hsettles : op.settles = true) :
    m'.hardcore.guard.regions =
      (j.applied.filterMap Command.regionAct?).foldl Guard.Act.apply m.hardcore.guard.regions := by
  induction h with
  | refl m => rfl
  | cons head tail ih =>
    rw [ih, head.regions hsettles, Journal.applied_append, List.filterMap_append, List.foldl_append]

/-- A region with a legal range is added to the guard, and the eviction is noted. -/
lemma addRegion_of_ok {m : Monitor} {r : Region} {evicted : Nat} {guard : Guard}
    (h : m.hardcore.guard.add r = .ok (evicted, guard)) :
    m.addRegion r = ⟨true, { m with hardcore := { m.hardcore with guard } },
      Journal.note (.regionAdded r.start r.stop evicted)⟩ := by
  simp only [addRegion, Hardcore.addRegion, h]

/-- A region with an illegal range is refused. -/
lemma addRegion_of_error {m : Monitor} {r : Region} {fault : Fault}
    (h : m.hardcore.guard.add r = .error fault) :
    m.addRegion r = ⟨false, m.record fault, Journal.note (.regionRefused fault)⟩ := by
  simp only [addRegion, Hardcore.addRegion, h, Journal.empty_append]

/-- Adding a region changes the regions when it is accepted. -/
lemma regions_addRegion (m : Monitor) (r : Region) :
    (m.addRegion r).state.hardcore.guard.regions =
      (m.regionActs (.addRegion r)).foldl Guard.Act.apply m.hardcore.guard.regions := by
  cases hadd : m.hardcore.guard.add r with
  | error fault =>
    rw [regionActs, addRegion_of_error hadd]
    rfl
  | ok added =>
    obtain ⟨evicted, guard⟩ := added
    obtain ⟨_, _, kept, hkept, hregions, _⟩ := Guard.add_cases hadd
    rw [regionActs, addRegion_of_ok hadd]
    show guard.regions = _
    rw [hregions, hkept]
    rfl

/-- An operation that does not settle and is about no region keeps the regions. -/
lemma regions_of_quiet (m : Monitor) {op : MonitorOp} (hsettles : op.settles = false)
    (hadd : ∀ r, op ≠ .addRegion r) (hclear : op ≠ .clearRegions) :
    (m.step op).state.hardcore.guard.regions = m.hardcore.guard.regions := by
  by_cases hgoverns : op.governs = false
  · rw [hardcore_step m hsettles hgoverns]
  cases op with
  | addObserver observer => rfl
  | resetAchievements => rfl
  | addRegion r => exact absurd rfl (hadd r)
  | clearRegions => exact absurd rfl hclear
  | _ => exact absurd rfl hgoverns

/-- An operation of another kind acts on the regions by the commands that are carried out. -/
lemma regionActs_eq (m : Monitor) {op : MonitorOp} (hadd : ∀ r, op ≠ .addRegion r)
    (hclear : op ≠ .clearRegions) :
    m.regionActs op = (m.step op).journal.applied.filterMap Command.regionAct? := by
  cases op with
  | addRegion r => exact absurd rfl (hadd r)
  | clearRegions => exact absurd rfl hclear
  | _ => rfl

/-- **What an operation does to the regions** is what its acts do, one after the other. -/
theorem regions_step (m : Monitor) (op : MonitorOp) :
    (m.step op).state.hardcore.guard.regions =
      (m.regionActs op).foldl Guard.Act.apply m.hardcore.guard.regions := by
  by_cases hclear : op = .clearRegions
  · rw [hclear]
    rfl
  by_cases hadd : ∃ r, op = .addRegion r
  · obtain ⟨r, rfl⟩ := hadd
    exact regions_addRegion m r
  rw [not_exists] at hadd
  rw [regionActs_eq m hadd hclear]
  by_cases hsettles : op.settles = true
  · exact (path_step m op).regions hsettles
  · rw [Bool.not_eq_true] at hsettles
    rw [(quiet_step m hsettles).applied]
    exact regions_of_quiet m hsettles hadd hclear

/-- What a run does to the regions is what its history does. -/
theorem regions_run (m : Monitor) (ops : List MonitorOp) :
    (run ops m).state.hardcore.guard.regions =
      (regionHistory ops m).foldl Guard.Act.apply m.hardcore.guard.regions := by
  induction ops generalizing m with
  | nil => rfl
  | cons op rest ih =>
    rw [regionHistory, List.foldl_append, ← regions_step]
    exact ih (m.step op).state

/-- A region that an operation adds is not empty. -/
lemma pos_of_mem_regionActs {m : Monitor} {op : MonitorOp} {r : Region}
    (h : .added r ∈ m.regionActs op) : 0 < r.size.toNat := by
  by_cases hclear : op = .clearRegions
  · rw [hclear] at h
    simp [regionActs] at h
  by_cases hadd : ∃ other, op = .addRegion other
  · obtain ⟨other, rfl⟩ := hadd
    cases hother : m.hardcore.guard.add other with
    | error fault =>
      rw [regionActs, addRegion_of_error hother] at h
      simp at h
    | ok added =>
      rw [regionActs, addRegion_of_ok hother, if_pos rfl, List.mem_singleton] at h
      cases h
      exact (Guard.add_cases hother).1
  · rw [not_exists] at hadd
    rw [regionActs_eq m hadd hclear, List.mem_filterMap] at h
    obtain ⟨command, _, hact⟩ := h
    cases command <;> cases hact

/-- A region that a run adds is not empty. -/
lemma pos_of_mem_regionHistory {ops : List MonitorOp} {m : Monitor} {r : Region}
    (h : .added r ∈ regionHistory ops m) : 0 < r.size.toNat := by
  induction ops generalizing m with
  | nil => cases h
  | cons op rest ih =>
    rw [regionHistory, List.mem_append] at h
    rcases h with hhead | htail
    · exact pos_of_mem_regionActs hhead
    · exact ih htail

/-! ## Protected addresses -/

/-- The protected addresses of a monitor follow from the regions that were added since they were
last cleared, oldest first. -/
structure Protects (m : Monitor) (added : List Region) : Prop where
  /-- An address is protected in hardcore mode when an added region covers it that no later one
  met. -/
  isProtected_iff : ∀ address, m.isProtected address = true ↔
    m.hardcore.enabled = true ∧ ∃ early r late, added = early ++ r :: late ∧ r.Covers address ∧
      ∀ later ∈ late, ¬r.Meets later
  /-- No two of the regions that are held meet. -/
  apart : m.hardcore.guard.regions.Pairwise fun r other => ¬r.Meets other
  /-- The region that was added last is held. -/
  newest : m.hardcore.guard.regions.getLast? = added.getLast?
  /-- A region that is held answers for an address when it is the last added one to cover it. -/
  latest : ∀ r ∈ m.hardcore.guard.regions, ∀ address, r.Covers address →
    ∃ early late, added = early ++ r :: late ∧ ∀ later ∈ late, ¬later.Covers address

/-- A monitor whose regions stand of those that were added protects accordingly. -/
lemma protects_of_standing {m : Monitor} {added : List Region}
    (hregions : m.hardcore.guard.regions = Guard.standing added)
    (hpos : ∀ r ∈ added, 0 < r.size.toNat) : Protects m added := by
  refine ⟨?_, ?_, ?_, ?_⟩
  · intro address
    simp only [isProtected, Guard.isProtected, hregions, Bool.and_eq_true, List.any_eq_true,
      Region.contains_iff_covers, Guard.mem_standing_iff_meets hpos]
    refine and_congr_right fun _ => ?_
    constructor
    · rintro ⟨r, ⟨early, late, hsplit, hlate⟩, hcovers⟩
      exact ⟨early, r, late, hsplit, hcovers, hlate⟩
    · rintro ⟨early, r, late, hsplit, hcovers, hlate⟩
      exact ⟨r, ⟨early, late, hsplit, hlate⟩, hcovers⟩
  · rw [hregions]
    refine (Guard.pairwise_standing added).imp_of_mem ?_
    intro r other hr hother hapart
    have hmem := (Guard.standing_sublist added).subset
    rwa [← Region.overlaps_iff_meets (hpos r (hmem hr)) (hpos other (hmem hother)),
      Bool.not_eq_true]
  · rw [hregions, Guard.getLast?_standing]
  · intro r hr address hcovers
    rw [hregions, Guard.mem_standing_iff_meets hpos] at hr
    obtain ⟨early, late, hsplit, hlate⟩ := hr
    exact ⟨early, late, hsplit, fun later hlater hcovers' =>
      hlate later hlater ⟨address, hcovers, hcovers'⟩⟩

/-- The regions after a run of a new monitor are those that stand of the ones it added since they
were last cleared, none of them empty. -/
lemma regions_of_make (options : Options) (now : UInt64) (ops : List MonitorOp) :
    let added := Guard.sinceClear (regionHistory ops (make options now))
    (run ops (make options now)).state.hardcore.guard.regions = Guard.standing added ∧
      ∀ r ∈ added, 0 < r.size.toNat := by
  refine ⟨(regions_run _ ops).trans (Guard.foldl_apply _), fun r hr => ?_⟩
  rcases Guard.added_of_mem_foldl hr with hnil | hadded
  · cases hnil
  · exact pos_of_mem_regionHistory hadded

/-- **Protected addresses over a run.** After any run of a new monitor, whatever its callbacks ask
for, the protected addresses follow from the mode and from the regions that were accepted since the
last clear. A region that is accepted evicts as many regions as are noted, which are those it meets,
and keeps the others. A run that adds no region, clears none and leaves the mode as it was leaves the
same addresses protected, however often the mode was switched meanwhile.

**Proof sketch.** The regions are what the history of the run makes of them (`regions_run`), and
that is what stands of the added ones (`Guard.foldl_apply`). Accepted regions are not empty, so two
of them overlap exactly when they share an address. -/
theorem protected_history (options : Options) (now : UInt64) (ops : List MonitorOp) :
    let m := (run ops (make options now)).state
    Protects m (Guard.sinceClear (regionHistory ops (make options now))) ∧
    (∀ r evicted guard, m.hardcore.guard.add r = .ok (evicted, guard) →
      (m.step (.addRegion r)).state.hardcore.guard = guard ∧
      (m.step (.addRegion r)).journal = Journal.note (.regionAdded r.start r.stop evicted) ∧
      ∃ kept, guard.regions = kept ++ [r] ∧ kept.Sublist m.hardcore.guard.regions ∧
        kept.length + evicted = m.hardcore.guard.regions.length ∧
        ∀ other ∈ m.hardcore.guard.regions, other ∈ kept ↔ ¬other.Meets r) ∧
    (∀ more, regionHistory more m = [] →
      (run more m).state.hardcore.enabled = m.hardcore.enabled →
      (run more m).state.isProtected = m.isProtected) := by
  intro m
  obtain ⟨hregions, hpos⟩ := regions_of_make options now ops
  refine ⟨protects_of_standing hregions hpos, ?_, ?_⟩
  · intro r evicted guard hadd
    obtain ⟨hr, _, kept, hkept, hguard, hcount⟩ := Guard.add_cases hadd
    have hstep : m.step (.addRegion r) = answer .flag (m.addRegion r) := rfl
    rw [hstep, addRegion_of_ok hadd]
    refine ⟨rfl, rfl, kept, hguard, hkept ▸ List.filter_sublist, hcount, fun other hother => ?_⟩
    have hmem : other ∈ Guard.standing _ := hregions ▸ hother
    have hother' := hpos other ((Guard.standing_sublist _).subset hmem)
    rw [hkept, List.mem_filter, ← Region.overlaps_iff_meets hother' hr]
    simp [hother]
  · intro more hnone henabled
    have hsame := regions_run m more
    rw [hnone] at hsame
    funext address
    have henabled' : (run more m).state.hardcore.guard.enabled = m.hardcore.guard.enabled :=
      henabled
    simp only [isProtected, Guard.isProtected, hsame, henabled', List.foldl_nil]

/-- A new monitor with two regions, of which the second took the place of the first and covers only
some of its addresses. -/
def fenced : Monitor := (run [.addRegion ⟨0x100, 16⟩, .addRegion ⟨0x108, 16⟩] (make {} 0)).state

/-- The operations that make `fenced` and switch it to hardcore mode. -/
def fencing : List MonitorOp :=
  [.addRegion ⟨0x100, 16⟩, .addRegion ⟨0x108, 16⟩, .setHardcore true]

/-- After `fencing` the addresses of the second region are protected, those that only the first one
covered are not, and a switch off and on again changes nothing. -/
theorem protected_history_fencing :
    let m := (run fencing (make {} 0)).state
    Guard.sinceClear (regionHistory fencing (make {} 0)) = [⟨0x100, 16⟩, ⟨0x108, 16⟩] ∧
      m.isProtected 0x108 = true ∧ m.isProtected 0x100 = false ∧
      (run [.setHardcore false, .setHardcore true] m).state.isProtected = m.isProtected := by
  intro m
  have hon : fenced.setHardcore true = fenced.switchHardcore true := settle_of_nil rfl
  have hm : m = (fenced.switchHardcore true).state := congrArg Outcome.state hon
  have hoff : m.setHardcore false = m.switchHardcore false := by
    rw [hm]
    exact settle_of_nil rfl
  have hagain : (m.switchHardcore false).state.setHardcore true =
      (m.switchHardcore false).state.switchHardcore true := by
    rw [hm]
    exact settle_of_nil rfl
  have hadded :
      Guard.sinceClear (regionHistory fencing (make {} 0)) = [⟨0x100, 16⟩, ⟨0x108, 16⟩] := by
    show Guard.sinceClear
      (_ ++ (_ ++ ((fenced.setHardcore true).journal.applied.filterMap _ ++ _))) = _
    rw [hon]
    rfl
  obtain ⟨hprotects, _, hswitch⟩ := protected_history {} 0 fencing
  refine ⟨hadded, ?_, ?_, hswitch _ ?_ ?_⟩
  · refine (hprotects.isProtected_iff 0x108).mpr ⟨congrArg (fun m => m.hardcore.enabled) hm, ?_⟩
    exact ⟨[⟨0x100, 16⟩], ⟨0x108, 16⟩, [], hadded, ⟨by decide, by decide⟩, by simp⟩
  · rw [hm]
    rfl
  · show (m.setHardcore false).journal.applied.filterMap _ ++
      (((m.setHardcore false).state.setHardcore true).journal.applied.filterMap _ ++ []) = []
    rw [hoff, hagain, hm]
    rfl
  · show ((m.setHardcore false).state.setHardcore true).state.hardcore.enabled =
      m.hardcore.enabled
    rw [hoff, hagain, hm]
    rfl

end Monitor

end GuestWatch
