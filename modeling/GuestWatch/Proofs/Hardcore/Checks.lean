import GuestWatch.Hardcore
import GuestWatch.Memory.Ram
import GuestWatch.Proofs.Address
import Mathlib.Data.List.Basic

set_option relaxedAutoImplicit false
set_option autoImplicit false

/-!
# The check of the protected regions

In hardcore mode the memory is asked to check the protected regions, one after the other, up to the
first that does not pass. The reference memory keeps a list of what it was asked, and it refuses
exactly the ranges that it was told to reject. So the answer of the check and the list afterwards
are given by the position of the first rejected region among the regions, oldest first. The memory
is asked by start and end; the end is that of the region because its range is a legal one.

## Main definitions

* `GuestWatch.Region.interval` — a region as the memory is asked about it.
* `GuestWatch.Hardcore.Reachable` — the states of hardcore mode that come about.
* `GuestWatch.Hardcore.Checked` — regions were checked up to the first rejected one.

## Main results

* `GuestWatch.Hardcore.Reachable.legal` — every protected region has a legal range.
* `GuestWatch.Hardcore.checkRegions_checked` — regions are checked up to the first rejected one.
* `GuestWatch.Hardcore.checkMemory_exact` — when the check fails, and what the memory was asked.
-/

namespace GuestWatch

/-- A region as the memory is asked about it: its first address and the first one past it. -/
def Region.interval (r : Region) : UInt32 × UInt32 := (r.start, r.start + r.size)

/-- The end of a region with a legal range is computed without wrapping. -/
lemma Region.toNat_interval {r : Region} (h : Legal r.start r.size) :
    r.interval.2.toNat = r.stop := by
  have hfits := h.fits
  have hsize : UInt32.size = 2 ^ 32 := rfl
  rw [interval, UInt32.toNat_add, Nat.mod_eq_of_lt (by omega), stop]

/-- And the memory is asked about this end. -/
lemma Region.satAdd_eq_interval {r : Region} (h : Legal r.start r.size) :
    Word.satAdd r.start r.size = r.interval.2 := by
  rw [← UInt32.toNat_inj, h.toNat_satAdd, toNat_interval h, stop]

namespace Hardcore

/-! ## States that come about -/

/-- The states of hardcore mode that come about: from the first one, by any use of it. -/
inductive Reachable : Hardcore → Prop where
  /-- The first state. -/
  | new : Reachable {}
  /-- The mode is switched, or not. -/
  | setEnabled {h : Hardcore} (hr : Reachable h) (on : Bool) (ram : Ram) :
      Reachable (h.setEnabled on ram).state.1
  /-- An observer is added. -/
  | addObserver {h : Hardcore} (hr : Reachable h) (observer : Callback Bool) :
      Reachable (h.addObserver observer)
  /-- Every observer is removed. -/
  | removeObservers {h : Hardcore} (hr : Reachable h) : Reachable h.removeObservers
  /-- A region is added, or refused. -/
  | addRegion {h : Hardcore} (hr : Reachable h) (r : Region) : Reachable (h.addRegion r).state
  /-- Every region is removed. -/
  | clearRegions {h : Hardcore} (hr : Reachable h) : Reachable h.clearRegions.state
  /-- Achievements are disabled. -/
  | disableAchievements {h : Hardcore} (hr : Reachable h) : Reachable h.disableAchievements.state
  /-- A save state was used. -/
  | saveStateUsed {h : Hardcore} (hr : Reachable h) : Reachable h.saveStateUsed.state
  /-- Achievements are enabled again. -/
  | reset {h : Hardcore} (hr : Reachable h) : Reachable h.reset

/-- A region that is added has a legal range. -/
lemma addRegion_keeps {h : Hardcore} (r : Region)
    (hlegal : ∀ o ∈ h.guard.regions, Legal o.start o.size) :
    ∀ o ∈ (h.addRegion r).state.guard.regions, Legal o.start o.size := by
  intro other hmem
  cases hrange : checkRange r.start r.size with
  | error fault =>
    simp only [addRegion, Guard.add, hrange] at hmem
    exact hlegal other hmem
  | ok w =>
    simp only [addRegion, Guard.add, hrange, List.mem_append, List.mem_singleton] at hmem
    rcases hmem with hold | rfl
    · exact hlegal other (List.mem_of_mem_filter hold)
    · exact legal_iff.mpr ⟨w, hrange⟩

/-- Every protected region has a legal range, whatever was done before. -/
theorem Reachable.legal {h : Hardcore} (hr : Reachable h) :
    ∀ r ∈ h.guard.regions, Legal r.start r.size := by
  induction hr with
  | new => exact List.forall_mem_nil _
  | setEnabled _ on ram ih =>
    unfold Hardcore.setEnabled
    split <;> exact ih
  | addRegion _ r ih => exact addRegion_keeps r ih
  | clearRegions => exact List.forall_mem_nil _
  | saveStateUsed _ ih =>
    unfold Hardcore.saveStateUsed
    split <;> exact ih
  | addObserver _ _ ih | removeObservers _ ih | disableAchievements _ ih | reset _ ih => exact ih

/-! ## The check -/

/-- Regions were checked up to the first rejected one: all of them when none is rejected. What was
checked is added to the list of the memory, and nothing else is changed there. -/
inductive Checked (ram : Ram) : List Region → Outcome Ram Bool → Prop where
  /-- No region is rejected. -/
  | passed {regions : List Region} (hpassed : ∀ r ∈ regions, r.interval ∉ ram.rejected) :
      Checked ram regions
        ⟨true, { ram with checked := ram.checked ++ regions.map Region.interval }, {}⟩
  /-- A region is rejected, and those before it are not. -/
  | failed {before after : List Region} {r : Region}
      (hpassed : ∀ other ∈ before, other.interval ∉ ram.rejected)
      (hrejected : r.interval ∈ ram.rejected) :
      Checked ram (before ++ r :: after)
        ⟨false, { ram with checked := ram.checked ++ (before ++ [r]).map Region.interval },
          Journal.note (.regionInvalid r.start r.size)⟩

/-- A region that passes is checked before the others. -/
lemma Checked.cons {ram : Ram} {r : Region} {rest : List Region} {ran : Outcome Ram Bool}
    (hr : r.interval ∉ ram.rejected)
    (h : Checked { ram with checked := ram.checked ++ [r.interval] } rest ran) :
    Checked ram (r :: rest) ran := by
  cases h with
  | passed hpassed =>
    rw [List.append_assoc, List.singleton_append, ← List.map_cons]
    exact .passed (List.forall_mem_cons.mpr ⟨hr, hpassed⟩)
  | @failed before after other hpassed hrejected =>
    rw [List.append_assoc, List.singleton_append, ← List.map_cons, ← List.cons_append]
    exact @Checked.failed ram (r :: before) after other (List.forall_mem_cons.mpr ⟨hr, hpassed⟩)
      hrejected

/-- The check fails when a region is rejected. -/
lemma Checked.value_eq_false_iff {ram : Ram} {regions : List Region} {ran : Outcome Ram Bool}
    (h : Checked ram regions ran) :
    ran.value = false ↔ ∃ r ∈ regions, r.interval ∈ ram.rejected := by
  cases h with
  | passed hpassed =>
    refine ⟨nofun, ?_⟩
    rintro ⟨r, hr, hrejected⟩
    exact absurd hrejected (hpassed r hr)
  | @failed before after r _ hrejected =>
    exact ⟨fun _ => ⟨r, List.mem_append_right _ List.mem_cons_self, hrejected⟩, fun _ => rfl⟩

/-- **Regions with legal ranges are checked up to the first rejected one.**

**Proof sketch.** By induction on the regions. A check that passes adds to the list of the memory
and leaves what is rejected, so the others pass or not as they would have before. -/
theorem checkRegions_checked {regions : List Region}
    (hlegal : ∀ r ∈ regions, Legal r.start r.size) (ram : Ram) :
    Checked ram regions (checkRegions regions ram) := by
  induction regions generalizing ram with
  | nil =>
    have hnone := @Checked.passed ram [] (List.forall_mem_nil _)
    rw [List.map_nil, List.append_nil] at hnone
    exact hnone
  | cons r rest ih =>
    obtain ⟨hr, hrest⟩ := List.forall_mem_cons.mp hlegal
    -- the end that is asked about could saturate, but not for a legal range
    have hasked : GuestMemory.checkContents r.start (Word.satAdd r.start r.size) ram =
        (!ram.rejected.contains r.interval,
          { ram with checked := ram.checked ++ [r.interval] }) := by
      rw [Region.satAdd_eq_interval hr]
      rfl
    rw [checkRegions, hasked]
    by_cases hrejected : r.interval ∈ ram.rejected
    · -- the others are not asked about
      rw [List.contains_iff_mem.mpr hrejected]
      exact @Checked.failed ram [] rest r (List.forall_mem_nil _) hrejected
    · rw [List.contains_eq_mem, decide_eq_false hrejected]
      exact (ih hrest _).cons hrejected

/-- **The check of the protected regions is exact**, in any state of hardcore mode that comes about
and for any reference memory. While the mode is on, the check fails exactly when the memory rejects
the range of some protected region, and the memory is asked to check the regions in the order in
which they were added, up to and including the first that it rejects, or all of them when it rejects
none. What it was asked is added to its list and nothing else is changed; a failure is noted with
the region. The end of each range is that of the region, without wrapping. While the mode is off,
the check passes and the memory is not asked. The check of all there is to check does the same.

**Proof sketch.** By induction on the regions, whose ranges are legal because each was checked when
the region was added. -/
theorem checkMemory_exact {h : Hardcore} (hr : Reachable h) (ram : Ram) :
    (h.enabled = true →
      ((h.checkMemory ram).value = false ↔
        ∃ r ∈ h.guard.regions, r.interval ∈ ram.rejected) ∧
      Checked ram h.guard.regions (h.checkMemory ram)) ∧
    (∀ r ∈ h.guard.regions, r.interval.2.toNat = r.stop) ∧
    (h.enabled = false → h.checkMemory ram = ⟨true, ram, {}⟩) ∧
    h.checkSystem ram = h.checkMemory ram := by
  refine ⟨fun hon => ?_, fun r hmem => Region.toNat_interval (hr.legal r hmem), fun hoff => ?_, ?_⟩
  · have hchecked := checkRegions_checked hr.legal ram
    rw [checkMemory, if_pos hon]
    exact ⟨hchecked.value_eq_false_iff, hchecked⟩
  · rw [checkMemory, hoff, if_neg Bool.false_ne_true]
  · unfold checkSystem checkMemory
    split <;> rfl

/-- Three regions in hardcore mode: a fourth was evicted by the last, which takes its place at the
end. -/
def walled : Hardcore :=
  (((((({} : Hardcore).setEnabled true ({} : Ram)).state.1.addRegion
    ⟨0x5000, 0x100⟩).state.addRegion ⟨0x1000, 0x100⟩).state.addRegion
      ⟨0x3000, 0x100⟩).state.addRegion ⟨0x50f0, 0x100⟩).state

/-- A memory that rejects the second region of `walled`, and a range that only starts like the
first. -/
def wary : Ram := (({} : Ram).reject 0x1000 0x1080).reject 0x3000 0x3100

/-- The check of `walled` stops at its second region and does not reach the third. -/
theorem checkMemory_exact_walled :
    Reachable walled ∧ walled.enabled = true ∧
      walled.guard.regions = [⟨0x1000, 0x100⟩, ⟨0x3000, 0x100⟩, ⟨0x50f0, 0x100⟩] ∧
      (walled.checkMemory wary).value = false ∧
      (walled.checkMemory wary).state.checked = [(0x1000, 0x1100), (0x3000, 0x3100)] ∧
      walled.checkSystem wary = walled.checkMemory wary ∧
      (Region.interval ⟨0x50f0, 0x100⟩).2.toNat = 0x51f0 := by
  have hreach : Reachable walled :=
    ((((Reachable.new.setEnabled true {}).addRegion _).addRegion _).addRegion _).addRegion _
  obtain ⟨hon, hends, -, hsystem⟩ := checkMemory_exact hreach wary
  have hregions : walled.guard.regions =
      [⟨0x1000, 0x100⟩, ⟨0x3000, 0x100⟩, ⟨0x50f0, 0x100⟩] := rfl
  have hfails : (walled.checkMemory wary).value = false :=
    (hon rfl).1.mpr ⟨⟨0x3000, 0x100⟩, by rw [hregions]; simp, by decide⟩
  refine ⟨hreach, rfl, hregions, hfails, rfl, hsystem, ?_⟩
  exact hends ⟨0x50f0, 0x100⟩ (by rw [hregions]; simp)

end Hardcore

end GuestWatch
