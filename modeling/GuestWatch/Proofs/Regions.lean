import GuestWatch.Guard
import Mathlib.Data.List.Basic
import Mathlib.Tactic.Lemma

set_option relaxedAutoImplicit false
set_option autoImplicit false

/-!
# Regions over a history

What a guard holds follows from the history of what was done to it: the regions that were added
since the last clear, without those that a later one met. A region may be lost to one that leaves
most of its addresses unprotected, so whether an address is protected depends on all that was added
after the region that covers it.

## Main definitions

* `GuestWatch.Region.Covers`, `GuestWatch.Region.Meets` — the addresses of a region, and regions that
  share one.
* `GuestWatch.Guard.Act` — what may be done to the regions of a guard.
* `GuestWatch.Guard.sinceClear` — the regions that were added since the last clear.
* `GuestWatch.Guard.standing` — of regions added one after the other, those that no later one met.

## Main results

* `GuestWatch.Guard.foldl_apply` — the regions after a history are the standing ones.
* `GuestWatch.Guard.mem_standing_iff` — which regions stand.
* `GuestWatch.Guard.add_cases` — what adding a region keeps and what it evicts.
-/

namespace GuestWatch

namespace Region

/-- A region covers the addresses from its start up to its end. -/
def Covers (r : Region) (address : UInt32) : Prop :=
  r.start.toNat ≤ address.toNat ∧ address.toNat < r.stop

/-- Two regions meet in an address that both of them cover. -/
def Meets (r other : Region) : Prop := ∃ address : UInt32, r.Covers address ∧ other.Covers address

/-- A region contains the addresses that it covers. -/
lemma contains_iff_covers {r : Region} {address : UInt32} :
    r.contains address = true ↔ r.Covers address := by
  have hone : (1 : UInt32).toNat = 1 := rfl
  simp only [contains, Covers, stop, rangesOverlap_iff, hone]
  omega

/-- Regions that are not empty overlap exactly when they meet: the later of the two starts is an
address of both. -/
lemma overlaps_iff_meets {r other : Region} (hr : 0 < r.size.toNat) (hother : 0 < other.size.toNat) :
    r.overlaps other = true ↔ r.Meets other := by
  simp only [overlaps, Meets, Covers, stop, rangesOverlap_iff]
  constructor
  · rintro ⟨hbefore, hafter⟩
    rcases Nat.le_total r.start.toNat other.start.toNat with hle | hle
    · exact ⟨other.start, by omega⟩
    · exact ⟨r.start, by omega⟩
  · rintro ⟨address, hcovers, hcovers'⟩
    omega

end Region

namespace Guard

/-! ## Histories -/

/-- What may be done to the regions of a guard. -/
inductive Act where
  /-- A region is added. -/
  | added (r : Region)
  /-- All regions are removed. -/
  | cleared
  deriving DecidableEq, Repr

/-- The regions after something was done to them. -/
def Act.apply (regions : List Region) : Act → List Region
  | added r => (regions.filter fun other => !other.overlaps r) ++ [r]
  | cleared => []

/-- The regions added since the last clear, after one more act. -/
def Act.note (regions : List Region) : Act → List Region
  | added r => regions ++ [r]
  | cleared => []

/-- The regions that were added since the last clear, oldest first. -/
def sinceClear (acts : List Act) : List Region := acts.foldl Act.note []

/-- Of regions that were added one after the other, those that no later one overlaps. -/
def standing : List Region → List Region
  | [] => []
  | r :: later => if later.any r.overlaps then standing later else r :: standing later

/-- The region that is added last stands, and those stand that it does not overlap. -/
lemma standing_concat (history : List Region) (r : Region) :
    standing (history ++ [r]) = Act.apply (standing history) (.added r) := by
  induction history with
  | nil => rfl
  | cons first later ih =>
    simp only [Act.apply] at ih
    simp only [List.cons_append, standing, List.any_append, List.any_cons, List.any_nil,
      Bool.or_false, Act.apply]
    by_cases hlost : later.any first.overlaps = true
    · simp only [hlost, Bool.true_or, if_true, ih]
    · simp only [hlost, Bool.false_or, ih]
      by_cases hmeets : first.overlaps r = true <;> simp [hmeets]

/-- **What a history leaves of the regions**: those that stand among the ones added since the last
clear.

**Proof sketch.** By induction on the history, from any regions that stand at its beginning. -/
theorem foldl_apply (acts : List Act) : acts.foldl Act.apply [] = standing (sinceClear acts) := by
  have hgeneral : ∀ history : List Region,
      acts.foldl Act.apply (standing history) = standing (acts.foldl Act.note history) := by
    induction acts with
    | nil => exact fun _ => rfl
    | cons act rest ih =>
      intro history
      cases act with
      | added r =>
        have hnext := ih (history ++ [r])
        rwa [standing_concat] at hnext
      | cleared => exact ih []
  exact hgeneral []

/-- **A region stands** when it was added and no later one overlaps it. -/
theorem mem_standing_iff {r : Region} {history : List Region} :
    r ∈ standing history ↔
      ∃ early late, history = early ++ r :: late ∧ ∀ later ∈ late, r.overlaps later = false := by
  induction history with
  | nil => simp [standing]
  | cons first rest ih =>
    constructor
    · intro hmem
      by_cases hlost : rest.any first.overlaps = true
      · rw [standing, if_pos hlost, ih] at hmem
        obtain ⟨early, late, rfl, hlate⟩ := hmem
        exact ⟨first :: early, late, rfl, hlate⟩
      · rw [standing, if_neg hlost, List.mem_cons, ih] at hmem
        rcases hmem with rfl | ⟨early, late, rfl, hlate⟩
        · exact ⟨[], rest, rfl, by simpa using hlost⟩
        · exact ⟨first :: early, late, rfl, hlate⟩
    · rintro ⟨early, late, hsplit, hlate⟩
      cases early with
      | nil =>
        obtain ⟨rfl, rfl⟩ := List.cons.inj hsplit
        have hkept : ¬rest.any first.overlaps = true := by simpa using hlate
        rw [standing, if_neg hkept]
        exact List.mem_cons_self
      | cons head early =>
        obtain ⟨rfl, rfl⟩ := List.cons.inj hsplit
        have hrest := ih.mpr ⟨early, late, rfl, hlate⟩
        unfold standing
        split
        · exact hrest
        · exact List.mem_cons_of_mem first hrest

/-- Of regions that are not empty, one stands when it was added and no later one meets it. -/
lemma mem_standing_iff_meets {r : Region} {history : List Region}
    (hpos : ∀ other ∈ history, 0 < other.size.toNat) :
    r ∈ standing history ↔
      ∃ early late, history = early ++ r :: late ∧ ∀ later ∈ late, ¬r.Meets later := by
  rw [mem_standing_iff]
  refine exists_congr fun early => exists_congr fun late => and_congr_right fun hsplit => ?_
  refine forall₂_congr fun later hlater => ?_
  have hr : r ∈ history := by simp [hsplit]
  have hmem : later ∈ history := by simp [hsplit, hlater]
  rw [← Region.overlaps_iff_meets (hpos r hr) (hpos later hmem), Bool.not_eq_true]

/-- A region that was noted was noted before or is added. -/
lemma added_of_mem_foldl {acts : List Act} {history : List Region} {r : Region}
    (h : r ∈ acts.foldl Act.note history) : r ∈ history ∨ .added r ∈ acts := by
  induction acts generalizing history with
  | nil => exact Or.inl h
  | cons act rest ih =>
    rcases ih h with hnoted | hrest
    · cases act with
      | added other =>
        rw [Act.note, List.mem_append, List.mem_singleton] at hnoted
        rcases hnoted with hold | rfl
        · exact Or.inl hold
        · exact Or.inr List.mem_cons_self
      | cleared => cases hnoted
    · exact Or.inr (List.mem_cons_of_mem act hrest)

/-- Regions that stand were added, in this order. -/
lemma standing_sublist (history : List Region) : (standing history).Sublist history := by
  induction history with
  | nil => exact List.Sublist.refl []
  | cons r later ih =>
    unfold standing
    split
    · exact ih.cons r
    · exact ih.cons_cons r

/-- Regions that stand do not overlap. -/
lemma pairwise_standing (history : List Region) :
    (standing history).Pairwise fun r other => r.overlaps other = false := by
  induction history with
  | nil => exact List.Pairwise.nil
  | cons r later ih =>
    unfold standing
    split
    · exact ih
    · rename_i hkept
      refine List.Pairwise.cons (fun other hother => ?_) ih
      have hlater := (standing_sublist later).subset hother
      simp only [List.any_eq_true, not_exists, not_and, Bool.not_eq_true] at hkept
      exact hkept other hlater

/-- The region that was added last is the last that stands. -/
lemma getLast?_standing (history : List Region) :
    (standing history).getLast? = history.getLast? := by
  rcases List.eq_nil_or_concat' history with rfl | ⟨early, r, rfl⟩
  · rfl
  · rw [standing_concat, Act.apply, List.getLast?_concat, List.getLast?_concat]

/-! ## Adding a region -/

/-- **Adding a region** keeps the regions it does not overlap, evicts as many as are lost, and puts
the region at the end. -/
theorem add_cases {guard guard' : Guard} {r : Region} {evicted : Nat}
    (h : guard.add r = .ok (evicted, guard')) :
    0 < r.size.toNat ∧ guard'.enabled = guard.enabled ∧
      ∃ kept, kept = guard.regions.filter (fun other => !other.overlaps r) ∧
        guard'.regions = kept ++ [r] ∧ kept.length + evicted = guard.regions.length := by
  unfold add at h
  split at h
  · cases h
  · rename_i w hrange
    cases h
    refine ⟨(checkRange_eq_ok_iff.mp hrange).1, rfl, _, rfl, rfl, ?_⟩
    have hsplit := List.length_eq_countP_add_countP (fun other => other.overlaps r)
      (l := guard.regions)
    simp only [Bool.not_eq_true, Bool.decide_eq_false] at hsplit
    rw [← List.countP_eq_length_filter, Nat.add_comm, hsplit]

end Guard

end GuestWatch
