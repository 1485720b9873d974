import GuestWatch.Proofs.Watch.Refresh
import Mathlib.Data.List.Nodup

set_option relaxedAutoImplicit false
set_option autoImplicit false

/-!
# What becomes of watches

While the memory stays as it is, two things happen to watches: some are dropped, and active ones are
read again. So a watch that is alone at its address is in effect read again once or not at all,
however many passes go over the list.

## Main definitions

* `GuestWatch.Course` — what becomes of a list of watches, with the changes that are reported and
  the watches that end.
* `GuestWatch.Watch.Stays` — what becomes of one watch.
* `GuestWatch.Watch.Sole` — no other watch is at the address of this one.

## Main results

* `GuestWatch.WatchList.Pass.course` — a pass over active watches is a course.
* `GuestWatch.Course.stays` — in a course a sole watch is read again once or not at all.
-/

namespace GuestWatch

open Journal

/-- What becomes of a list of watches while the memory answers the same. -/
inductive Course (look : Look) :
    List Watch → List (String × Change) → List (UInt32 × Fault) → List Watch → Prop where
  /-- Watches are dropped. -/
  | dropped {ws ws' : List Watch} (h : ws'.Sublist ws) : Course look ws [] [] ws'
  /-- An active watch is read again. -/
  | reread (before after : List Watch) {w : Watch} (h : w.active = true) :
      Course look (before ++ w :: after) (w.report look) (w.ending look)
        (before ++ w.reread look :: after)
  /-- One thing after the other. -/
  | trans {ws ws' ws'' : List Watch} {changes changes' : List (String × Change)}
      {endings endings' : List (UInt32 × Fault)} (h : Course look ws changes endings ws')
      (h' : Course look ws' changes' endings' ws'') :
      Course look ws (changes ++ changes') (endings ++ endings') ws''

variable {look : Look}

namespace Course

variable {ws ws' : List Watch} {changes : List (String × Change)} {endings : List (UInt32 × Fault)}

/-- Nothing happens. -/
lemma refl (ws : List Watch) : Course look ws [] [] ws := dropped (List.Sublist.refl ws)

/-- What becomes of watches does not depend on a watch before them. -/
lemma cons (u : Watch) (h : Course look ws changes endings ws') :
    Course look (u :: ws) changes endings (u :: ws') := by
  induction h with
  | dropped h => exact dropped (h.cons_cons u)
  | reread before after h => exact reread (u :: before) after h
  | trans _ _ ih ih' => exact ih.trans ih'

/-- No address is new after a course, and none is out of order. -/
lemma addresses_sublist (h : Course look ws changes endings ws') :
    (ws'.map Watch.address).Sublist (ws.map Watch.address) := by
  induction h with
  | dropped h => exact h.map Watch.address
  | reread before after h =>
    simp only [List.map_append, List.map_cons, Watch.reread_address]
    exact List.Sublist.refl _
  | trans _ _ ih ih' => exact ih'.trans ih

end Course

/-- A pass over active watches is a course: it rereads those it hits, one after the other. -/
lemma WatchList.Pass.course {hit : Watch → Bool} {ws ws' : List Watch} {j : Journal}
    (h : Pass look hit ws ws' j) (hactive : ∀ w ∈ ws, hit w = true → w.active = true) :
    Course look ws j.changes j.endings ws' := by
  rw [h.watches, h.changes, h.endings]
  clear h
  induction ws with
  | nil => exact Course.refl []
  | cons w rest ih =>
    have hrest := ih fun u hu => hactive u (List.mem_cons_of_mem w hu)
    simp only [List.map_cons, List.flatMap_cons]
    by_cases hw : hit w = true
    · simp only [hw, if_true]
      exact (Course.reread [] rest (hactive w List.mem_cons_self hw)).trans (hrest.cons _)
    · rw [if_neg hw, if_neg hw, if_neg hw]
      exact hrest.cons w

namespace Watch

/-! ## One watch -/

/-- What becomes of one watch while the memory answers the same: it is left alone, or it is active
and read again. -/
inductive Stays (look : Look) (w : Watch) :
    List (String × Change) → List (UInt32 × Fault) → Watch → Prop where
  /-- The watch is left alone. -/
  | untouched : Stays look w [] [] w
  /-- The watch is read again. -/
  | reread (h : w.active = true) : Stays look w (w.report look) (w.ending look) (w.reread look)

variable {w w' w'' : Watch} {changes changes' : List (String × Change)}
  {endings endings' : List (UInt32 × Fault)}

/-- Reading a watch again twice comes to the same as reading it once. -/
lemma Stays.trans (h : Stays look w changes endings w') (h' : Stays look w' changes' endings' w'') :
    Stays look w (changes ++ changes') (endings ++ endings') w'' := by
  cases h with
  | untouched => exact h'
  | reread hw =>
    cases h' with
    | untouched =>
      rw [List.append_nil, List.append_nil]
      exact Stays.reread hw
    | reread hw' =>
      obtain ⟨hwatch, hreport, hending, -⟩ := reread_of_same (look_reread hw')
      rw [hwatch, hreport, hending, List.append_nil, List.append_nil]
      exact Stays.reread hw

lemma Stays.address_eq (h : Stays look w changes endings w') : w'.address = w.address := by
  cases h with
  | untouched => rfl
  | reread h => exact reread_address look w

/-- A watch that is not active is left alone. -/
lemma Stays.of_inactive (h : Stays look w changes endings w') (hw : w.active = false) :
    changes = [] ∧ w' = w := by
  cases h with
  | untouched => exact ⟨rfl, rfl⟩
  | reread hactive =>
    rw [hw] at hactive
    cases hactive

/-- A watch that ends reports nothing with it. -/
lemma Stays.of_ending (h : Stays look w changes endings w') (hends : endings ≠ []) :
    changes = [] ∧ w'.active = false := by
  cases h with
  | untouched => exact absurd rfl hends
  | reread hactive =>
    cases hlook : look w.address w.size with
    | error fault => exact ⟨by simp only [report, hlook], by simp only [Watch.reread, hlook]⟩
    | ok value => exact absurd (by simp only [ending, hlook]) hends

/-- No other watch of the list is at the address of this one, which may be in the list or not. -/
def Sole (ws : List Watch) (w : Watch) : Prop := ∀ v ∈ ws, v.address = w.address → v = w

/-- A change that a watch reports is one at its address. -/
lemma changesAt_report (look : Look) (w : Watch) (address : UInt32) :
    changesAt address (w.report look) = if w.address = address then w.report look else [] := by
  unfold report
  split
  · simp
  · split
    · simp
    · cases w.callback <;> simp [changesAt, changeTo, List.filter_cons]

/-- What is reported at the address of a watch comes of that watch, when no two share an address. -/
lemma changesAt_reports (look : Look) {ws : List Watch} (hnodup : (ws.map Watch.address).Nodup)
    {w : Watch} (hw : w ∈ ws) :
    changesAt w.address (ws.flatMap (Watch.report look)) = w.report look := by
  obtain ⟨before, after, rfl⟩ := List.append_of_mem hw
  rw [List.map_append, List.map_cons, List.nodup_middle, List.nodup_cons,
    ← List.map_append] at hnodup
  have hothers : ∀ vs, vs ⊆ before ++ after →
      changesAt w.address (vs.flatMap (Watch.report look)) = [] := by
    intro vs hvs
    rw [changesAt, List.filter_flatMap]
    refine List.flatMap_eq_nil_iff.mpr fun v hv => (changesAt_report look v w.address).trans ?_
    have hother : v.address ≠ w.address := fun hsame =>
      hnodup.1 (hsame ▸ List.mem_map_of_mem (hvs hv))
    rw [if_neg hother]
  rw [List.flatMap_append, List.flatMap_cons, changesAt_append, changesAt_append,
    hothers before (List.subset_append_left _ _), hothers after (List.subset_append_right _ _),
    changesAt_report, if_pos rfl, List.nil_append, List.append_nil]

/-- A watch ends at its address. -/
lemma endingsAt_ending (look : Look) (w : Watch) (address : UInt32) :
    endingsAt address (w.ending look) = if w.address = address then w.ending look else [] := by
  unfold ending
  split
  · simp [endingsAt, List.filter_cons]
  · simp

end Watch

/-- **In a course a sole watch is read again once or not at all**: what the course reports at its
address is what comes of that. When the watch is not in the list, nothing is reported there.

**Proof sketch.** By induction on the course. Where an active watch is read again, it is either the
sole one, or its address is another one, and so is the address of all that it reports. Two courses,
one after the other, read the sole watch again twice at most, which is as good as once. -/
theorem Course.stays {ws ws' : List Watch} {changes : List (String × Change)}
    {endings : List (UInt32 × Fault)} (h : Course look ws changes endings ws')
    (hnodup : (ws.map Watch.address).Nodup) {w : Watch} (hsole : w.Sole ws) :
    ∃ w', w.Stays look (changesAt w.address changes) (endingsAt w.address endings) w' ∧
      w'.Sole ws' := by
  induction h generalizing w with
  | dropped h => exact ⟨w, Watch.Stays.untouched, fun v hv => hsole v (h.subset hv)⟩
  | reread before after hactive =>
    rename_i u
    have hothers : ∀ v, v ∈ before ∨ v ∈ after → v.address ≠ u.address := by
      intro v hv hsame
      rw [List.map_append, List.map_cons, List.nodup_middle, List.nodup_cons] at hnodup
      refine hnodup.1 (hsame ▸ ?_)
      rw [← List.map_append]
      exact List.mem_map_of_mem (List.mem_append.mpr hv)
    rw [Watch.changesAt_report, Watch.endingsAt_ending]
    by_cases haddress : u.address = w.address
    · have hu : u = w := hsole u (List.mem_append_right _ List.mem_cons_self) haddress
      subst hu
      simp only [if_true]
      refine ⟨_, Watch.Stays.reread hactive, ?_⟩
      intro v hv hsame
      rw [Watch.reread_address] at hsame
      rcases List.mem_append.mp hv with hbefore | hrest
      · exact absurd hsame (hothers v (Or.inl hbefore))
      · rcases List.mem_cons.mp hrest with heq | hafter
        · exact heq
        · exact absurd hsame (hothers v (Or.inr hafter))
    · simp only [haddress, if_false]
      refine ⟨w, Watch.Stays.untouched, ?_⟩
      intro v hv hsame
      rcases List.mem_append.mp hv with hbefore | hrest
      · exact hsole v (List.mem_append_left _ hbefore) hsame
      · rcases List.mem_cons.mp hrest with heq | hafter
        · rw [heq, Watch.reread_address] at hsame
          exact absurd hsame haddress
        · exact hsole v (List.mem_append_right _ (List.mem_cons_of_mem _ hafter)) hsame
  | trans h h' ih ih' =>
    obtain ⟨w', hstays, hsole'⟩ := ih hnodup hsole
    obtain ⟨w'', hstays', hsole''⟩ := ih' (hnodup.sublist h.addresses_sublist) hsole'
    refine ⟨w'', ?_, hsole''⟩
    rw [changesAt_append, endingsAt_append]
    rw [hstays.address_eq] at hstays'
    exact hstays.trans hstays'

end GuestWatch
