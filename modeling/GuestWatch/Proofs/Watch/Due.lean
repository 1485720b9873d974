import GuestWatch.Proofs.Watch.Refresh
import Mathlib.Data.List.Perm.Basic

set_option relaxedAutoImplicit false
set_option autoImplicit false

/-!
# What watches are due to report

As long as the memory stays as it is, it is settled what each active watch will report when it is
next read again, and that it will report nothing after that. So passes over the watches keep a
balance: what was reported so far and what is still due make up what was due at first.

## Main definitions

* `GuestWatch.Watch.due`, `GuestWatch.Watch.doomed`, `GuestWatch.Watch.settled` — the change an
  active watch is due to report, the end it is due to come to, and the watch after that.
* `GuestWatch.Balanced` — the balance between two lists of watches.

## Main results

* `GuestWatch.WatchList.Pass.balanced` — a pass over active watches keeps the balance.
* `GuestWatch.WatchList.Pass.settles` — a pass over all active watches leaves nothing due.
-/

namespace GuestWatch

namespace Watch

/-- The change an active watch is due to report, with the name of its callback. -/
def due (look : Look) (w : Watch) : List (String × Change) :=
  if w.active then w.report look else []

/-- The end an active watch is due to come to, with the fault. -/
def doomed (look : Look) (w : Watch) : List (UInt32 × Fault) :=
  if w.active then w.ending look else []

/-- The watch after it was read again, if it is active. -/
def settled (look : Look) (w : Watch) : Watch := if w.active then w.reread look else w

/-- After an active watch was read again nothing is due. -/
lemma settled_reread (look : Look) (w : Watch) :
    (w.reread look).due look = [] ∧ (w.reread look).doomed look = [] ∧
      (w.reread look).settled look = w.reread look := by
  by_cases hactive : (w.reread look).active = true
  · obtain ⟨hwatch, hreport, hending, -⟩ := reread_of_same (look_reread hactive)
    simp only [due, doomed, settled, hactive, if_true]
    exact ⟨hreport, hending, hwatch⟩
  · simp only [due, doomed, settled, hactive]
    exact ⟨rfl, rfl, rfl⟩

/-- An active watch is due to report one change or none, at its address. -/
lemma due_sublist (look : Look) (w : Watch) :
    ((w.due look).map fun told => told.2.address).Sublist [w.address] := by
  unfold due report
  split
  · split
    · exact List.nil_sublist _
    · split
      · exact List.nil_sublist _
      · cases w.callback with
        | none => exact List.nil_sublist _
        | some c => exact List.Sublist.refl _
  · exact List.nil_sublist _

/-- An active watch is due to come to one end or none, at its address. -/
lemma doomed_sublist (look : Look) (w : Watch) :
    ((w.doomed look).map Prod.fst).Sublist [w.address] := by
  unfold doomed ending
  split
  · split
    · exact List.Sublist.refl _
    · exact List.nil_sublist _
  · exact List.nil_sublist _

/-- Where each watch owes one thing or none, at its address, no two things are owed at one address.
-/
lemma nodup_owed {α : Type} {owed : Watch → List α} {place : α → UInt32}
    (h : ∀ w, ((owed w).map place).Sublist [w.address]) {ws : List Watch}
    (hnodup : (ws.map Watch.address).Nodup) : ((ws.flatMap owed).map place).Nodup := by
  refine hnodup.sublist ?_
  clear hnodup
  induction ws with
  | nil => exact List.Sublist.refl _
  | cons w rest ih =>
    rw [List.flatMap_cons, List.map_append, List.map_cons]
    exact (h w).append ih

end Watch

open Watch

/-- What was reported and what is still due make up what was due at first. -/
structure Balanced (look : Look) (ws : List Watch) (changes : List (String × Change))
    (endings : List (UInt32 × Fault)) (ws' : List Watch) : Prop where
  /-- The watches settle alike. -/
  settled : ws'.map (settled look) = ws.map (settled look)
  /-- The changes that were reported and those still due. -/
  changes : (changes ++ ws'.flatMap (due look)).Perm (ws.flatMap (due look))
  /-- The watches that ended and those still due to end. -/
  endings : (endings ++ ws'.flatMap (doomed look)).Perm (ws.flatMap (doomed look))

variable {look : Look} {ws ws' ws'' : List Watch} {changes changes' : List (String × Change)}
  {endings endings' : List (UInt32 × Fault)}

lemma Balanced.refl (look : Look) (ws : List Watch) : Balanced look ws [] [] ws :=
  ⟨rfl, List.Perm.refl _, List.Perm.refl _⟩

lemma Balanced.trans (h : Balanced look ws changes endings ws')
    (h' : Balanced look ws' changes' endings' ws'') :
    Balanced look ws (changes ++ changes') (endings ++ endings') ws'' := by
  refine ⟨h'.settled.trans h.settled, ?_, ?_⟩
  · rw [List.append_assoc]
    exact (h'.changes.append_left changes).trans h.changes
  · rw [List.append_assoc]
    exact (h'.endings.append_left endings).trans h.endings

namespace WatchList

variable {hit : Watch → Bool} {j : Journal}

/-- When the watches that are hit are told what they owe and owe nothing afterwards, what is told
and what is still owed make up what was owed. -/
lemma perm_owed {α : Type} {owed told : Watch → List α} {after : Watch → Watch}
    (h : ∀ w ∈ ws, hit w = true → told w = owed w ∧ owed (after w) = []) :
    ((ws.flatMap fun w => if hit w then told w else [])
        ++ (ws.map fun w => if hit w then after w else w).flatMap owed).Perm
      (ws.flatMap owed) := by
  rw [List.flatMap_map]
  refine (List.flatMap_append_perm _ _ _).trans (List.Perm.of_eq ?_)
  refine List.flatMap_congr fun w hw => ?_
  by_cases hhit : hit w = true
  · obtain ⟨htold, hafter⟩ := h w hw hhit
    rw [if_pos hhit, if_pos hhit, htold, hafter, List.append_nil]
  · rw [if_neg hhit, if_neg hhit, List.nil_append]

/-- **A pass over active watches keeps the balance.**

**Proof sketch.** Watch by watch: one that the pass hits reports what it was due to report, and owes
nothing afterwards; one that it misses owes what it owed. -/
theorem Pass.balanced (h : Pass look hit ws ws' j)
    (hactive : ∀ w ∈ ws, hit w = true → w.active = true) :
    Balanced look ws j.changes j.endings ws' := by
  rw [h.watches, h.changes, h.endings]
  refine ⟨?_, ?_, ?_⟩
  · rw [List.map_map]
    refine List.map_congr_left fun w hw => ?_
    by_cases hhit : hit w = true
    · simp only [Function.comp_apply, hhit, if_true, (settled_reread look w).2.2]
      simp only [Watch.settled, hactive w hw hhit, if_true]
    · simp only [Function.comp_apply, hhit]
      rfl
  · refine perm_owed fun w hw hhit => ⟨?_, (settled_reread look w).1⟩
    simp only [due, hactive w hw hhit, if_true]
  · refine perm_owed fun w hw hhit => ⟨?_, (settled_reread look w).2.1⟩
    simp only [doomed, hactive w hw hhit, if_true]

/-- What a function yields for active watches only comes from the active ones. -/
lemma flatMap_filter_active {α : Type} (f : Watch → List α) (ws : List Watch) :
    (ws.filter Watch.active).flatMap f = ws.flatMap fun w => if w.active then f w else [] := by
  induction ws with
  | nil => rfl
  | cons w rest ih =>
    rw [List.filter_cons, List.flatMap_cons, ← ih]
    cases w.active <;> rfl

/-- **A pass over all active watches leaves nothing due**: it reports all that was due, and the
watches that are active afterwards are the settled ones, which have seen what the memory holds. -/
theorem Pass.settles (h : Pass look (fun _ => true) (ws.filter Watch.active) ws' j) :
    j.changes = ws.flatMap (due look) ∧ j.endings = ws.flatMap (doomed look) ∧
      ws'.filter Watch.active = (ws.map (settled look)).filter Watch.active ∧
      ∀ w ∈ ws'.filter Watch.active, look w.address w.size = .ok w.lastValue := by
  refine ⟨?_, ?_, ?_, ?_⟩
  · rw [h.changes]
    exact flatMap_filter_active _ ws
  · rw [h.endings]
    exact flatMap_filter_active _ ws
  · rw [h.watches]
    clear h
    induction ws with
    | nil => rfl
    | cons w rest ih =>
      by_cases hactive : w.active = true
      · simp only [List.filter_cons_of_pos hactive, List.map_cons, if_true] at ih ⊢
        simp only [Watch.settled, hactive, if_true]
        rw [List.filter_cons, List.filter_cons, ih]
      · simp only [List.filter_cons_of_neg hactive, List.map_cons] at ih ⊢
        simp only [Watch.settled, hactive]
        rw [ih]
        exact (List.filter_cons_of_neg hactive).symm
  · intro w hw
    obtain ⟨hmem, hactive⟩ := List.mem_filter.mp hw
    rw [h.watches] at hmem
    obtain ⟨u, -, rfl⟩ := List.mem_map.mp hmem
    exact look_reread hactive

end WatchList

end GuestWatch
