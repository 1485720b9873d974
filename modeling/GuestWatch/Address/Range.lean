import GuestWatch.Address.Window
import GuestWatch.Fault.Basic

set_option relaxedAutoImplicit false
set_option autoImplicit false

/-!
# Checked ranges

Everything that watches, protects or records memory first checks its range.

## Main definitions

* `GuestWatch.checkRange` — the window holding a range, or the bounds fault that refuses it.

## Main results

* `GuestWatch.checkRange_eq_ok_iff` — a range is accepted into a window exactly when it is not
  empty and the window holds it from its first to its last byte.
* `GuestWatch.checkRange_eq_error_iff` — a refused range is named by the fault.
-/

namespace GuestWatch

/-- The window that holds `[address, address + size)`. The range is refused when it is empty, when
its end is past the last address, and when the window of its first byte does not hold it whole. -/
def checkRange (address size : UInt32) : Except Fault Window :=
  if size.toNat = 0 ∨ UInt32.size ≤ address.toNat + size.toNat then
    .error (.outOfBounds address size)
  else match Window.of? address with
    | some w =>
      if w.containsRange address size then .ok w else .error (.outOfBounds address size)
    | none => .error (.outOfBounds address size)

/-- A range is accepted into a window exactly when it is not empty and lies inside the window.

**Proof sketch.** Both windows end below the last address, so a range inside one of them does not
wrap, and its first byte is owned by that window. -/
theorem checkRange_eq_ok_iff {address size : UInt32} {w : Window} :
    checkRange address size = .ok w ↔
      0 < size.toNat ∧ w.start.toNat ≤ address.toNat ∧ address.toNat + size.toNat ≤ w.stop := by
  have hstop : w.stop < UInt32.size := by cases w <;> decide
  unfold checkRange
  constructor
  · intro h
    split at h
    · simp at h
    · rename_i hok
      split at h
      · rename_i v hv
        split at h
        · rename_i hin
          cases h
          simp only [Window.containsRange, Bool.and_eq_true, decide_eq_true_eq] at hin
          omega
        · simp at h
      · simp at h
  · rintro ⟨hpos, hlo, hhi⟩
    have howner : Window.of? address = some w :=
      Window.of?_eq_some_iff.mpr (Window.contains_iff.mpr ⟨hlo, by omega⟩)
    rw [if_neg (by omega), howner]
    simp [Window.containsRange, hlo, hhi]

/-- The only fault of a range check is a bounds fault naming the range. -/
theorem checkRange_eq_error {address size : UInt32} {fault : Fault}
    (h : checkRange address size = .error fault) : fault = .outOfBounds address size := by
  unfold checkRange at h
  split at h
  · cases h; rfl
  · split at h
    · split at h
      · cases h
      · cases h; rfl
    · cases h; rfl

/-- A range is refused exactly when no window accepts it, and the fault names the range. -/
theorem checkRange_eq_error_iff {address size : UInt32} :
    checkRange address size = .error (.outOfBounds address size) ↔
      ∀ w, checkRange address size ≠ .ok w := by
  constructor
  · intro h w hw
    rw [h] at hw
    cases hw
  · intro h
    cases hc : checkRange address size with
    | ok w => exact absurd hc (h w)
    | error fault => rw [checkRange_eq_error hc]

end GuestWatch
