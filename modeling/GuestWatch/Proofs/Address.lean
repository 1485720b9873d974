import GuestWatch.Address.Range
import GuestWatch.Word
import Mathlib.Tactic.Lemma

set_option relaxedAutoImplicit false
set_option autoImplicit false

/-!
# Legal ranges

The check of a range computes with addresses that wrap and looks at the window of the first byte.
What it decides is said here without either: whether one of the windows holds the range. That is the
same as whether the window owns each of its addresses, because a window has no gaps.

## Main definitions

* `GuestWatch.Legal` — a range that is not empty, does not wrap and lies inside one window.
* `GuestWatch.Holds` — an address of a range, computed without wrapping.
* `GuestWatch.Window.Owns` — a number that is an address of a window.
* `GuestWatch.Crosses` — a range with addresses on both sides of an edge.

## Main results

* `GuestWatch.legal_iff` — the legal ranges are those that the check accepts.
* `GuestWatch.checkRange_eq_ok_iff_owns` — a window accepts the ranges of which it owns each address.
* `GuestWatch.checkRange_pointwise` — the check of a range, address by address.
-/

namespace GuestWatch

/-- A range that is not empty, does not wrap and lies inside one window. -/
structure Legal (address size : UInt32) : Prop where
  /-- It holds a byte. -/
  pos : 0 < size.toNat
  /-- It ends before the addresses do. -/
  fits : address.toNat + size.toNat < UInt32.size
  /-- A window holds it. -/
  inside : ∃ w : Window, w.start.toNat ≤ address.toNat ∧ address.toNat + size.toNat ≤ w.stop

/-- A range is legal when some window accepts it. -/
lemma legal_iff {address size : UInt32} :
    Legal address size ↔ ∃ w, checkRange address size = .ok w := by
  constructor
  · rintro ⟨hpos, -, w, hlow, hhigh⟩
    exact ⟨w, checkRange_eq_ok_iff.mpr ⟨hpos, hlow, hhigh⟩⟩
  · rintro ⟨w, hrange⟩
    obtain ⟨hpos, hlow, hhigh⟩ := checkRange_eq_ok_iff.mp hrange
    have hstop : w.stop < UInt32.size := by cases w <;> decide
    exact ⟨hpos, by omega, w, hlow, hhigh⟩

/-- Whether a range is legal can be decided: by the check. -/
instance (address size : UInt32) : Decidable (Legal address size) :=
  match h : checkRange address size with
  | .ok w => isTrue (legal_iff.mpr ⟨w, h⟩)
  | .error fault => isFalse fun hlegal => by
    obtain ⟨w, hw⟩ := legal_iff.mp hlegal
    rw [h] at hw
    cases hw

/-- The bytes of a legal range are at the addresses from its first one on. -/
lemma Legal.toNat_offset {address size : UInt32} (h : Legal address size) {i : Nat}
    (hi : i < size.toNat) : (address + UInt32.ofNat i).toNat = address.toNat + i := by
  have hfits := h.fits
  have hsize : UInt32.size = 4294967296 := rfl
  have hsmall : i < UInt32.size := by omega
  rw [UInt32.toNat_add, UInt32.toNat_ofNat', Nat.mod_eq_of_lt hsmall, Nat.mod_eq_of_lt (by omega)]

/-- The end of a legal range is computed without saturating. -/
lemma Legal.toNat_satAdd {address size : UInt32} (h : Legal address size) :
    (Word.satAdd address size).toNat = address.toNat + size.toNat := by
  have hfits := h.fits
  rw [Word.toNat_satAdd]
  omega

/-! ## Address by address -/

/-- The range `[address, address + size)` holds a number, where the end is computed without
wrapping. -/
def Holds (address size : UInt32) (x : Nat) : Prop :=
  address.toNat ≤ x ∧ x < address.toNat + size.toNat

/-- A range holds numbers on both sides of an edge: one below it, and one at or above it. -/
def Crosses (address size : UInt32) (edge : Nat) : Prop :=
  ∃ x y, Holds address size x ∧ Holds address size y ∧ x < edge ∧ edge ≤ y

namespace Window

/-- A number is an address, and one that a window owns. -/
def Owns (w : Window) (x : Nat) : Prop := ∃ place : UInt32, place.toNat = x ∧ of? place = some w

/-- A window owns all numbers from its start up to its stop: it ends below the last address, so each
of them is an address. -/
lemma owns_iff {w : Window} {x : Nat} : w.Owns x ↔ w.start.toNat ≤ x ∧ x < w.stop := by
  have hstop : w.stop < UInt32.size := by cases w <;> decide
  constructor
  · rintro ⟨place, rfl, howner⟩
    exact contains_iff.mp (of?_eq_some_iff.mp howner)
  · intro hinside
    have hsmall : x < UInt32.size := by omega
    have hplace : (UInt32.ofNat x).toNat = x := by
      rw [UInt32.toNat_ofNat', Nat.mod_eq_of_lt hsmall]
    refine ⟨UInt32.ofNat x, hplace, of?_eq_some_iff.mpr (contains_iff.mpr ?_)⟩
    rw [hplace]
    exact hinside

/-- No address has two owners. -/
lemma Owns.unique {v w : Window} {x : Nat} (hv : v.Owns x) (hw : w.Owns x) : v = w := by
  obtain ⟨place, rfl, hplace⟩ := hv
  obtain ⟨place', hsame, hplace'⟩ := hw
  rw [UInt32.toNat_inj.mp hsame, hplace] at hplace'
  exact Option.some.inj hplace'

/-- No window starts or stops inside a window. -/
lemma edges_apart (v w : Window) :
    (v.start.toNat ≤ w.start.toNat ∨ w.stop ≤ v.start.toNat) ∧
      (v.stop ≤ w.start.toNat ∨ w.stop ≤ v.stop) := by
  cases v <;> cases w <;> decide

end Window

variable {address size : UInt32} {w : Window}

/-- **A window accepts the ranges of which it owns each address**, and of these all but the empty
ones: the first and the last address of a range tell that the window holds what is between them. -/
theorem checkRange_eq_ok_iff_owns :
    checkRange address size = .ok w ↔ 0 < size.toNat ∧ ∀ x, Holds address size x → w.Owns x := by
  rw [checkRange_eq_ok_iff]
  constructor
  · rintro ⟨hpos, hlow, hhigh⟩
    refine ⟨hpos, fun x hx => Window.owns_iff.mpr ?_⟩
    unfold Holds at hx
    omega
  · rintro ⟨hpos, howns⟩
    have hfirst : Holds address size address.toNat := by
      unfold Holds
      omega
    have hlast : Holds address size (address.toNat + size.toNat - 1) := by
      unfold Holds
      omega
    have hlow := Window.owns_iff.mp (howns _ hfirst)
    have hhigh := Window.owns_iff.mp (howns _ hlast)
    omega

/-- What a range crosses lies inside the window that accepts it. -/
lemma inside_of_crosses {edge : Nat} (h : checkRange address size = .ok w)
    (hcrosses : Crosses address size edge) : w.start.toNat < edge ∧ edge < w.stop := by
  obtain ⟨-, howns⟩ := checkRange_eq_ok_iff_owns.mp h
  obtain ⟨x, y, hx, hy, hbelow, habove⟩ := hcrosses
  have hxinside := Window.owns_iff.mp (howns x hx)
  have hyinside := Window.owns_iff.mp (howns y hy)
  omega

/-- A range that a window accepts crosses no edge of any window. -/
lemma not_crosses_of_checkRange (h : checkRange address size = .ok w) (v : Window) :
    ¬Crosses address size v.start.toNat ∧ ¬Crosses address size v.stop := by
  obtain ⟨hstart, hstop⟩ := Window.edges_apart v w
  constructor
  · intro hcrosses
    have hinside := inside_of_crosses h hcrosses
    omega
  · intro hcrosses
    have hinside := inside_of_crosses h hcrosses
    omega

/-- **The check of a range, address by address.** A range is accepted into a window exactly when it
is not empty and each of its addresses, computed without wrapping, is an address that the window
owns. When no window owns them all, the range is refused with the fault that names it. So each range
that is not empty and lies inside an accepted one is accepted into the same window, and a range that
is accepted crosses no edge of a window, has no address in another window, and ends before the
addresses do.

**Proof sketch.** A window owns all addresses between two of its own, so the first and the last one
decide. The windows are apart from one another and end below the last address. -/
theorem checkRange_pointwise (address size : UInt32) :
    (∀ w, checkRange address size = .ok w ↔
      0 < size.toNat ∧ ∀ x, Holds address size x → w.Owns x) ∧
    ((∀ w : Window, ¬(0 < size.toNat ∧ ∀ x, Holds address size x → w.Owns x)) ↔
      checkRange address size = .error (.outOfBounds address size)) ∧
    ∀ w, checkRange address size = .ok w →
      (∀ a n : UInt32, 0 < n.toNat → (∀ x, Holds a n x → Holds address size x) →
        checkRange a n = .ok w) ∧
      (∀ v : Window, ¬Crosses address size v.start.toNat ∧ ¬Crosses address size v.stop) ∧
      (∀ x (v : Window), Holds address size x → v.Owns x → v = w) ∧
      address.toNat + size.toNat < UInt32.size := by
  refine ⟨fun w => checkRange_eq_ok_iff_owns, ?_, fun w hrange => ?_⟩
  · rw [checkRange_eq_error_iff]
    exact forall_congr' fun w => not_congr checkRange_eq_ok_iff_owns.symm
  · obtain ⟨-, howns⟩ := checkRange_eq_ok_iff_owns.mp hrange
    refine ⟨fun a n hpos hinside => ?_, not_crosses_of_checkRange hrange,
      fun x v hx hv => hv.unique (howns x hx), (legal_iff.mpr ⟨w, hrange⟩).fits⟩
    exact checkRange_eq_ok_iff_owns.mpr ⟨hpos, fun x hx => howns x (hinside x hx)⟩

/-- The last four bytes of the scratchpad are accepted, and so is the last of them alone. Of four
bytes from the address before the last one, no window owns all, nor of a range that wraps. A range
without a byte is refused. -/
theorem checkRange_pointwise_brink :
    checkRange 0x70003ffc 4 = .ok .scratchpad ∧ 0 < (1 : UInt32).toNat ∧
      (∀ x, Holds 0x70003fff 1 x → Holds 0x70003ffc 4 x) ∧
      checkRange 0x70003fff 1 = .ok .scratchpad ∧
      ¬Crosses 0x70003ffc 4 Window.scratchpad.stop ∧
      (∀ w : Window, ¬(0 < (4 : UInt32).toNat ∧ ∀ x, Holds 0x70003ffe 4 x → w.Owns x)) ∧
      (∀ w : Window, ¬(0 < (0x20 : UInt32).toNat ∧ ∀ x, Holds 0xfffffff0 0x20 x → w.Owns x)) ∧
      checkRange 0x1000 0 = .error (.outOfBounds 0x1000 0) := by
  have hrange : checkRange 0x70003ffc 4 = .ok .scratchpad := rfl
  obtain ⟨hparts, hedges, -, -⟩ := (checkRange_pointwise 0x70003ffc 4).2.2 _ hrange
  have hlast : ∀ x, Holds 0x70003fff 1 x → Holds 0x70003ffc 4 x := by
    intro x hx
    simp only [Holds, UInt32.reduceToNat] at hx ⊢
    omega
  refine ⟨hrange, by decide, hlast, hparts _ _ (by decide) hlast, (hedges .scratchpad).2,
    (checkRange_pointwise 0x70003ffe 4).2.1.mpr rfl,
    (checkRange_pointwise 0xfffffff0 0x20).2.1.mpr rfl, ?_⟩
  exact (checkRange_pointwise 0x1000 0).2.1.mp fun w howns => absurd howns.1 (by decide)

end GuestWatch
