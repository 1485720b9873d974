import GuestWatch.Journal.Basic

set_option relaxedAutoImplicit false
set_option autoImplicit false

/-!
# Intercepts

A memory has two lists of intercept slots, one for guest loads and one for guest stores. A slot
covers a range and holds a handler or none. An access runs the handler of one slot: among the slots
that cover its address, the one of greatest priority, and the last installed among equals.

## Main definitions

* `GuestWatch.Hook` — an intercept of the host: any function of the history of its calls.
* `GuestWatch.Handler` — what a slot may hold: a hook, a capture for the monitor, or nothing but the
  value passed through.
* `GuestWatch.Slot` — a covered range with its priority and handler.
* `GuestWatch.Slot.install` — installs a slot, in the place of one with the same bounds.
* `GuestWatch.Slot.winner?` — the slot that answers for an address.
* `GuestWatch.Slot.dispatch` — runs the handler that answers for an access.

## Main results

* `GuestWatch.Slot.winner?_isSome_iff` — a slot answers exactly when some slot covers the address.
-/

namespace GuestWatch

/-- An intercept of the host. The value the access is to see may depend on all calls so far. -/
structure Hook where
  /-- The name under which its calls are reported. -/
  name : String
  /-- The value the first of these accesses is to see, newest first, each with its address. -/
  answer : List (UInt32 × UInt32) → UInt32
  /-- The calls so far, newest first. -/
  history : List (UInt32 × UInt32) := []

/-- The hook that flips the bits of a mask. -/
def Hook.flip (name : String) (mask : UInt32) : Hook where
  name := name
  answer
    | [] => 0
    | access :: _ => access.2 ^^^ mask

/-- What an intercept slot may hold. -/
inductive Handler where
  /-- Reports accesses of one kind to the monitor, no wider than the window goes on. -/
  | capture (window : Window) (kind : Direction)
  /-- Does nothing. -/
  | passThrough
  /-- Runs a hook of the host. -/
  | host (hook : Hook)

/-- What running a handler does. -/
structure Handled where
  /-- The value the access sees. -/
  value : UInt32
  /-- The handler afterwards. -/
  handler : Handler
  /-- The report of a hook's call. -/
  events : List Event := []
  /-- The access that is reported to the monitor. -/
  captured : Option Access := none

/-- How many bytes, at most four, an intercepted access at an address is taken to touch. -/
def Window.clip (w : Window) (address : UInt32) : UInt32 :=
  UInt32.ofNat (min 4 (w.stop - address.toNat))

/-- Runs a handler on an access. -/
def Handler.run (address value : UInt32) : Handler → Handled
  | capture window kind =>
    { value, handler := capture window kind
      captured := some ⟨address, window.clip address, value, kind⟩ }
  | passThrough => { value, handler := passThrough }
  | host hook =>
    let history := (address, value) :: hook.history
    { value := hook.answer history
      handler := host { hook with history }
      events := [.intercepted hook.name address value history.length] }

/-- A range of addresses with the handler of accesses to it. -/
structure Slot where
  /-- The first covered address. -/
  start : UInt32
  /-- The number of covered bytes. -/
  size : UInt32
  /-- Which of several covering slots answers. -/
  priority : UInt32
  /-- The handler; a slot without one lets accesses through. -/
  handler : Option Handler

namespace Slot

/-- Whether a slot covers an address. -/
def covers (slot : Slot) (address : UInt32) : Bool :=
  slot.start.toNat ≤ address.toNat && address.toNat < slot.start.toNat + slot.size.toNat

/-- Whether a slot covers exactly `[start, start + size)`. -/
def hasBounds (slot : Slot) (start size : UInt32) : Bool :=
  slot.start == start && slot.size == size

/-- Installs a slot: in the place of the first one with the same bounds, or at the end. -/
def install (slot : Slot) : List Slot → List Slot
  | [] => [slot]
  | other :: rest =>
    if other.hasBounds slot.start slot.size then slot :: rest else other :: install slot rest

/-- The slot that answers for an address: of greatest priority among those that cover it, and the
last of those. -/
def winner? (address : UInt32) : List Slot → Option Slot
  | [] => none
  | slot :: rest =>
    match winner? address rest with
    | some best =>
      if slot.covers address && best.priority < slot.priority then some slot else some best
    | none => if slot.covers address then some slot else none

/-- The number of slots that hold a handler. -/
def installed (slots : List Slot) : Nat := slots.countP fun slot => slot.handler.isSome

/-- What an access to slots does. -/
structure Dispatched where
  /-- The value the access sees. -/
  value : UInt32
  /-- The slots afterwards. -/
  slots : List Slot
  /-- The reports of hook calls. -/
  events : List Event := []
  /-- The access that is reported to the monitor. -/
  captured : Option Access := none

/-- Runs the handler that answers for an access. Without one the value goes through. -/
def dispatch (address value : UInt32) (slots : List Slot) : Dispatched :=
  match winner? address slots with
  | none => { value, slots }
  | some slot =>
    match slot.handler with
    | none => { value, slots }
    | some handler =>
      let handled := handler.run address value
      { value := handled.value
        slots := install { slot with handler := some handled.handler } slots
        events := handled.events
        captured := handled.captured }

/-- A slot answers for an address exactly when some slot covers it. -/
theorem winner?_isSome_iff {address : UInt32} {slots : List Slot} :
    (winner? address slots).isSome = true ↔ ∃ slot ∈ slots, slot.covers address = true := by
  induction slots with
  | nil => simp [winner?]
  | cons slot rest ih =>
    cases hw : winner? address rest with
    | some best =>
      have hcov : ∃ s ∈ rest, s.covers address = true := ih.mp (by simp [hw])
      obtain ⟨s, hs, hc⟩ := hcov
      simp only [winner?, hw]
      refine ⟨fun _ => ⟨s, List.mem_cons_of_mem _ hs, hc⟩, fun _ => ?_⟩
      split <;> rfl
    | none =>
      have hnone : ¬ ∃ s ∈ rest, s.covers address = true := fun h => by simpa [hw] using ih.mpr h
      simp only [winner?, hw, List.mem_cons]
      by_cases hc : slot.covers address = true
      · simp only [hc, if_true, Option.isSome_some, true_iff]
        exact ⟨slot, Or.inl rfl, hc⟩
      · simp only [hc, Bool.false_eq_true, if_false, Option.isSome_none, false_iff]
        rintro ⟨s, rfl | hs, hs'⟩
        · exact hc hs'
        · exact hnone ⟨s, hs, hs'⟩

end Slot

end GuestWatch
