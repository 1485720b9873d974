import GuestWatch.Proofs.Monitor.Moves
import GuestWatch.Proofs.Monitor.Passes

set_option relaxedAutoImplicit false
set_option autoImplicit false

/-!
# What operations leave of the memory

The monitor reads the memory, puts its intercepts over it and switches its write protection, but it
stores nothing in it. Whatever an operation that settles does to the memory, the bytes stay, and so
does what was made to fail: the reads at an address and the check of a range. Memories that agree in
these answer the host and the guest alike.

## Main definitions

* `GuestWatch.Ram.Agrees` — two memories with the same bytes, failing reads and rejected ranges.

## Main results

* `GuestWatch.Monitor.Move.agrees`, `GuestWatch.Monitor.Path.agrees` — the memory within an operation
  that settles agrees with the one before.
-/

namespace GuestWatch

namespace Ram

/-- Two memories with the same bytes, the same failing addresses and the same rejected ranges. -/
structure Agrees (a b : Ram) : Prop extends Alike a b where
  /-- The check fails for the same ranges. -/
  rejected : a.rejected = b.rejected

@[refl] lemma Agrees.refl (a : Ram) : a.Agrees a := ⟨Alike.refl a, rfl⟩

lemma Agrees.symm {a b : Ram} (h : a.Agrees b) : b.Agrees a := ⟨h.toAlike.symm, h.rejected.symm⟩

lemma Agrees.trans {a b c : Ram} (h : a.Agrees b) (h' : b.Agrees c) : a.Agrees c :=
  ⟨h.toAlike.trans h'.toAlike, h.rejected.trans h'.rejected⟩

/-- The same byte is stored at each address. -/
lemma Agrees.byteAt_eq {a b : Ram} (h : a.Agrees b) : a.byteAt = b.byteAt := by
  funext address
  rw [byteAt, byteAt, h.cells]

/-- Counting raw reads is no matter of the contents. -/
lemma Recounted.agrees {a b : Ram} (h : a.Recounted b) : a.Agrees b := by
  refine ⟨h.alike, ?_⟩
  obtain ⟨count, rfl⟩ := h
  rfl

end Ram

namespace Monitor

/-- Switching hardcore mode switches the protection of the memory at most. -/
lemma agrees_switchHardcore (m : Monitor) (on : Bool) :
    (m.switchHardcore on).state.ram.Agrees m.ram := by
  simp only [switchHardcore, Hardcore.setEnabled]
  split <;> exact ⟨⟨rfl, rfl⟩, rfl⟩

/-- Dropping the game leaves the memory alone. -/
lemma ram_unloadGame (m : Monitor) : m.unloadGame.state.ram = m.ram := by
  unfold unloadGame
  split <;> rfl

/-- So does the end of the session. -/
lemma ram_endSession (m : Monitor) : m.endSession.state.ram = m.ram := ram_unloadGame _

lemma agrees_carryOut (m : Monitor) (command : Command) :
    (m.carryOut command).state.ram.Agrees m.ram := by
  cases command with
  | setHardcore on => exact agrees_switchHardcore m on
  | unloadGame =>
    rw [carryOut, ram_unloadGame]
  | disableAchievements =>
    rw [carryOut, ram_endSession]
  | _ => exact Ram.Agrees.refl m.ram

/-- Intercepts stand over the memory and are no part of its contents. -/
lemma agrees_installIntercepts (m : Monitor) : m.installIntercepts.state.ram.Agrees m.ram := by
  obtain ⟨reads, writes, installed, hstate⟩ := m.installIntercepts_frame
  rw [hstate]
  exact ⟨⟨rfl, rfl⟩, rfl⟩

/-- A move within an operation that settles leaves a memory that agrees with the one before. -/
lemma Move.agrees {op : MonitorOp} {m m' : Monitor} {j : Journal} (h : Move op m j m')
    (hsettles : op.settles = true) : m'.ram.Agrees m.ram := by
  cases h with
  | carried h => exact agrees_carryOut _ _
  | notified address size => exact (recounted_notify m address size).agrees
  | polled => exact (recounted_poll m).agrees
  | installed => exact agrees_installIntercepts m
  | switched on => exact agrees_switchHardcore m on
  | ended =>
    rw [ram_endSession]
  | direct h =>
    rw [hsettles] at h
    cases h
  | _ => exact Ram.Agrees.refl m.ram

/-- **Within an operation that settles** the memory keeps agreeing with the one before. -/
theorem Path.agrees {op : MonitorOp} {m m' : Monitor} {j : Journal} (h : Path op m j m')
    (hsettles : op.settles = true) : m'.ram.Agrees m.ram := by
  induction h with
  | refl m => exact Ram.Agrees.refl m.ram
  | cons head tail ih => exact ih.trans (head.agrees hsettles)

end Monitor

end GuestWatch
