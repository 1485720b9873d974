import GuestWatch.Proofs.Memory.Slots

set_option relaxedAutoImplicit false
set_option autoImplicit false

/-!
# Vacant slots

To remove a handler, a slot without one is installed in its place. The slot stays in the list and
still competes with the others for the accesses to its range. Where it wins, an access that another
slot would have handled is let through: the vacant slot shadows it. At all other addresses the list
serves accesses as if the slot had never been there.

## Main definitions

* `GuestWatch.Slot.responder?` — the handler that runs on an access.
* `GuestWatch.Slot.without` — the slots but those with certain bounds.
* `GuestWatch.Slot.Distinct`, `GuestWatch.Slot.Vacant` — no two slots have the same bounds, and
  those with certain bounds have no handler.
* `GuestWatch.Slot.Shadowed` — the addresses at which a slot with certain bounds keeps another one
  from its accesses.
* `GuestWatch.Ram.trace` — what operations on a memory answer and report.
* `GuestWatch.Ram.Vacated` — a memory in which the slots with certain bounds are vacant.

## Main results

* `GuestWatch.Slot.responder?_eq_iff` — the same handler runs at exactly the addresses that are not
  shadowed.
* `GuestWatch.Slot.dispatch_without` — an access to an address that is not shadowed.
* `GuestWatch.Ram.step_without`, `GuestWatch.Ram.trace_without` — operations, and sequences of them,
  without the vacant slots.
-/

namespace GuestWatch

namespace Slot

/-- The bounds of a slot. -/
def bounds (slot : Slot) : UInt32 × UInt32 := (slot.start, slot.size)

/-- The handler that runs on an access at an address. -/
def responder? (address : UInt32) (slots : List Slot) : Option Handler :=
  (winner? address slots).bind Slot.handler

/-- The slots but those with certain bounds. -/
def without (gone : List (UInt32 × UInt32)) (slots : List Slot) : List Slot :=
  slots.filter fun slot => !gone.contains slot.bounds

/-- No two slots have the same bounds. -/
def Distinct (slots : List Slot) : Prop := (slots.map bounds).Nodup

/-- No slot with certain bounds has a handler. -/
def Vacant (gone : List (UInt32 × UInt32)) (slots : List Slot) : Prop :=
  ∀ slot ∈ slots, slot.bounds ∈ gone → slot.handler = none

/-- An address is shadowed where a slot with certain bounds answers for it, although without these
slots a handler would run. -/
def Shadowed (gone : List (UInt32 × UInt32)) (slots : List Slot) (address : UInt32) : Prop :=
  (∃ slot, winner? address slots = some slot ∧ slot.bounds ∈ gone) ∧
    (responder? address (without gone slots)).isSome = true

variable {gone : List (UInt32 × UInt32)} {slots : List Slot} {slot : Slot} {address : UInt32}

/-! ## Bounds -/

lemma hasBounds_iff {other : Slot} :
    other.hasBounds slot.start slot.size = true ↔ other.bounds = slot.bounds := by
  simp only [hasBounds, bounds, Bool.and_eq_true, beq_iff_eq, Prod.mk.injEq]

/-- A slot is installed in the place of the first one with its bounds. -/
lemma install_cons (slot first : Slot) (rest : List Slot) :
    install slot (first :: rest) =
      if first.bounds = slot.bounds then slot :: rest else first :: install slot rest := by
  rw [install]
  simp only [hasBounds_iff]

lemma without_cons (gone : List (UInt32 × UInt32)) (first : Slot) (rest : List Slot) :
    without gone (first :: rest) =
      if first.bounds ∈ gone then without gone rest else first :: without gone rest := by
  by_cases hgone : first.bounds ∈ gone <;> simp [without, hgone]

lemma mem_without {other : Slot} :
    other ∈ without gone slots ↔ other ∈ slots ∧ other.bounds ∉ gone := by
  simp only [without, List.mem_filter, Bool.not_eq_true', List.contains_eq_mem,
    decide_eq_false_iff_not]

/-- A slot with bounds that are there already keeps the bounds as they are, and another one adds its
own. -/
lemma bounds_install (slot : Slot) (slots : List Slot) :
    (install slot slots).map bounds =
      if slot.bounds ∈ slots.map bounds then slots.map bounds
      else slots.map bounds ++ [slot.bounds] := by
  induction slots with
  | nil => rfl
  | cons first rest ih =>
    rw [install_cons]
    by_cases hsame : first.bounds = slot.bounds
    · simp only [hsame, if_true, List.map_cons, List.mem_cons, true_or]
    · simp only [hsame, Ne.symm hsame, if_false, List.map_cons, ih, List.mem_cons, false_or]
      split <;> rfl

/-- Installing a slot keeps bounds distinct. -/
lemma Distinct.install (h : Distinct slots) (slot : Slot) : Distinct (install slot slots) := by
  rw [Distinct, bounds_install]
  split
  · exact h
  · rename_i hnew
    exact List.nodup_append.mpr ⟨h, by simp, fun a ha b hb hab =>
      hnew (List.mem_singleton.mp hb ▸ hab ▸ ha)⟩

/-- Where bounds are distinct, the slot that was installed is the only one with its bounds. -/
lemma eq_of_mem_install (h : Distinct slots) {other : Slot}
    (hmem : other ∈ install slot slots) (hbounds : other.bounds = slot.bounds) : other = slot := by
  induction slots with
  | nil => exact List.mem_singleton.mp hmem
  | cons first rest ih =>
    obtain ⟨hfirst, hrest⟩ := List.nodup_cons.mp h
    rw [install_cons] at hmem
    split at hmem
    · rename_i hsame
      rcases List.mem_cons.mp hmem with rfl | hold
      · rfl
      · -- a second slot with these bounds would not be distinct from the first
        have hagain : other.bounds ∈ rest.map bounds := List.mem_map_of_mem hold
        rw [hbounds, ← hsame] at hagain
        exact absurd hagain hfirst
    · rename_i hother
      rcases List.mem_cons.mp hmem with rfl | hold
      · exact absurd hbounds hother
      · exact ih hrest hold

/-- Installing a slot and leaving out others may be done in either order. -/
lemma without_install_of_notMem (h : slot.bounds ∉ gone) :
    without gone (install slot slots) = install slot (without gone slots) := by
  induction slots with
  | nil =>
    rw [install, without_cons, if_neg h]
    rfl
  | cons first rest ih =>
    rw [install_cons, without_cons]
    by_cases hsame : first.bounds = slot.bounds
    · have hfirst : first.bounds ∉ gone := hsame ▸ h
      rw [if_pos hsame, if_neg hfirst, without_cons, if_neg h, install_cons, if_pos hsame]
    · rw [if_neg hsame, without_cons, ih]
      by_cases hfirst : first.bounds ∈ gone
      · rw [if_pos hfirst, if_pos hfirst]
      · rw [if_neg hfirst, if_neg hfirst, install_cons, if_neg hsame]

/-- Installing a slot that is left out leaves the others as they are. -/
lemma without_install_of_mem (h : slot.bounds ∈ gone) :
    without gone (install slot slots) = without gone slots := by
  induction slots with
  | nil => rw [install, without_cons, if_pos h]
  | cons first rest ih =>
    rw [install_cons, without_cons]
    by_cases hsame : first.bounds = slot.bounds
    · have hfirst : first.bounds ∈ gone := hsame ▸ h
      rw [if_pos hsame, if_pos hfirst, without_cons, if_pos h]
    · rw [if_neg hsame, without_cons, ih]

lemma vacant_nil (slots : List Slot) : Vacant [] slots :=
  fun _ _ hnone => absurd hnone List.not_mem_nil

/-- A slot without a handler that is installed leaves its bounds vacant, and those that were. -/
lemma Vacant.install (h : Vacant gone slots) (hdistinct : Distinct slots)
    (hslot : slot.handler = none) : Vacant (slot.bounds :: gone) (install slot slots) := by
  intro other hmem hbounds
  rcases List.mem_cons.mp hbounds with hsame | hgone
  · rw [eq_of_mem_install hdistinct hmem hsame]
    exact hslot
  · rcases mem_of_mem_install hmem with rfl | hold
    · exact hslot
    · exact h other hold hgone

/-! ## The slot that answers -/

/-- No slot that covers an address has a greater priority than the one that answers for it. -/
lemma priority_le_of_winner? {best : Slot} (h : winner? address slots = some best) :
    ∀ other ∈ slots, other.covers address = true → other.priority ≤ best.priority := by
  induction slots generalizing best with
  | nil => exact fun other hmem => absurd hmem List.not_mem_nil
  | cons first rest ih =>
    intro other hmem hcovers
    simp only [winner?] at h
    cases hrest : winner? address rest with
    | none =>
      have hnone : ∀ later ∈ rest, later.covers address ≠ true := by
        intro later hlater hcovered
        have hsome := winner?_isSome_iff.mpr ⟨later, hlater, hcovered⟩
        rw [hrest] at hsome
        cases hsome
      rcases List.mem_cons.mp hmem with rfl | hlater
      · simp only [hrest, hcovers, if_true, Option.some.injEq] at h
        rw [h]
        exact UInt32.le_refl _
      · exact absurd hcovers (hnone other hlater)
    | some later =>
      have hlater := ih hrest
      simp only [hrest] at h
      split at h
      · rename_i hbeats
        cases h
        have hlt : later.priority < first.priority := by simpa using (Bool.and_eq_true_iff.mp hbeats).2
        rcases List.mem_cons.mp hmem with rfl | hold
        · exact UInt32.le_refl _
        · exact UInt32.le_trans (hlater other hold hcovers) (UInt32.le_of_lt hlt)
      · rename_i hkeeps
        cases h
        rcases List.mem_cons.mp hmem with rfl | hold
        · simp only [hcovers, Bool.true_and, decide_eq_true_eq] at hkeeps
          exact UInt32.not_lt.mp hkeeps
        · exact hlater other hold hcovers

/-- Where no slot answers, none does once some are left out. -/
lemma winner?_without_of_none (h : winner? address slots = none) :
    winner? address (without gone slots) = none := by
  cases hleft : winner? address (without gone slots) with
  | none => rfl
  | some best =>
    obtain ⟨hmem, hcovers⟩ := mem_of_winner? hleft
    have hsome := winner?_isSome_iff.mpr ⟨best, (mem_without.mp hmem).1, hcovers⟩
    rw [h] at hsome
    cases hsome

/-- **A slot that answers does so still once others are left out.**

**Proof sketch.** By induction on the list. The slot that answers among the later ones may be left
out only where the first slot beats it, and then the first slot beats all that are left. -/
theorem winner?_without (h : winner? address slots = some slot) (hkept : slot.bounds ∉ gone) :
    winner? address (without gone slots) = some slot := by
  induction slots with
  | nil => cases h
  | cons first rest ih =>
    simp only [winner?] at h
    rw [without_cons]
    cases hrest : winner? address rest with
    | none =>
      simp only [hrest] at h
      split at h
      · rename_i hcovers
        cases h
        rw [if_neg hkept]
        simp only [winner?, winner?_without_of_none hrest, hcovers, if_true]
      · cases h
    | some best =>
      simp only [hrest] at h
      split at h
      · rename_i hbeats
        obtain rfl : first = slot := Option.some.inj h
        obtain ⟨hcovers, hlt⟩ := Bool.and_eq_true_iff.mp hbeats
        rw [if_neg hkept]
        simp only [winner?]
        cases hother : winner? address (without gone rest) with
        | none => simp only [hcovers, if_true]
        | some other =>
          obtain ⟨hmem, hcovered⟩ := mem_of_winner? hother
          have hle := priority_le_of_winner? hrest other (mem_without.mp hmem).1 hcovered
          have hless : other.priority < first.priority :=
            UInt32.lt_of_le_of_lt hle (of_decide_eq_true hlt)
          simp only [hcovers, hless, decide_true, Bool.and_self, if_true]
      · rename_i hkeeps
        cases h
        have hbest := ih hrest
        split
        · exact hbest
        · simp only [winner?, hbest, hkeeps, Bool.false_eq_true, if_false]

/-- **The same handler runs without the vacant slots** at exactly the addresses that are not
shadowed. -/
theorem responder?_eq_iff (h : Vacant gone slots) (address : UInt32) :
    responder? address slots = responder? address (without gone slots) ↔
      ¬ Shadowed gone slots address := by
  cases hwinner : winner? address slots with
  | none =>
    have hleft : winner? address (without gone slots) = none := winner?_without_of_none hwinner
    simp only [Shadowed, responder?, hwinner, hleft, Option.bind_none, Option.isSome_none,
      Bool.false_eq_true, and_false, not_false_eq_true]
  | some best =>
    by_cases hgone : best.bounds ∈ gone
    · have hvacant := h best (mem_of_winner? hwinner).1 hgone
      have hnone : responder? address slots = none := by
        simp only [responder?, hwinner, Option.bind_some, hvacant]
      rw [hnone, Shadowed]
      cases hleft : responder? address (without gone slots) with
      | none => simp
      | some handler =>
        refine ⟨nofun, fun hclear => absurd ⟨⟨best, hwinner, hgone⟩, rfl⟩ hclear⟩
    · have hleft := winner?_without hwinner hgone
      have hclear : ¬ Shadowed gone slots address := by
        rintro ⟨⟨slot, hslot, hmem⟩, -⟩
        rw [hwinner] at hslot
        cases hslot
        exact hgone hmem
      simp only [responder?, hwinner, hleft, hclear, not_false_eq_true]

/-- Where a slot covers an address whose priority is greater than that of every vacant slot, the
address is not shadowed. -/
lemma not_shadowed_of_outranked {other : Slot} (hmem : other ∈ slots)
    (hcovers : other.covers address = true)
    (houtranks : ∀ slot ∈ slots, slot.bounds ∈ gone → slot.priority < other.priority) :
    ¬ Shadowed gone slots address := by
  rintro ⟨⟨best, hwinner, hgone⟩, -⟩
  have hle := priority_le_of_winner? hwinner other hmem hcovers
  exact UInt32.not_lt.mpr hle (houtranks best (mem_of_winner? hwinner).1 hgone)

/-! ## An access -/

/-- What an access does depends on the handler that runs: where there is none, nothing. -/
lemma dispatch_of_responder?_none (h : responder? address slots = none) (value : UInt32) :
    dispatch address value slots = { value, slots } := by
  unfold dispatch
  cases hwinner : winner? address slots with
  | none => rfl
  | some best =>
    have hhandler : best.handler = none := by simpa [responder?, hwinner] using h
    simp only [hhandler]

/-- **An access to an address that is not shadowed** does without the vacant slots what it does with
them.

**Proof sketch.** If a vacant slot wins, no handler runs in either list. If another one wins, it
wins in both lists, and its new state is stored in both. -/
theorem dispatch_without (h : Vacant gone slots) (hclear : ¬ Shadowed gone slots address)
    (value : UInt32) : dispatch address value (without gone slots) =
      { dispatch address value slots with
        slots := without gone (dispatch address value slots).slots } := by
  have hsame := (responder?_eq_iff h address).mpr hclear
  cases hresponder : responder? address slots with
  | none =>
    rw [dispatch_of_responder?_none hresponder,
      dispatch_of_responder?_none (hsame.symm.trans hresponder)]
  | some handler =>
    obtain ⟨best, hwinner, hhandler⟩ := Option.bind_eq_some_iff.mp hresponder
    have hkept : best.bounds ∉ gone := fun hgone => by
      have hnone := h best (mem_of_winner? hwinner).1 hgone
      rw [hhandler] at hnone
      cases hnone
    have hinstall : without gone (install { best with
          handler := some (handler.run address value).handler } slots) =
        install { best with handler := some (handler.run address value).handler }
          (without gone slots) := without_install_of_notMem hkept
    simp only [dispatch, hwinner, winner?_without hwinner hkept, hhandler, hinstall]

/-! ## What an access leaves of the slots -/

/-- A slot with its handler, if there is one, put aside. -/
def outline (slot : Slot) : Slot := { slot with handler := slot.handler.map fun _ => .passThrough }

/-- Which slot answers has nothing to do with the handlers. -/
lemma winner?_map_outline (address : UInt32) (slots : List Slot) :
    winner? address (slots.map outline) = (winner? address slots).map outline := by
  induction slots with
  | nil => rfl
  | cons first rest ih =>
    have hcovers : first.outline.covers address = first.covers address := rfl
    simp only [List.map_cons, winner?, ih, hcovers]
    cases winner? address rest with
    | none =>
      simp only [Option.map_none]
      split <;> rfl
    | some best =>
      have hpriority : (decide (best.outline.priority < first.outline.priority)) =
          decide (best.priority < first.priority) := rfl
      simp only [Option.map_some, hpriority]
      split <;> rfl

/-- Neither has which slots are left out. -/
lemma without_map_outline (gone : List (UInt32 × UInt32)) (slots : List Slot) :
    without gone (slots.map outline) = (without gone slots).map outline := by
  induction slots with
  | nil => rfl
  | cons first rest ih =>
    have hbounds : first.outline.bounds = first.bounds := rfl
    simp only [List.map_cons, without_cons, hbounds, ih]
    split <;> rfl

/-- Nor does it matter for bounds. -/
lemma bounds_map_outline (slots : List Slot) :
    (slots.map outline).map bounds = slots.map bounds := by
  rw [List.map_map]
  rfl

/-- An outline has a handler where its slot has. -/
lemma vacant_map_outline (gone : List (UInt32 × UInt32)) (slots : List Slot) :
    Vacant gone (slots.map outline) ↔ Vacant gone slots := by
  simp only [Vacant, List.forall_mem_map]
  refine forall₂_congr fun slot _ => forall_congr' fun _ => ?_
  cases hhandler : slot.handler <;> simp [outline, hhandler]

/-- So slots with the same outlines shadow the same addresses. -/
lemma shadowed_map_outline (gone : List (UInt32 × UInt32)) (slots : List Slot) (address : UInt32) :
    Shadowed gone (slots.map outline) address ↔ Shadowed gone slots address := by
  have hwins : (∃ slot, winner? address (slots.map outline) = some slot ∧ slot.bounds ∈ gone) ↔
      ∃ slot, winner? address slots = some slot ∧ slot.bounds ∈ gone := by
    rw [winner?_map_outline]
    cases winner? address slots with
    | none => simp
    | some best => exact ⟨fun ⟨_, hbest, hgone⟩ => ⟨best, rfl, by cases hbest; exact hgone⟩,
        fun ⟨_, hbest, hgone⟩ => ⟨best.outline, rfl, by cases hbest; exact hgone⟩⟩
  have hruns : (responder? address (without gone (slots.map outline))).isSome =
      (responder? address (without gone slots)).isSome := by
    rw [without_map_outline, responder?, winner?_map_outline, responder?]
    cases winner? address (without gone slots) with
    | none => rfl
    | some best => cases hhandler : best.handler <;> simp [outline, hhandler]
  rw [Shadowed, Shadowed, hwins, hruns]

/-- Where bounds are distinct, a slot with the outline of one that is there may be installed without
changing any outline. -/
lemma map_outline_install (h : Distinct slots) {old : Slot} (hmem : old ∈ slots)
    (hsame : slot.outline = old.outline) : (install slot slots).map outline = slots.map outline := by
  have hbounds : slot.bounds = old.bounds := by
    show slot.outline.bounds = old.outline.bounds
    rw [hsame]
  induction slots with
  | nil => cases hmem
  | cons first rest ih =>
    obtain ⟨hfirst, hrest⟩ := List.nodup_cons.mp h
    rw [install_cons]
    rcases List.mem_cons.mp hmem with rfl | hlater
    · rw [if_pos hbounds.symm, List.map_cons, List.map_cons, hsame]
    · have hother : first.bounds ≠ slot.bounds := fun heq => by
        have hagain : old.bounds ∈ rest.map bounds := List.mem_map_of_mem hlater
        exact hfirst (heq.trans hbounds ▸ hagain)
      rw [if_neg hother, List.map_cons, List.map_cons, ih hrest hlater]

/-- **An access changes no outline**: it changes the state of a handler at most. -/
theorem map_outline_dispatch (h : Distinct slots) (address value : UInt32) :
    (dispatch address value slots).slots.map outline = slots.map outline := by
  unfold dispatch
  cases hwinner : winner? address slots with
  | none => rfl
  | some best =>
    cases hhandler : best.handler with
    | none => simp only [hhandler]
    | some handler =>
      simp only [hhandler]
      refine map_outline_install h (mem_of_winner? hwinner).1 ?_
      simp only [outline, hhandler, Option.map_some]

end Slot

/-! ## Memories -/

namespace Ram

/-- The slots for accesses of one kind. -/
def slots (ram : Ram) : Direction → List Slot
  | .read => ram.readSlots
  | .write => ram.writeSlots

/-- A memory whose slots for each kind of access have distinct bounds. -/
def Distinct (ram : Ram) : Prop := ∀ kind, Slot.Distinct (ram.slots kind)

/-- The memory without the slots that have certain bounds, for each kind of access. -/
def without (gone : Direction → List (UInt32 × UInt32)) (ram : Ram) : Ram :=
  { ram with
    readSlots := Slot.without (gone .read) ram.readSlots
    writeSlots := Slot.without (gone .write) ram.writeSlots }

/-- An address that is shadowed for one kind of access. -/
def Shadowed (gone : Direction → List (UInt32 × UInt32)) (ram : Ram) (kind : Direction)
    (address : UInt32) : Prop :=
  Slot.Shadowed (gone kind) (ram.slots kind) address

/-- What operations on a memory answer and report, one after the other: the reply, the calls of
hooks, and the access that is reported to the monitor. -/
def trace : List MemoryOp → Ram → List (MemoryReply × List Event × Option Access)
  | [], _ => []
  | op :: rest, ram =>
    let done := ram.step op
    (done.value, done.events, done.captured) :: trace rest done.ram

end Ram

/-- The kind and the address of an access of the guest. -/
def MemoryOp.access? : MemoryOp → Option (Direction × UInt32)
  | .storeByte address _ | .storeWord address _ => some (.write, address)
  | .loadWord address => some (.read, address)
  | _ => none

namespace Ram

/-- A memory whose slots have distinct bounds, and where those with certain bounds are vacant. -/
structure Vacated (gone : Direction → List (UInt32 × UInt32)) (ram : Ram) : Prop where
  /-- No two slots for one kind of access have the same bounds. -/
  distinct : ram.Distinct
  /-- Slots with these bounds have no handler. -/
  vacant : ∀ kind, Slot.Vacant (gone kind) (ram.slots kind)

variable {gone : Direction → List (UInt32 × UInt32)} {ram : Ram}

/-- What changes no outline keeps a memory vacated. -/
lemma Vacated.of_outlines {other : Ram} (h : ram.Vacated gone)
    (hsame : ∀ kind, (other.slots kind).map Slot.outline = (ram.slots kind).map Slot.outline) :
    other.Vacated gone := by
  refine ⟨fun kind => ?_, fun kind => ?_⟩
  · rw [Slot.Distinct, ← Slot.bounds_map_outline, hsame kind, Slot.bounds_map_outline]
    exact h.distinct kind
  · rw [← Slot.vacant_map_outline, hsame kind, Slot.vacant_map_outline]
    exact h.vacant kind

/-- Nor does it change which addresses are shadowed. -/
lemma shadowed_congr {other : Ram}
    (hsame : ∀ kind, (other.slots kind).map Slot.outline = (ram.slots kind).map Slot.outline)
    (kind : Direction) (address : UInt32) :
    other.Shadowed gone kind address ↔ ram.Shadowed gone kind address := by
  rw [Shadowed, ← Slot.shadowed_map_outline, hsame kind, Slot.shadowed_map_outline, Shadowed]

/-- What an operation makes of the slots for one kind of access: they stay, an access ran through
them, or the host installed one more. -/
lemma slots_step_cases (ram : Ram) (op : MemoryOp) (kind : Direction) :
    (ram.step op).ram.slots kind = ram.slots kind ∨
      (∃ address value, (ram.step op).ram.slots kind =
        (Slot.dispatch address value (ram.slots kind)).slots) ∨
      (op.hooks = true ∧ ∃ slot, (ram.step op).ram.slots kind =
        Slot.install slot (ram.slots kind)) := by
  have hcounts : ∀ address count, (ram.readReply address count).ram.slots kind = ram.slots kind := by
    intro address count
    rw [(ram.readReply_counts address count).1]
    cases kind <;> rfl
  cases op with
  | storeByte address value =>
    cases kind with
    | read => exact Or.inl rfl
    | write => exact Or.inr (Or.inl ⟨address, value.toUInt32, rfl⟩)
  | storeWord address value =>
    cases kind with
    | read => exact Or.inl rfl
    | write => exact Or.inr (Or.inl ⟨address, value, rfl⟩)
  | loadWord address =>
    rcases rawRead_cases address 4 ram with ⟨bytes, -, hraw⟩ | ⟨e, -, hraw⟩ <;>
      simp only [step, loadWord, hraw, countRead]
    · cases kind with
      | read => exact Or.inr (Or.inl ⟨address, UInt32.ofNat (ofLittleEndian bytes), rfl⟩)
      | write => exact Or.inl rfl
    · cases kind <;> exact Or.inl rfl
  | failAt address =>
    simp only [step, failAt]
    split <;> cases kind <;> exact Or.inl rfl
  | readByte address => exact Or.inl (hcounts address 1)
  | readHalf address => exact Or.inl (hcounts address 2)
  | readWord address => exact Or.inl (hcounts address 4)
  | installHook installed start size priority hook =>
    cases installed <;> cases kind <;> first | exact Or.inl rfl | exact Or.inr (Or.inr ⟨rfl, _, rfl⟩)
  | _ => cases kind <;> exact Or.inl rfl

/-- **An operation changes no outline**, unless it installs a slot. -/
theorem outlines_step (h : ram.Distinct) {op : MemoryOp}
    (hop : op.hooks = false) (kind : Direction) :
    ((ram.step op).ram.slots kind).map Slot.outline = (ram.slots kind).map Slot.outline := by
  rcases ram.slots_step_cases op kind with hsame | ⟨address, value, hran⟩ | ⟨hhooks, -⟩
  · rw [hsame]
  · rw [hran]
    exact Slot.map_outline_dispatch (h kind) address value
  · rw [hop] at hhooks
    cases hhooks

/-- The bytes of a memory are those without some of its slots. -/
lemma fetchRun_without (gone : Direction → List (UInt32 × UInt32)) (ram : Ram) (address : UInt32)
    (count : Nat) : (ram.without gone).fetchRun address count = ram.fetchRun address count :=
  have halike : (ram.without gone).Alike ram := ⟨rfl, rfl⟩
  fetchRun_congr halike address count

/-- So are raw reads. -/
lemma readReply_without (gone : Direction → List (UInt32 × UInt32)) (ram : Ram) (address : UInt32)
    (count : Nat) : (ram.without gone).readReply address count =
      { ram.readReply address count with
        ram := (ram.readReply address count).ram.without gone } := by
  simp only [readReply, rawRead, fetchRun_without]
  cases ram.fetchRun address count <;> rfl

/-- What runs after a store to an address that is not shadowed. -/
lemma afterStore_without (h : ram.Vacated gone) {address : UInt32}
    (hclear : ¬ ram.Shadowed gone .write address) (value : UInt32) :
    (ram.without gone).afterStore address value =
      { ram.afterStore address value with
        ram := (ram.afterStore address value).ram.without gone } := by
  have hran := Slot.dispatch_without (h.vacant .write) hclear value
  simp only [slots] at hran
  simp only [afterStore, without, hran]

/-- What an operation yields that answers nothing of its own. -/
private def answered (reply : MemoryReply) (r : Reaction Unit) : Reaction MemoryReply :=
  ⟨reply, r.ram, r.events, r.captured⟩

/-- **An operation does without the vacant slots what it does with them**, unless it is an access to a
shadowed address. -/
theorem step_without (h : ram.Vacated gone) {op : MemoryOp} (hop : op.hooks = false)
    (hclear : ∀ kind address, op.access? = some (kind, address) →
      ¬ ram.Shadowed gone kind address) :
    (ram.without gone).step op = { ram.step op with ram := (ram.step op).ram.without gone } := by
  cases op with
  | storeByte address value =>
    have hpoked : (ram.poke address [value]).Vacated gone := h.of_outlines fun kind => by
      cases kind <;> rfl
    have hafter := afterStore_without hpoked (hclear .write address rfl) value.toUInt32
    exact congrArg (answered .done) hafter
  | storeWord address value =>
    have hset : (ram.setWord address value).Vacated gone := h.of_outlines fun kind => by
      cases kind <;> rfl
    have hafter := afterStore_without hset (hclear .write address rfl) value
    exact congrArg (answered .done) hafter
  | loadWord address =>
    have hran := Slot.dispatch_without (h.vacant .read) (hclear .read address rfl)
    simp only [slots] at hran
    simp only [step, loadWord, rawRead, fetchRun_without]
    cases ram.fetchRun address 4 with
    | error e => rfl
    | ok bytes => simp only [countRead, without, hran]
  | failAt address =>
    have hfailing : (ram.without gone).failing = ram.failing := rfl
    by_cases hfails : ram.failing.contains address = true
    · simp only [step, failAt, hfailing, hfails, if_true]
    · simp only [step, failAt, hfailing, hfails]
      rfl
  | readByte address => exact ram.readReply_without gone address 1
  | readHalf address => exact ram.readReply_without gone address 2
  | readWord address => exact ram.readReply_without gone address 4
  | installHook kind start size priority hook => cases hop
  | _ => rfl

/-- **So do operations one after the other**, unless one of them is an access to a shadowed address.

**Proof sketch.** By induction on the operations. Each one leaves a vacated memory in which the same
addresses are shadowed. -/
theorem trace_without (h : ram.Vacated gone) {later : List MemoryOp}
    (hops : ∀ op ∈ later, op.hooks = false)
    (hclear : ∀ op ∈ later, ∀ kind address, op.access? = some (kind, address) →
      ¬ ram.Shadowed gone kind address) :
    trace later (ram.without gone) = trace later ram := by
  induction later generalizing ram with
  | nil => rfl
  | cons op rest ih =>
    have hop := hops op List.mem_cons_self
    have hsame := outlines_step h.distinct hop
    have hrest := ih (h.of_outlines hsame)
      (fun other hother => hops other (List.mem_cons_of_mem op hother))
      fun other hother kind address haccess => by
        rw [shadowed_congr hsame]
        exact hclear other (List.mem_cons_of_mem op hother) kind address haccess
    simp only [trace, step_without h hop (hclear op List.mem_cons_self), hrest]

end Ram

end GuestWatch
