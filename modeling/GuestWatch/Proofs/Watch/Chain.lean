import GuestWatch.Proofs.Watch.Course

set_option relaxedAutoImplicit false
set_option autoImplicit false

/-!
# Chains of changes

The changes of one watch hang together: each leads on from the value to which the one before it led.
The callback of the watch is told them in this order.

## Main definitions

* `GuestWatch.Watch.Chain` — changes that hang together.
* `GuestWatch.Change.along` — the changes along a list of values.
* `GuestWatch.Watch.tellings`, `GuestWatch.Watch.heard` — the calls by which a callback is told
  changes, and the callback afterwards.
* `GuestWatch.Watch.Tells` — a watch that went through a chain of changes.

## Main results

* `GuestWatch.Watch.reread_of_ok` — what a watch goes through when it is read again.
* `GuestWatch.Watch.Tells.trans` — chains of the same watch are joined.
* `GuestWatch.Watch.Stays.tells` — whatever becomes of a watch, it went through a chain.
-/

namespace GuestWatch

namespace Watch

/-! ## Chains -/

/-- Changes at an address, of one width, that lead from one value to another: each leads on from the
value to which the one before it led, and to a different one. -/
inductive Chain (address size : UInt32) : UInt32 → List Change → UInt32 → Prop where
  /-- No change. -/
  | nil (value : UInt32) : Chain address size value [] value
  /-- One more change at the start. -/
  | cons {old new last : UInt32} {changes : List Change} (h : old ≠ new)
      (rest : Chain address size new changes last) :
      Chain address size old (⟨address, size, old, new⟩ :: changes) last

/-- Chains are joined. -/
lemma Chain.append {address size first mid last : UInt32} {changes changes' : List Change}
    (h : Chain address size first changes mid) (h' : Chain address size mid changes' last) :
    Chain address size first (changes ++ changes') last := by
  induction h with
  | nil value => exact h'
  | cons hne _ ih => exact Chain.cons hne (ih h')

end Watch

/-- The changes along a list of values: one wherever a value differs from the one before it. -/
def Change.along (address size : UInt32) : UInt32 → List UInt32 → List Change
  | _, [] => []
  | old, new :: rest =>
    if new = old then along address size old rest
    else ⟨address, size, old, new⟩ :: along address size new rest

/-- The changes along a list are the first one, if any, and those from the first value on. -/
lemma Change.along_cons (address size old new : UInt32) (rest : List UInt32) :
    along address size old (new :: rest) =
      along address size old [new] ++ along address size new rest := by
  by_cases hsame : new = old
  · simp only [along, hsame, if_true, List.nil_append]
  · simp only [along, hsame, if_false, List.singleton_append]

namespace Watch

/-- The changes along a list hang together, and lead to its last value. -/
lemma chain_along (address size old : UInt32) (values : List UInt32) :
    Chain address size old (Change.along address size old values) (values.getLastD old) := by
  induction values generalizing old with
  | nil => exact Chain.nil old
  | cons new rest ih =>
    rw [List.getLastD_cons]
    by_cases hsame : new = old
    · simp only [Change.along, hsame, if_true]
      exact ih old
    · simp only [Change.along, hsame, if_false]
      exact Chain.cons (Ne.symm hsame) (ih new)

/-! ## Callbacks that are told changes -/

/-- The calls by which a callback, if there is one, is told changes. -/
def tellings (callback : Option (Callback Change)) (changes : List Change) :
    List (String × Change) :=
  match callback with
  | none => []
  | some c => changes.map fun change => (c.name, change)

/-- The callback, if there is one, after it was told changes. -/
def heard (callback : Option (Callback Change)) (changes : List Change) :
    Option (Callback Change) :=
  callback.map fun c => { c with history := changes.reverse ++ c.history }

@[simp] lemma tellings_nil (callback : Option (Callback Change)) : tellings callback [] = [] := by
  cases callback <;> rfl

@[simp] lemma heard_nil (callback : Option (Callback Change)) : heard callback [] = callback := by
  cases callback <;> rfl

/-- Telling changes in two parts is telling them all. -/
lemma tellings_append (callback : Option (Callback Change)) (changes changes' : List Change) :
    tellings callback (changes ++ changes') =
      tellings callback changes ++ tellings (heard callback changes) changes' := by
  cases callback with
  | none => rfl
  | some c => exact List.map_append

lemma heard_append (callback : Option (Callback Change)) (changes changes' : List Change) :
    heard callback (changes ++ changes') = heard (heard callback changes) changes' := by
  cases callback with
  | none => rfl
  | some c => simp only [heard, Option.map_some, List.reverse_append, List.append_assoc]

/-! ## Watches that went through a chain -/

/-- A watch went through a chain of changes, of which its callback was told: it is at the same
address and of the same width, and it remembers the value to which the chain led. -/
structure Tells (w : Watch) (changes : List Change) (w' : Watch) : Prop where
  /-- The address is the same. -/
  address_eq : w'.address = w.address
  /-- The width is the same. -/
  size_eq : w'.size = w.size
  /-- The changes lead from the value remembered before to the one remembered now. -/
  chain : Chain w.address w.size w.lastValue changes w'.lastValue
  /-- The callback was told the changes. -/
  callback_eq : w'.callback = heard w.callback changes

lemma Tells.refl (w : Watch) : Tells w [] w := ⟨rfl, rfl, Chain.nil _, (heard_nil _).symm⟩

/-- What a watch goes through in two stretches is one chain. -/
lemma Tells.trans {w w' w'' : Watch} {changes changes' : List Change} (h : Tells w changes w')
    (h' : Tells w' changes' w'') : Tells w (changes ++ changes') w'' := by
  have hchain := h'.chain
  rw [h.address_eq, h.size_eq] at hchain
  constructor
  · exact h'.address_eq.trans h.address_eq
  · exact h'.size_eq.trans h.size_eq
  · exact h.chain.append hchain
  · rw [h'.callback_eq, h.callback_eq, heard_append]

/-- A watch that is read again, with success, goes through the change to the value that is read, if it
differs, and reports what its callback is told of that. -/
lemma reread_of_ok {look : Look} {w : Watch} {value : UInt32}
    (h : look w.address w.size = .ok value) :
    w.report look = tellings w.callback (Change.along w.address w.size w.lastValue [value]) ∧
      w.reread look =
        { w with
          lastValue := value
          callback := heard w.callback (Change.along w.address w.size w.lastValue [value]) } := by
  by_cases hsame : value = w.lastValue
  · obtain ⟨hwatch, hreport, -, -⟩ := reread_of_same (hsame ▸ h)
    have hnone : Change.along w.address w.size w.lastValue [value] = [] := by
      simp only [Change.along, hsame, if_true]
    rw [hwatch, hreport, hnone, tellings_nil, heard_nil, hsame]
    exact ⟨rfl, rfl⟩
  · have hone : Change.along w.address w.size w.lastValue [value] = [w.changeTo value] := by
      simp only [Change.along, hsame, if_false]
      rfl
    rw [hone]
    constructor
    · simp only [report, h, hsame, if_false]
      cases w.callback <;> rfl
    · simp only [reread, h, hsame, if_false]
      rfl

/-- A watch that is read again goes through one change or none, and reports what its callback is
told of it. -/
lemma tells_reread (look : Look) (w : Watch) :
    ∃ changes, w.report look = tellings w.callback changes ∧ Tells w changes (w.reread look) := by
  cases hlook : look w.address w.size with
  | error fault =>
    refine ⟨[], ?_, ?_⟩
    · simp only [report, hlook, tellings_nil]
    · simp only [reread, hlook]
      exact ⟨rfl, rfl, Chain.nil _, (heard_nil _).symm⟩
  | ok value =>
    obtain ⟨hreport, hreread⟩ := reread_of_ok hlook
    refine ⟨_, hreport, ?_⟩
    rw [hreread]
    exact ⟨rfl, rfl, chain_along w.address w.size w.lastValue [value], rfl⟩

/-- Whatever becomes of a watch while the memory answers the same, it went through a chain, and what
is reported is what its callback is told of it. -/
theorem Stays.tells {look : Look} {w w' : Watch} {told : List (String × Change)}
    {endings : List (UInt32 × Fault)} (h : w.Stays look told endings w') :
    ∃ changes, told = tellings w.callback changes ∧ Tells w changes w' := by
  cases h with
  | untouched => exact ⟨[], (tellings_nil _).symm, Tells.refl w⟩
  | reread hactive => exact tells_reread look w

end Watch

end GuestWatch
