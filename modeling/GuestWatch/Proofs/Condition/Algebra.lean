import GuestWatch.Condition.Basic
import GuestWatch.Proofs.Word
import Mathlib.Tactic.IntervalCases

set_option relaxedAutoImplicit false
set_option autoImplicit false

/-!
# The algebra of comparisons

The eleven comparisons of a condition are tied to one another: five of them are the negations of five
others, some are made of two others, and the bit comparisons say of each bit of the mask whether it is
set. This holds for whatever operands a condition has, a mask of zero and a lower bound above the
upper one among them. A condition that is built from the number of a comparison is the one that is
built from the comparison.

## Main definitions

* `GuestWatch.Comparator.Opposite` — two comparisons of which one is the negation of the other.
* `GuestWatch.Condition.withKind` — another comparison with the same operands.
* `GuestWatch.Condition.configure` — the operands of another condition with the same comparison.

## Main results

* `GuestWatch.Condition.holds_opposite` — of two opposite comparisons exactly one holds.
* `GuestWatch.Condition.holds_bitAllSet_iff`, `GuestWatch.Condition.holds_bitAnySet_iff` — the bit
  comparisons, bit by bit.
* `GuestWatch.Condition.configure_ofCode` — building a condition from a number.
* `GuestWatch.Condition.comparisons_agree` — the comparisons with one another.
-/

namespace GuestWatch

/-- Two comparisons of which the second is the negation of the first. -/
inductive Comparator.Opposite : Comparator → Comparator → Prop where
  /-- The same value or another one. -/
  | equal : Opposite .equal .notEqual
  /-- Below a value or not. -/
  | less : Opposite .lessThan .greaterEqual
  /-- Above a value or not. -/
  | greater : Opposite .greaterThan .lessEqual
  /-- Some bit or none. -/
  | bits : Opposite .bitAnySet .bitNoneSet
  /-- Between two bounds or not. -/
  | range : Opposite .rangeInside .rangeOutside

/-- The numbers up to ten are those of the comparisons. -/
lemma Comparator.exists_code {n : UInt32} (h : n.toNat ≤ 10) : ∃ kind : Comparator, kind.code = n := by
  have hnumber : n = UInt32.ofNat n.toNat := (UInt32.ofNat_toNat).symm
  generalize n.toNat = number at h hnumber
  subst hnumber
  interval_cases number
  exacts [⟨.equal, rfl⟩, ⟨.notEqual, rfl⟩, ⟨.lessThan, rfl⟩, ⟨.greaterThan, rfl⟩, ⟨.lessEqual, rfl⟩,
    ⟨.greaterEqual, rfl⟩, ⟨.bitAllSet, rfl⟩, ⟨.bitAnySet, rfl⟩, ⟨.bitNoneSet, rfl⟩,
    ⟨.rangeInside, rfl⟩, ⟨.rangeOutside, rfl⟩]

namespace Condition

/-- The condition with the same operands and another comparison. -/
def withKind (c : Condition) (kind : Comparator) : Condition := { c with kind }

/-- The condition with the same comparison and the operands of another one. -/
def configure (c operands : Condition) : Condition :=
  { c with value := operands.value, mask := operands.mask, low := operands.low,
           high := operands.high, active := operands.active }

variable (c : Condition) (observed : UInt32)

/-- **Of two opposite comparisons exactly one holds**, with the same operands. -/
theorem holds_opposite {kind other : Comparator} (h : Comparator.Opposite kind other) :
    (c.withKind other).holds observed = !(c.withKind kind).holds observed := by
  cases h with
  | equal => rfl
  | less => exact Word.decide_le c.value observed
  | greater => exact Word.decide_le observed c.value
  | bits => exact (Bool.not_not _).symm
  | range =>
    show (decide (observed < c.low) || decide (c.high < observed)) =
      !(decide (c.low ≤ observed) && decide (observed ≤ c.high))
    rw [Word.decide_le, Word.decide_le, Bool.not_and, Bool.not_not, Bool.not_not]

/-- At most a value is below it or the value. -/
lemma holds_lessEqual :
    (c.withKind .lessEqual).holds observed =
      ((c.withKind .lessThan).holds observed || (c.withKind .equal).holds observed) := by
  rw [Bool.eq_iff_iff]
  simp only [withKind, holds, Bool.or_eq_true, decide_eq_true_eq, beq_iff_eq, UInt32.le_iff_toNat_le,
    UInt32.lt_iff_toNat_lt, ← UInt32.toNat_inj]
  omega

/-- Between two bounds is at least the lower one and at most the upper one. -/
lemma holds_rangeInside :
    (c.withKind .rangeInside).holds observed =
      (({ c with value := c.low }.withKind .greaterEqual).holds observed &&
        ({ c with value := c.high }.withKind .lessEqual).holds observed) :=
  rfl

/-- **All bits are set** when each bit of the mask is. -/
theorem holds_bitAllSet_iff :
    (c.withKind .bitAllSet).holds observed = true ↔
      ∀ i, c.mask.toNat.testBit i = true → observed.toNat.testBit i = true := by
  rw [← Word.and_eq_mask_iff]
  exact beq_iff_eq

/-- **Some bit is set** when a bit of the mask is. -/
theorem holds_bitAnySet_iff :
    (c.withKind .bitAnySet).holds observed = true ↔
      ∃ i, c.mask.toNat.testBit i = true ∧ observed.toNat.testBit i = true := by
  rw [← Word.and_ne_zero_iff]
  exact bne_iff_ne

/-- All bits of two masks together are set when all bits of each are. -/
lemma holds_bitAllSet_or (first second : UInt32) :
    ({ c with mask := first ||| second }.withKind .bitAllSet).holds observed =
      (({ c with mask := first }.withKind .bitAllSet).holds observed &&
        ({ c with mask := second }.withKind .bitAllSet).holds observed) := by
  rw [Bool.eq_iff_iff, Bool.and_eq_true]
  simp only [holds_bitAllSet_iff, UInt32.toNat_or, Nat.testBit_or, Bool.or_eq_true]
  constructor
  · intro h
    exact ⟨fun i hi => h i (Or.inl hi), fun i hi => h i (Or.inr hi)⟩
  · rintro ⟨hfirst, hsecond⟩ i (hi | hi)
    · exact hfirst i hi
    · exact hsecond i hi

/-- **A condition is built from a number** as it is from the comparison of that number: with the
operands of a condition filled in, it is that condition with the comparison. -/
theorem configure_ofCode {n : UInt32} (h : n.toNat ≤ 10) :
    ∃ built kind, ofCode c.address c.size n = .ok built ∧ kind.code = n ∧
      built.configure c = c.withKind kind := by
  obtain ⟨kind, rfl⟩ := Comparator.exists_code h
  exact ⟨_, kind, by rw [ofCode, Comparator.ofCode?_code], rfl, rfl⟩

/-- **The comparisons with one another**, for any operands and any observed value.

* Five comparisons are the exact negations of five others.
* At most a value is below it or the value; between two bounds is at least the lower one and at most
  the upper one.
* All bits are set when each bit of the mask is, and some bit is set when one of them is. All bits of
  two masks together are set when all bits of each are.
* A condition that is built from a number up to ten, with operands filled in, is the condition with
  these operands and the comparison of that number.

**Proof sketch.** The orders are total, and a word under a mask is told bit by bit. -/
theorem comparisons_agree (c : Condition) (observed : UInt32) :
    (∀ kind other, Comparator.Opposite kind other →
      (c.withKind other).holds observed = !(c.withKind kind).holds observed) ∧
    (c.withKind .lessEqual).holds observed =
      ((c.withKind .lessThan).holds observed || (c.withKind .equal).holds observed) ∧
    (c.withKind .rangeInside).holds observed =
      (({ c with value := c.low }.withKind .greaterEqual).holds observed &&
        ({ c with value := c.high }.withKind .lessEqual).holds observed) ∧
    ((c.withKind .bitAllSet).holds observed = true ↔
      ∀ i, c.mask.toNat.testBit i = true → observed.toNat.testBit i = true) ∧
    ((c.withKind .bitAnySet).holds observed = true ↔
      ∃ i, c.mask.toNat.testBit i = true ∧ observed.toNat.testBit i = true) ∧
    (∀ first second : UInt32,
      ({ c with mask := first ||| second }.withKind .bitAllSet).holds observed =
        (({ c with mask := first }.withKind .bitAllSet).holds observed &&
          ({ c with mask := second }.withKind .bitAllSet).holds observed)) ∧
    ∀ n : UInt32, n.toNat ≤ 10 → ∃ built kind, ofCode c.address c.size n = .ok built ∧
      kind.code = n ∧ built.configure c = c.withKind kind ∧
      (built.configure c).holds observed = (c.withKind kind).holds observed := by
  refine ⟨fun kind other h => c.holds_opposite observed h, c.holds_lessEqual observed,
    c.holds_rangeInside observed, c.holds_bitAllSet_iff observed, c.holds_bitAnySet_iff observed,
    c.holds_bitAllSet_or observed, fun n hn => ?_⟩
  obtain ⟨built, kind, hbuilt, hcode, hsame⟩ := c.configure_ofCode hn
  exact ⟨built, kind, hbuilt, hcode, hsame, by rw [hsame]⟩

/-- A condition whose bounds are the wrong way round and whose mask is zero. -/
def degenerate : Condition := { address := 0x100, size := 4, low := 9, high := 3, kind := .equal }

/-- Every value lies outside bounds that are the wrong way round, and no value has a bit of an empty
mask, also when the comparison is given by its number. -/
theorem comparisons_agree_degenerate :
    (degenerate.withKind .rangeOutside).holds 5 = true ∧
      (degenerate.withKind .bitAllSet).holds 5 = true ∧
      (degenerate.withKind .bitNoneSet).holds 5 = true ∧
      ∃ built kind, ofCode 0x100 4 8 = .ok built ∧ kind.code = 8 ∧
        (built.configure degenerate).holds 5 = (degenerate.withKind kind).holds 5 := by
  obtain ⟨hopposite, -, -, hall, hany, -, hcodes⟩ := comparisons_agree degenerate 5
  have hempty : ∀ i, degenerate.mask.toNat.testBit i = false := Nat.zero_testBit
  refine ⟨?_, ?_, ?_, ?_⟩
  · rw [hopposite _ _ .range]
    rfl
  · refine hall.mpr fun i hset => ?_
    rw [hempty i] at hset
    cases hset
  · rw [hopposite _ _ .bits, Bool.not_eq_true', Bool.eq_false_iff]
    intro hset
    obtain ⟨i, hbit, -⟩ := hany.mp hset
    rw [hempty i] at hbit
    cases hbit
  · obtain ⟨built, kind, hbuilt, hcode, -, hsame⟩ := hcodes 8 (by decide)
    exact ⟨built, kind, hbuilt, hcode, hsame⟩

end Condition

end GuestWatch
