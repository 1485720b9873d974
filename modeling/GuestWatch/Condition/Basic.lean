import GuestWatch.Fault.Basic
import GuestWatch.Text.Record

set_option relaxedAutoImplicit false
set_option autoImplicit false

/-!
# Conditions

A condition compares an observed value with operands of its own. It is keyed by an address.

## Main definitions

* `GuestWatch.Comparator` — the eleven comparisons, with their `code` and `ofCode?`.
* `GuestWatch.Condition` — a comparison with its operands, with `holds`.
* `GuestWatch.Condition.ofCode` — a condition from the number of a comparison.
-/

namespace GuestWatch

/-- A comparison of an observed value with operands. -/
inductive Comparator where
  /-- The observed value is the operand. -/
  | equal
  /-- The observed value is not the operand. -/
  | notEqual
  /-- The observed value is below the operand. -/
  | lessThan
  /-- The observed value is above the operand. -/
  | greaterThan
  /-- The observed value is at most the operand. -/
  | lessEqual
  /-- The observed value is at least the operand. -/
  | greaterEqual
  /-- Every bit of the mask is set. -/
  | bitAllSet
  /-- Some bit of the mask is set. -/
  | bitAnySet
  /-- No bit of the mask is set. -/
  | bitNoneSet
  /-- The observed value lies between the bounds. -/
  | rangeInside
  /-- The observed value lies outside the bounds. -/
  | rangeOutside
  deriving DecidableEq, Repr

namespace Comparator

/-- Every comparison in the order of the codes. -/
def all : List Comparator :=
  [equal, notEqual, lessThan, greaterThan, lessEqual, greaterEqual, bitAllSet, bitAnySet,
    bitNoneSet, rangeInside, rangeOutside]

/-- The number of a comparison in rule tables. -/
def code : Comparator → UInt32
  | equal => 0
  | notEqual => 1
  | lessThan => 2
  | greaterThan => 3
  | lessEqual => 4
  | greaterEqual => 5
  | bitAllSet => 6
  | bitAnySet => 7
  | bitNoneSet => 8
  | rangeInside => 9
  | rangeOutside => 10

/-- The comparison with a given number. -/
def ofCode? (n : UInt32) : Option Comparator := all.find? fun kind => kind.code == n

/-- The name of a comparison. -/
def name : Comparator → String
  | equal => "Equal"
  | notEqual => "NotEqual"
  | lessThan => "LessThan"
  | greaterThan => "GreaterThan"
  | lessEqual => "LessEqual"
  | greaterEqual => "GreaterEqual"
  | bitAllSet => "BitAllSet"
  | bitAnySet => "BitAnySet"
  | bitNoneSet => "BitNoneSet"
  | rangeInside => "RangeInside"
  | rangeOutside => "RangeOutside"

/-- A comparison is found again by its number. -/
@[simp] theorem ofCode?_code (kind : Comparator) : ofCode? kind.code = some kind := by
  cases kind <;> rfl

end Comparator

/-- A comparison with its operands, keyed by an address. -/
structure Condition where
  /-- The address that keys the condition. -/
  address : UInt32
  /-- The width of the compared value in bytes. -/
  size : UInt32
  /-- The operand of the ordering comparisons. -/
  value : UInt32 := 0
  /-- The operand of the bit comparisons. -/
  mask : UInt32 := 0
  /-- The lower bound of the range comparisons. -/
  low : UInt32 := 0
  /-- The upper bound of the range comparisons. -/
  high : UInt32 := 0
  /-- The comparison. -/
  kind : Comparator
  /-- A condition that is not active is skipped. -/
  active : Bool := true
  deriving DecidableEq, Repr

namespace Condition

/-- Whether the comparison holds of an observed value. -/
def holds (c : Condition) (observed : UInt32) : Bool :=
  match c.kind with
  | .equal => observed == c.value
  | .notEqual => observed != c.value
  | .lessThan => observed < c.value
  | .greaterThan => c.value < observed
  | .lessEqual => observed ≤ c.value
  | .greaterEqual => c.value ≤ observed
  | .bitAllSet => observed &&& c.mask == c.mask
  | .bitAnySet => observed &&& c.mask != 0
  | .bitNoneSet => observed &&& c.mask == 0
  | .rangeInside => c.low ≤ observed && observed ≤ c.high
  | .rangeOutside => observed < c.low || c.high < observed

/-- The active condition with the comparison of a given number and operands of zero. -/
def ofCode (address size code : UInt32) : Except Fault Condition :=
  match Comparator.ofCode? code with
  | some kind => .ok { address, size, kind }
  | none => .error (.configuration address .conditionKind code)

/-- A condition on one line. -/
def text (c : Condition) : String :=
  Text.record "ValidationCondition" [("address", Text.word c.address), ("size", Text.word c.size),
    ("value", Text.word c.value), ("mask", Text.word c.mask), ("min_value", Text.word c.low),
    ("max_value", Text.word c.high), ("kind", c.kind.name), ("active", Text.flag c.active)]

end Condition

end GuestWatch
