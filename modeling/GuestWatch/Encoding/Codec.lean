import GuestWatch.Encoding.Json
import GuestWatch.Fault.Tally
import GuestWatch.Guard
import GuestWatch.Monitor.Options
import GuestWatch.SaveState.Header
import GuestWatch.SaveState.Use

set_option relaxedAutoImplicit false
set_option autoImplicit false

/-!
# Plain data as JSON text

Records, enumerations and settings can be written as JSON text and read back. A record is an object
with its fields in any order, unknown ones being ignored, or an array of exactly its fields. A field
may be given once only, and only an optional one may be left out. A member of an enumeration is its
name, or an object with the name as its only key and `null` for a value.

## Main definitions

* `GuestWatch.Codec` — how values of a type are written and read.
* `GuestWatch.Codec.readText` — reads a value from a whole text.
* `GuestWatch.Codec.recode` — reads a value and writes it again.
-/

namespace GuestWatch

/-- How values of a type are written as JSON text and read from a tree. -/
class Codec (α : Type) where
  /-- The compact text of a value. -/
  write : α → String
  /-- The value of a tree. -/
  read : Json → Option α
  /-- The value of a field that is left out. -/
  absent : Option α := none

namespace Codec

/-- Reads a value from a whole text. -/
def readText (α : Type) [Codec α] (text : String) : Option α := (Json.parse text).bind read

/-- Reads a value from a text and writes it again. -/
def recode (α : Type) [Codec α] (text : String) : Option String := (readText α text).map write

/-! ## Numbers, truth values, options -/

/-- Reads a natural number below a bound. -/
def readNatural (bound : Nat) : Json → Option Nat
  | .natural n => if n < bound then some n else none
  | _ => none

instance : Codec UInt32 where
  write n := Nat.repr n.toNat
  read tree := (readNatural UInt32.size tree).map UInt32.ofNat

instance : Codec UInt64 where
  write n := Nat.repr n.toNat
  read tree := (readNatural UInt64.size tree).map UInt64.ofNat

/-- Limits and capacities have 64 bits in text. -/
instance : Codec Nat where
  write := Nat.repr
  read := readNatural UInt64.size

instance : Codec Bool where
  write := Text.flag
  read
    | .bool b => some b
    | _ => none

instance {α : Type} [Codec α] : Codec (Option α) where
  write
    | none => "null"
    | some a => write a
  read
    | .null => some none
    | tree => (read tree).map some
  absent := some none

/-! ## Enumerations -/

/-- The member of an enumeration with a given name. -/
def ofName? {α : Type} (name : α → String) (all : List α) (wanted : String) : Option α :=
  all.find? fun a => name a == wanted

/-- Reads a member of an enumeration. -/
def readName {α : Type} (name : α → String) (all : List α) : Json → Option α
  | .string (some text) => ofName? name all text
  | .object [(some text, .null)] => ofName? name all text
  | _ => none

/-- The codec of an enumeration. -/
@[reducible] def ofNames {α : Type} (name : α → String) (all : List α) : Codec α where
  write a := Json.quote (name a)
  read := readName name all

instance : Codec FaultKind := ofNames FaultKind.name FaultKind.all

instance : Codec Comparator := ofNames Comparator.name Comparator.all

instance : Codec Direction := ofNames Direction.name Direction.all

instance : Codec Version := ofNames Version.name Version.all

instance : Codec Window := ofNames Window.name Window.all

instance : Codec StateUse := ofNames StateUse.name StateUse.all

/-! ## Records -/

/-- The values given to a field of an object, in order. -/
def given (members : List (Option String × Json)) (field : String) : List Json :=
  (members.filter fun member => member.1 == some field).map Prod.snd

/-- The value of each field of a record, where it is given: in an object by name and at most once,
in an array by place and all of them. Every key of an object must be a text. -/
def fields? (names : List String) : Json → Option (List (Option Json))
  | .array items => if items.length = names.length then some (items.map some) else none
  | .object members =>
    if members.all fun member => member.1.isSome then
      if names.all fun name => (given members name).length ≤ 1 then
        some (names.map fun name => (given members name).head?)
      else none
    else none
  | _ => none

/-- Reads a field. -/
def field {α : Type} [Codec α] : Option Json → Option α
  | some tree => read tree
  | none => absent

instance : Codec Options where
  write c := Json.writeRecord [("history_limit", write c.historyLimit),
    ("tracking_enabled", write c.trackingEnabled), ("hardcore_on_start", write c.hardcoreOnStart),
    ("intercept_priority", write c.interceptPriority), ("track_reads", write c.trackReads),
    ("pending_capacity", write c.pendingCapacity)]
  read tree := do
    let [a, b, c, d, e, f] ← fields? ["history_limit", "tracking_enabled", "hardcore_on_start",
      "intercept_priority", "track_reads", "pending_capacity"] tree | none
    pure ⟨← field a, ← field b, ← field c, ← field d, ← field e, ← field f⟩

instance : Codec Tally where
  write d := Json.writeRecord [("last_fault_class", write d.lastKind),
    ("last_fault_address", write d.lastAddress), ("fault_count_bounds", write d.bounds),
    ("fault_count_read", write d.read), ("fault_count_header", write d.header),
    ("fault_count_configuration", write d.configuration),
    ("deactivated_watches", write d.deactivated), ("denied_save_states", write d.denied)]
  read tree := do
    let [a, b, c, d, e, f, g, h] ← fields? ["last_fault_class", "last_fault_address",
      "fault_count_bounds", "fault_count_read", "fault_count_header", "fault_count_configuration",
      "deactivated_watches", "denied_save_states"] tree | none
    pure ⟨← field a, ← field b, ← field c, ← field d, ← field e, ← field f, ← field g, ← field h⟩

instance : Codec Condition where
  write c := Json.writeRecord [("address", write c.address), ("size", write c.size),
    ("value", write c.value), ("mask", write c.mask), ("min_value", write c.low),
    ("max_value", write c.high), ("kind", write c.kind), ("active", write c.active)]
  read tree := do
    let [a, b, c, d, e, f, g, h] ← fields? ["address", "size", "value", "mask", "min_value",
      "max_value", "kind", "active"] tree | none
    pure ⟨← field a, ← field b, ← field c, ← field d, ← field e, ← field f, ← field g, ← field h⟩

instance : Codec Access where
  write a := Json.writeRecord [("address", write a.address), ("size", write a.size),
    ("value", write a.value), ("kind", write a.kind)]
  read tree := do
    let [a, b, c, d] ← fields? ["address", "size", "value", "kind"] tree | none
    pure ⟨← field a, ← field b, ← field c, ← field d⟩

instance : Codec StampedAccess where
  write r := Json.writeRecord [("address", write r.address), ("size", write r.size),
    ("value", write r.value), ("kind", write r.kind), ("timestamp", write r.timestamp)]
  read tree := do
    let [a, b, c, d, e] ← fields? ["address", "size", "value", "kind", "timestamp"] tree | none
    pure ⟨⟨← field a, ← field b, ← field c, ← field d⟩, ← field e⟩

instance : Codec Change where
  write c := Json.writeRecord [("address", write c.address), ("size", write c.size),
    ("old_value", write c.oldValue), ("new_value", write c.newValue)]
  read tree := do
    let [a, b, c, d] ← fields? ["address", "size", "old_value", "new_value"] tree | none
    pure ⟨← field a, ← field b, ← field c, ← field d⟩

instance : Codec Region where
  write r := Json.writeRecord [("start", write r.start), ("size", write r.size)]
  read tree := do
    let [a, b] ← fields? ["start", "size"] tree | none
    pure ⟨← field a, ← field b⟩

instance : Codec Header where
  write h := Json.writeRecord [("magic", write h.magic), ("version", write h.version),
    ("features", write h.features)]
  read tree := do
    let [a, b, c] ← fields? ["magic", "version", "features"] tree | none
    pure ⟨← field a, ← field b, ← field c⟩

end Codec

end GuestWatch
