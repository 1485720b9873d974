import GuestWatch.SaveState.Rejection
import GuestWatch.Word

set_option relaxedAutoImplicit false
set_option autoImplicit false

/-!
# Save-state headers

A save state is an archive whose entry `header` starts with a fixed record of twelve bytes: three
little-endian words for the magic number, the version and the feature bits. Bytes after the twelfth
are left alone.

## Main definitions

* `GuestWatch.Header` — the record, with `toBytes`, `ofBytes` and `read`.
* `GuestWatch.Header.checkMagic`, `GuestWatch.Header.checkCompatible` — the two tests a header has
  to pass; the second gives the version.
* `GuestWatch.Version` — the versions that are understood.
-/

namespace GuestWatch

/-- A header version that is understood. -/
inductive Version where
  /-- The first layout. -/
  | v1
  deriving DecidableEq, Repr

namespace Version

/-- The number of a version in the header. -/
def code : Version → UInt32
  | v1 => 1

/-- The version with a given number. -/
def ofCode? (code : UInt32) : Option Version :=
  if code = 1 then some v1 else none

/-- The name of a version. -/
def name : Version → String
  | v1 => "V1"

/-- Every version that is understood. -/
def all : List Version := [v1]

end Version

/-- The record at the start of a save state. -/
structure Header where
  /-- The number that marks a save state. -/
  magic : UInt32
  /-- The number of the layout. -/
  version : UInt32
  /-- One bit for each kind of content. -/
  features : UInt32
  deriving DecidableEq, Repr

namespace Header

/-- The archive entry that holds the header. -/
def entry : String := "header"

/-- The length of a header in bytes. -/
def byteCount : Nat := 12

/-- The number that marks a save state: the letters `PSAV` read as a little-endian word. -/
def expectedMagic : UInt32 := Word.ofBytes 0x50 0x53 0x41 0x56

/-- The feature bit of the scratchpad. -/
def scratchpadFeature : UInt32 := 1

/-- The feature bit of main memory. -/
def mainMemoryFeature : UInt32 := 2

/-- All feature bits that are understood. -/
def knownFeatures : UInt32 := scratchpadFeature ||| mainMemoryFeature

/-- The header of a fresh save state. -/
def current : Header := ⟨expectedMagic, Version.v1.code, knownFeatures⟩

/-- The bytes of a header. -/
def toBytes (h : Header) : Vector UInt8 byteCount :=
  ⟨(Word.bytes h.magic ++ Word.bytes h.version ++ Word.bytes h.features).toArray, by
    simp [byteCount]⟩

/-- The header with the given bytes. -/
def ofBytes (bytes : Vector UInt8 byteCount) : Header where
  magic := Word.ofBytes bytes[0] bytes[1] bytes[2] bytes[3]
  version := Word.ofBytes bytes[4] bytes[5] bytes[6] bytes[7]
  features := Word.ofBytes bytes[8] bytes[9] bytes[10] bytes[11]

/-- Takes one header off a stream and gives the rest of the stream with it. -/
def read (stream : List UInt8) : Except ReadError (Header × List UInt8) :=
  if h : byteCount ≤ stream.length then
    .ok (ofBytes ⟨(stream.take byteCount).toArray, by simp [h]⟩, stream.drop byteCount)
  else .error .truncated

/-- The magic number is the expected one. -/
def checkMagic (h : Header) : Except HeaderRejection Unit :=
  if h.magic = expectedMagic then .ok () else .error (.badMagic h.magic)

/-- The feature bits of a header that nobody understands. -/
def unknownFeatures (h : Header) : UInt32 := h.features &&& ~~~knownFeatures

/-- The version and all feature bits are understood. -/
def checkCompatible (h : Header) : Except HeaderRejection Version :=
  match Version.ofCode? h.version with
  | none => .error (.unsupportedVersion h.version)
  | some version =>
    if h.unknownFeatures = 0 then .ok version
    else .error (.unsupportedFeatures h.unknownFeatures)

end Header

end GuestWatch
