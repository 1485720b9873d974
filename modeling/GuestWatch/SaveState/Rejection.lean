import GuestWatch.Text.Hex
import GuestWatch.Text.Record

set_option relaxedAutoImplicit false
set_option autoImplicit false

/-!
# Why a save state is refused

A save state is judged by its header. The header may be unreadable, or readable and wrong in its
magic number, its version or its feature bits.

## Main definitions

* `GuestWatch.ReadError` — an archive entry could not be read.
* `GuestWatch.HeaderRejection` — a header was refused, with `message` and `sources`.
-/

namespace GuestWatch

/-- An archive entry could not be read. -/
inductive ReadError where
  /-- The archive has no entry of that name. -/
  | missing (name : String)
  /-- The entry ends before the bytes that were asked for. -/
  | truncated
  deriving DecidableEq, Repr

/-- What a read error says. -/
def ReadError.message : ReadError → String
  | .missing name => "no entry named " ++ name
  | .truncated => "failed to fill whole buffer"

/-- Why a save-state header was refused. -/
inductive HeaderRejection where
  /-- The header entry is missing or too short. -/
  | unreadable (error : ReadError)
  /-- The magic number is another one. -/
  | badMagic (found : UInt32)
  /-- The version is not known. -/
  | unsupportedVersion (found : UInt32)
  /-- Feature bits that nobody knows are set. -/
  | unsupportedFeatures (found : UInt32)
  deriving DecidableEq, Repr

namespace HeaderRejection

/-- What a rejection says. -/
def message : HeaderRejection → String
  | unreadable error => "header unreadable: " ++ error.message
  | badMagic found => "bad magic " ++ Hex.address found
  | unsupportedVersion found => "unsupported version " ++ Text.word found
  | unsupportedFeatures found => "unsupported feature bits " ++ Hex.size found

/-- The messages of the causes behind a rejection, nearest first. -/
def sources : HeaderRejection → List String
  | unreadable error => [error.message]
  | _ => []

end HeaderRejection

end GuestWatch
