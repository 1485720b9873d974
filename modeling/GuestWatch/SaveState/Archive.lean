import GuestWatch.SaveState.Header

set_option relaxedAutoImplicit false
set_option autoImplicit false

/-!
# Save-state archives

An archive holds named entries of bytes. Inserting under a name that is taken replaces the entry.

## Main definitions

* `GuestWatch.Archive` — the entries, with `insert` and `read`.
* `GuestWatch.Header.ofArchive` — the header of the save state in an archive.

## Main results

* `GuestWatch.Archive.read_insert_self`, `GuestWatch.Archive.read_insert_of_ne` — an entry reads
  back as it was last inserted.
-/

namespace GuestWatch

/-- A collection of named entries. -/
structure Archive where
  /-- The entries, one for each name. -/
  entries : List (String × List UInt8) := []
  deriving DecidableEq, Repr

namespace Archive

/-- The archive with an entry inserted or replaced. -/
def insert (archive : Archive) (name : String) (bytes : List UInt8) : Archive :=
  ⟨(name, bytes) :: archive.entries.filter fun entry => entry.1 != name⟩

/-- The bytes of an entry. -/
def read (archive : Archive) (name : String) : Except ReadError (List UInt8) :=
  match archive.entries.find? fun entry => entry.1 == name with
  | some entry => .ok entry.2
  | none => .error (.missing name)

/-- The archive that holds a header and nothing else. -/
def ofHeader (header : Header) : Archive :=
  Archive.insert {} Header.entry header.toBytes.toList

/-- An inserted entry reads back. -/
theorem read_insert_self (archive : Archive) (name : String) (bytes : List UInt8) :
    (archive.insert name bytes).read name = .ok bytes := by
  simp [read, insert]

/-- Inserting an entry leaves the others alone. -/
theorem read_insert_of_ne (archive : Archive) {name other : String} (bytes : List UInt8)
    (h : other ≠ name) : (archive.insert name bytes).read other = archive.read other := by
  have hfind : (archive.entries.filter fun entry => entry.1 != name).find?
      (fun entry => entry.1 == other) = archive.entries.find? fun entry => entry.1 == other := by
    rw [List.find?_filter]
    congr 1
    funext entry
    by_cases he : entry.1 = other <;> simp [he, h]
  simp [read, insert, Ne.symm h, hfind]

end Archive

/-- The header of the save state in an archive; an entry that is missing or too short makes it
unreadable. -/
def Header.ofArchive (archive : Archive) : Except HeaderRejection Header :=
  match archive.read Header.entry with
  | .error e => .error (.unreadable e)
  | .ok bytes =>
    match Header.read bytes with
    | .error e => .error (.unreadable e)
    | .ok (header, _) => .ok header

end GuestWatch
