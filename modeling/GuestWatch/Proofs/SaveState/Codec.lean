import GuestWatch.Proofs.Word
import GuestWatch.SaveState.Archive
import Mathlib.Logic.Function.Basic
import Mathlib.Tactic.Lemma

set_option relaxedAutoImplicit false
set_option autoImplicit false

/-!
# Headers and their bytes

The encoder of a header writes its three words one after the other, and the decoder picks twelve bytes
by their places. Each undoes the other. A stream yields a header exactly when it starts with the bytes
of one, and what follows them is left unread. An archive that holds a header yields it, whatever else
it holds.

## Main definitions

* `GuestWatch.wordOf` — four bytes of a list, as a number.
* `GuestWatch.Header.decode` — the header at the start of bytes, read off by numbers.
* `GuestWatch.Archive.insertAll` — entries inserted one after the other.

## Main results

* `GuestWatch.Header.ofBytes_toBytes`, `GuestWatch.Header.toBytes_ofBytes` — headers and their bytes
  determine each other.
* `GuestWatch.Header.read_eq` — the header at the start of a stream.
* `GuestWatch.Header.read_eq_ok_iff` — the streams that yield a header.
* `GuestWatch.Header.roundtrip` — headers in bytes, in streams and in archives.
-/

namespace GuestWatch

/-! ## Bytes of a header -/

/-- Four bytes of a list, as a number. -/
def wordOf (bytes : List UInt8) (offset : Nat) : Nat :=
  ofLittleEndian ((bytes.drop offset).take 4)

/-- Four bytes of a list that is long enough, one by one. -/
lemma take_four_drop {bytes : List UInt8} {offset : Nat} (h : offset + 4 ≤ bytes.length) :
    (bytes.drop offset).take 4 =
      [bytes[offset], bytes[offset + 1], bytes[offset + 2], bytes[offset + 3]] := by
  rw [List.drop_eq_getElem_cons (by omega), List.drop_eq_getElem_cons (by omega),
    List.drop_eq_getElem_cons (by omega), List.drop_eq_getElem_cons (by omega)]
  rfl

/-- Four bytes make a number that fits in a word. -/
lemma wordOf_lt (bytes : List UInt8) (offset : Nat) : wordOf bytes offset < UInt32.size := by
  have hlt := ofLittleEndian_lt ((bytes.drop offset).take 4)
  have hpow : 256 ^ ((bytes.drop offset).take 4).length ≤ 256 ^ 4 :=
    Nat.pow_le_pow_right (by decide) (List.length_take_le _ _)
  exact Nat.lt_of_lt_of_le hlt hpow

/-- Four bytes of a list are those of a word exactly when they make its number. -/
lemma wordOf_eq_iff {bytes : List UInt8} {offset : Nat} (h : offset + 4 ≤ bytes.length)
    (word : UInt32) :
    wordOf bytes offset = word.toNat ↔ (bytes.drop offset).take 4 = Word.bytes word := by
  constructor
  · intro hnumber
    refine eq_of_ofLittleEndian ?_ (hnumber.trans (Word.ofLittleEndian_bytes word).symm)
    rw [take_four_drop h, Word.length_bytes]
    rfl
  · intro hbytes
    rw [wordOf, hbytes, Word.ofLittleEndian_bytes]

namespace Header

/-- The header at the start of bytes. -/
def decode (bytes : List UInt8) : Header where
  magic := UInt32.ofNat (wordOf bytes 0)
  version := UInt32.ofNat (wordOf bytes 4)
  features := UInt32.ofNat (wordOf bytes 8)

lemma toNat_magic_decode (bytes : List UInt8) : (decode bytes).magic.toNat = wordOf bytes 0 :=
  UInt32.toNat_ofNat_of_lt (wordOf_lt bytes 0)

lemma toNat_version_decode (bytes : List UInt8) :
    (decode bytes).version.toNat = wordOf bytes 4 :=
  UInt32.toNat_ofNat_of_lt (wordOf_lt bytes 4)

lemma toNat_features_decode (bytes : List UInt8) :
    (decode bytes).features.toNat = wordOf bytes 8 :=
  UInt32.toNat_ofNat_of_lt (wordOf_lt bytes 8)

/-- A header is decoded from the first twelve bytes. -/
lemma decode_take (bytes : List UInt8) : decode (bytes.take 12) = decode bytes := by
  simp only [decode, wordOf, List.drop_take, List.take_take, Nat.reduceSub]
  rfl

/-- Twelve bytes are decoded where they stand. -/
lemma ofBytes_eq_decode (bytes : Vector UInt8 byteCount) : ofBytes bytes = decode bytes.toList := by
  have hlength : bytes.toList.length = 12 := bytes.length_toList
  simp only [decode, wordOf, take_four_drop (show 0 + 4 ≤ bytes.toList.length by omega),
    take_four_drop (show 4 + 4 ≤ bytes.toList.length by omega),
    take_four_drop (show 8 + 4 ≤ bytes.toList.length by omega), ofBytes, Word.ofBytes,
    Vector.getElem_toList]

/-- **The header at the start of a stream** is read off its first twelve bytes. -/
theorem read_eq (stream : List UInt8) :
    read stream = if 12 ≤ stream.length then .ok (decode stream, stream.drop 12)
      else .error .truncated := by
  unfold read
  by_cases hlong : 12 ≤ stream.length
  · have hbytes : byteCount ≤ stream.length := hlong
    rw [dif_pos hbytes, if_pos hlong, ofBytes_eq_decode, ← decode_take stream]
    rfl
  · have hbytes : ¬ byteCount ≤ stream.length := hlong
    rw [dif_neg hbytes, if_neg hlong]

/-! ## Round trips -/

/-- The bytes of a header are those of its words. -/
lemma toList_toBytes (h : Header) :
    h.toBytes.toList = Word.bytes h.magic ++ (Word.bytes h.version ++ Word.bytes h.features) := by
  simp [toBytes]

/-- **A header is decoded from its bytes**, whatever comes after them. -/
theorem decode_toBytes_append (h : Header) (rest : List UInt8) :
    decode (h.toBytes.toList ++ rest) = h := by
  have hlength : (h.toBytes.toList ++ rest).length = 12 + rest.length := by
    rw [List.length_append, Vector.length_toList, byteCount]
  have hmagic : wordOf (h.toBytes.toList ++ rest) 0 = h.magic.toNat := by
    rw [wordOf_eq_iff (by omega), toList_toBytes]
    simp
  have hversion : wordOf (h.toBytes.toList ++ rest) 4 = h.version.toNat := by
    rw [wordOf_eq_iff (by omega), toList_toBytes]
    simp
  have hfeatures : wordOf (h.toBytes.toList ++ rest) 8 = h.features.toNat := by
    rw [wordOf_eq_iff (by omega), toList_toBytes]
    simp [List.take_append, List.drop_append]
  simp only [decode, hmagic, hversion, hfeatures, UInt32.ofNat_toNat]

/-- **The header at the start of bytes** has the first twelve of them as its own. -/
theorem toBytes_decode {bytes : List UInt8} (h : 12 ≤ bytes.length) :
    (decode bytes).toBytes.toList = bytes.take 12 := by
  have hmagic := (wordOf_eq_iff (by omega) _).mp (toNat_magic_decode bytes).symm
  have hversion := (wordOf_eq_iff (by omega) _).mp (toNat_version_decode bytes).symm
  have hfeatures := (wordOf_eq_iff (by omega) _).mp (toNat_features_decode bytes).symm
  rw [toList_toBytes, ← hmagic, ← hversion, ← hfeatures, List.drop_zero,
    show bytes.take 12 = bytes.take (4 + (4 + 4)) from rfl, List.take_add, List.take_add,
    List.drop_drop]

/-- Decoding undoes encoding. -/
theorem ofBytes_toBytes (h : Header) : ofBytes h.toBytes = h := by
  have hdecode := h.decode_toBytes_append []
  rwa [List.append_nil, ← ofBytes_eq_decode] at hdecode

/-- Encoding undoes decoding. -/
theorem toBytes_ofBytes (bytes : Vector UInt8 byteCount) : (ofBytes bytes).toBytes = bytes := by
  have hlength : bytes.toList.length = 12 := bytes.length_toList
  apply Vector.toList_inj.mp
  rw [ofBytes_eq_decode, toBytes_decode (by omega), ← hlength, List.take_length]

/-! ## Streams -/

/-- **The streams that yield a header** start with its bytes, and what comes after these is left. -/
theorem read_eq_ok_iff {stream rest : List UInt8} {h : Header} :
    read stream = .ok (h, rest) ↔ stream = h.toBytes.toList ++ rest := by
  rw [read_eq]
  constructor
  · intro hread
    split at hread
    · rename_i hlong
      cases hread
      rw [toBytes_decode hlong, List.take_append_drop]
    · cases hread
  · rintro rfl
    have hlength : h.toBytes.toList.length = 12 := h.toBytes.length_toList
    rw [if_pos (by rw [List.length_append, hlength]; exact Nat.le_add_right 12 _),
      decode_toBytes_append, ← hlength, List.drop_left]

/-- A stream yields a header when it is long enough. -/
lemma exists_read_iff {stream : List UInt8} :
    (∃ h rest, read stream = .ok (h, rest)) ↔ byteCount ≤ stream.length := by
  rw [read_eq]
  by_cases hlong : 12 ≤ stream.length
  · rw [if_pos hlong]
    exact iff_of_true ⟨_, _, rfl⟩ hlong
  · rw [if_neg hlong]
    exact iff_of_false (by rintro ⟨h, rest, hread⟩; cases hread) hlong

end Header

/-! ## Archives -/

namespace Archive

/-- The archive with entries inserted one after the other. -/
def insertAll (archive : Archive) (entries : List (String × List UInt8)) : Archive :=
  entries.foldl (fun archive entry => archive.insert entry.1 entry.2) archive

/-- Inserting entries under other names leaves an entry alone. -/
lemma read_insertAll {entries : List (String × List UInt8)} {name : String}
    (h : ∀ entry ∈ entries, entry.1 ≠ name) (archive : Archive) :
    (archive.insertAll entries).read name = archive.read name := by
  induction entries generalizing archive with
  | nil => rfl
  | cons entry rest ih =>
    obtain ⟨hentry, hrest⟩ := List.forall_mem_cons.mp h
    calc (archive.insertAll (entry :: rest)).read name
        = (archive.insert entry.1 entry.2).read name := ih hrest _
      _ = archive.read name := read_insert_of_ne archive entry.2 hentry.symm

/-- An archive that holds the bytes of a header yields it. -/
lemma ofArchive_of_read {archive : Archive} {h : Header}
    (hread : archive.read Header.entry = .ok h.toBytes.toList) :
    Header.ofArchive archive = .ok h := by
  have hheader : Header.read h.toBytes.toList = .ok (h, []) :=
    Header.read_eq_ok_iff.mpr (List.append_nil _).symm
  simp only [Header.ofArchive, hread, hheader]

end Archive

/-- **Headers in bytes, in streams and in archives.** Decoding and encoding undo each other, for every
header and every twelve bytes, so headers correspond to twelve bytes one to one. A stream yields a
header exactly when it holds twelve bytes; it is the header that its first twelve bytes decode to, and
exactly the bytes after them are left unread. In other words the streams that yield a header and leave
a rest are those made of its bytes and the rest. An archive that was made with a header yields it,
after entries were inserted under other names, too.

**Proof sketch.** Both ways each word of the header is told by its number, `wordOf`, which four bytes
and a word share exactly when they are the bytes of the word. -/
theorem Header.roundtrip :
    (∀ h : Header, ofBytes h.toBytes = h) ∧
    (∀ bytes : Vector UInt8 byteCount, (ofBytes bytes).toBytes = bytes) ∧
    Function.Bijective toBytes ∧
    (∀ stream : List UInt8,
      (∃ h rest, read stream = .ok (h, rest)) ↔ byteCount ≤ stream.length) ∧
    (∀ (bytes : Vector UInt8 byteCount) (rest : List UInt8),
      read (bytes.toList ++ rest) = .ok (ofBytes bytes, rest)) ∧
    (∀ (h : Header) (stream rest : List UInt8),
      read stream = .ok (h, rest) ↔ stream = h.toBytes.toList ++ rest) ∧
    ∀ (h : Header) (others : List (String × List UInt8)), (∀ entry ∈ others, entry.1 ≠ Header.entry) →
      ofArchive ((Archive.ofHeader h).insertAll others) = .ok h := by
  refine ⟨ofBytes_toBytes, toBytes_ofBytes,
    Function.bijective_iff_has_inverse.mpr ⟨ofBytes, ofBytes_toBytes, toBytes_ofBytes⟩,
    fun _ => exists_read_iff, fun bytes rest => ?_, fun _ _ _ => read_eq_ok_iff,
    fun h others hothers => ?_⟩
  · rw [read_eq_ok_iff, toBytes_ofBytes]
  · refine Archive.ofArchive_of_read ?_
    rw [Archive.read_insertAll hothers]
    exact Archive.read_insert_self _ _ _

/-- A header of a version that nobody knows is read from an archive that other entries were added to,
two of them under one name, and from a stream that goes on after it. -/
theorem Header.roundtrip_crowded :
    let newer : Header := ⟨0x56415350, 0x01020304, 0x80000000⟩
    let others : List (String × List UInt8) := [("scratch", [1, 2]), ("ram", []), ("scratch", [3])]
    (∀ entry ∈ others, entry.1 ≠ Header.entry) ∧
      ofArchive ((Archive.ofHeader newer).insertAll others) = .ok newer ∧
      read [0x50, 0x53, 0x41, 0x56, 4, 3, 2, 1, 0, 0, 0, 0x80, 0xff] = .ok (newer, [0xff]) ∧
      ofBytes newer.toBytes = newer := by
  intro newer others
  have hothers : ∀ entry ∈ others, entry.1 ≠ Header.entry := by decide
  obtain ⟨hback, -, -, -, -, hstreams, harchives⟩ := roundtrip
  exact ⟨hothers, harchives newer others hothers, (hstreams newer _ [0xff]).mpr (by decide), hback newer⟩

end GuestWatch
