import GuestWatch.Monitor.Step
import GuestWatch.Proofs.SaveState.Codec

set_option relaxedAutoImplicit false
set_option autoImplicit false

/-!
# The gate of save states

In hardcore mode a save state may be used as far as the header in its archive permits. The header is
decoded from a stream and passes through two checks, and the gate stands in two places. What comes
out of this is described here by the bytes of the archive alone: which of them a use needs, and which
rejection names the first thing that is wrong with them.

## Main definitions

* `GuestWatch.Archive.Marked`, `GuestWatch.Archive.Understood` — archives that may be saved to, and
  those that may be loaded.
* `GuestWatch.Archive.Rejects` — the first thing that is wrong with an archive.

## Main results

* `GuestWatch.Archive.judge_eq_error_iff`, `GuestWatch.Archive.judge_eq_ok_iff` — what comes of the
  checks of an archive.
* `GuestWatch.Monitor.gate` — what the gate decides, in all places, and what it leaves behind.
-/

namespace GuestWatch

/-! ## Unknown features -/

namespace Header

/-- The unknown feature bits are those that are set and not known. -/
lemma testBit_unknownFeatures (h : Header) (i : Nat) :
    h.unknownFeatures.toNat.testBit i =
      (h.features.toNat.testBit i && !knownFeatures.toNat.testBit i) := by
  by_cases hi : i < 32
  · have hnot : (~~~knownFeatures.toBitVec).getLsbD i = !knownFeatures.toBitVec.getLsbD i := by
      rw [BitVec.getLsbD_not, decide_eq_true hi, Bool.true_and]
    calc h.unknownFeatures.toNat.testBit i
        = (h.features.toBitVec &&& ~~~knownFeatures.toBitVec).getLsbD i := rfl
      _ = (h.features.toBitVec.getLsbD i && !knownFeatures.toBitVec.getLsbD i) := by
        rw [BitVec.getLsbD_and, hnot]
  · have hlarge : ∀ word : UInt32, word.toNat.testBit i = false := fun word =>
      Nat.testBit_lt_two_pow (Nat.lt_of_lt_of_le word.toNat_lt
        (Nat.pow_le_pow_right (by decide) (Nat.le_of_not_lt hi)))
    rw [hlarge, hlarge, Bool.false_and]

end Header

/-! ## Archives -/

namespace Archive

/-- The archive holds a header of at least twelve bytes that starts with the magic number, the
letters `PSAV`. This is all that a save needs. -/
structure Marked (archive : Archive) (bytes : List UInt8) : Prop where
  /-- The entry is there. -/
  holds : archive.read "header" = .ok bytes
  /-- It is long enough. -/
  long : 12 ≤ bytes.length
  /-- It starts with the magic number. -/
  magic : bytes.take 4 = [0x50, 0x53, 0x41, 0x56]

/-- The archive is marked, its version is one, and each of its feature bits is known. This is what a
load needs. -/
structure Understood (archive : Archive) (bytes : List UInt8) : Prop extends
    archive.Marked bytes where
  /-- The version is one. -/
  version : (bytes.drop 4).take 4 = [1, 0, 0, 0]
  /-- Each feature bit is known. -/
  features : ∀ i, (wordOf bytes 8).testBit i = true → Header.knownFeatures.toNat.testBit i = true

/-- **The first thing that is wrong with an archive**, by the rejection that names it: no header, a
header that is too short, another magic number, and for a load another version or unknown features,
in this order. -/
inductive Rejects (archive : Archive) : StateUse → HeaderRejection → Prop
  /-- No entry has the name of the header. -/
  | missing {use : StateUse} (hnone : ∀ entry ∈ archive.entries, entry.1 ≠ "header") :
    Rejects archive use (.unreadable (.missing "header"))
  /-- The header is shorter than twelve bytes. -/
  | truncated {use : StateUse} {bytes : List UInt8} (hholds : archive.read "header" = .ok bytes)
    (hshort : bytes.length < 12) : Rejects archive use (.unreadable .truncated)
  /-- The header starts with another word. -/
  | magic {use : StateUse} {bytes : List UInt8} {found : UInt32}
    (hholds : archive.read "header" = .ok bytes) (hlong : 12 ≤ bytes.length)
    (hother : bytes.take 4 ≠ [0x50, 0x53, 0x41, 0x56]) (hfound : found.toNat = wordOf bytes 0) :
    Rejects archive use (.badMagic found)
  /-- The version is another one. -/
  | version {bytes : List UInt8} {found : UInt32} (hmarked : archive.Marked bytes)
    (hother : (bytes.drop 4).take 4 ≠ [1, 0, 0, 0]) (hfound : found.toNat = wordOf bytes 4) :
    Rejects archive .load (.unsupportedVersion found)
  /-- Some feature bits are not known. The rejection names exactly these. -/
  | features {bytes : List UInt8} {found : UInt32} (hmarked : archive.Marked bytes)
    (hversion : (bytes.drop 4).take 4 = [1, 0, 0, 0])
    (hfound : ∀ i, found.toNat.testBit i =
      ((wordOf bytes 8).testBit i && !Header.knownFeatures.toNat.testBit i))
    (hsome : found ≠ 0) : Rejects archive .load (.unsupportedFeatures found)

/-- What a use needs of an archive. -/
def Permits (archive : Archive) : StateUse → Prop
  | .save => ∃ bytes, archive.Marked bytes
  | .load => ∃ bytes, archive.Understood bytes

/-- What comes of the checks of an archive. -/
def judge (archive : Archive) (use : StateUse) : Except HeaderRejection Unit :=
  match Header.ofArchive archive with
  | .error rejection => .error rejection
  | .ok header => Hardcore.checkHeader use header

/-- An entry cannot be read exactly when there is none of that name. -/
lemma read_eq_error_iff {archive : Archive} {name : String} {error : ReadError} :
    archive.read name = .error error ↔
      error = .missing name ∧ ∀ entry ∈ archive.entries, entry.1 ≠ name := by
  unfold read
  cases hfind : archive.entries.find? fun entry => entry.1 == name with
  | some entry =>
    have hmem := List.mem_of_find?_eq_some hfind
    have hname : entry.1 = name := by simpa using List.find?_some hfind
    exact ⟨nofun, fun h => absurd hname (h.2 entry hmem)⟩
  | none =>
    have hother : ∀ entry ∈ archive.entries, entry.1 ≠ name := fun entry hmem hname =>
      List.find?_eq_none.mp hfind entry hmem (beq_iff_eq.mpr hname)
    constructor
    · intro h
      cases h
      exact ⟨rfl, hother⟩
    · rintro ⟨rfl, -⟩
      rfl

/-- Without a header nothing is permitted. -/
lemma judge_of_error {archive : Archive} {error : ReadError}
    (h : archive.read "header" = .error error) (use : StateUse) :
    archive.judge use = .error (.unreadable error) := by
  simp only [judge, Header.ofArchive, Header.entry, h]

/-- A header that is long enough is decoded and checked. -/
lemma judge_of_ok {archive : Archive} {bytes : List UInt8}
    (h : archive.read "header" = .ok bytes) (use : StateUse) :
    archive.judge use = if 12 ≤ bytes.length then Hardcore.checkHeader use (Header.decode bytes)
      else .error (.unreadable .truncated) := by
  by_cases hlong : 12 ≤ bytes.length <;>
    simp only [judge, Header.ofArchive, Header.entry, h, Header.read_eq, hlong, if_true, if_false]

end Archive

/-! ## Checks of a header -/

namespace Header

variable {bytes : List UInt8}

/-- The magic number is the expected one where the bytes start with it. -/
lemma magic_decode_iff (h : 12 ≤ bytes.length) :
    (decode bytes).magic = expectedMagic ↔ bytes.take 4 = [0x50, 0x53, 0x41, 0x56] := by
  rw [← UInt32.toNat_inj, toNat_magic_decode, wordOf_eq_iff (by omega)]
  rfl

/-- The version is understood where its bytes say one. -/
lemma version_decode_iff (h : 12 ≤ bytes.length) :
    (decode bytes).version = 1 ↔ (bytes.drop 4).take 4 = [1, 0, 0, 0] := by
  rw [← UInt32.toNat_inj, toNat_version_decode, wordOf_eq_iff (by omega)]
  rfl

/-- No feature is unknown where each feature bit is known. -/
lemma unknownFeatures_decode_iff :
    (decode bytes).unknownFeatures = 0 ↔
      ∀ i, (wordOf bytes 8).testBit i = true → knownFeatures.toNat.testBit i = true := by
  have hbits := testBit_unknownFeatures (decode bytes)
  rw [toNat_features_decode] at hbits
  constructor
  · intro hnone i hset
    have hclear := hbits i
    rw [hnone, hset, Bool.true_and] at hclear
    simpa using hclear.symm
  · intro hknown
    refine Word.eq_of_testBit fun i => ?_
    rw [hbits i]
    cases hset : (wordOf bytes 8).testBit i with
    | false => simp
    | true => simp [hknown i hset]

/-- What the check of a decoded header comes to: its magic number, and for a load its version and
its features. -/
lemma checkHeader_decode (use : StateUse) (bytes : List UInt8) :
    Hardcore.checkHeader use (decode bytes) =
      if (decode bytes).magic = expectedMagic then
        match use with
        | .save => .ok ()
        | .load =>
          if (decode bytes).version = 1 then
            if (decode bytes).unknownFeatures = 0 then .ok ()
            else .error (.unsupportedFeatures (decode bytes).unknownFeatures)
          else .error (.unsupportedVersion (decode bytes).version)
      else .error (.badMagic (decode bytes).magic) := by
  unfold Hardcore.checkHeader checkMagic checkCompatible Version.ofCode?
  by_cases hmagic : (decode bytes).magic = expectedMagic
  case neg => simp only [hmagic, if_false]
  cases use with
  | save => simp only [hmagic, if_true]
  | load =>
    by_cases hversion : (decode bytes).version = 1
    case neg => simp only [hmagic, hversion, if_true, if_false]
    by_cases hunknown : (decode bytes).unknownFeatures = 0 <;>
      simp only [hmagic, hversion, hunknown, if_true, if_false]

end Header

namespace Archive

variable {archive : Archive} {use : StateUse}

/-- The checks of a marked archive are those of the version and the features. -/
lemma judge_of_marked {bytes : List UInt8} (h : archive.Marked bytes) (use : StateUse) :
    archive.judge use = Hardcore.checkHeader use (Header.decode bytes) ∧
      (Header.decode bytes).magic = Header.expectedMagic := by
  rw [judge_of_ok h.holds, if_pos h.long]
  exact ⟨rfl, (Header.magic_decode_iff h.long).mpr h.magic⟩

/-- An archive that has what a use needs passes the checks. -/
lemma judge_of_permits (h : archive.Permits use) : archive.judge use = .ok () := by
  cases use with
  | save =>
    obtain ⟨bytes, hmarked⟩ := h
    obtain ⟨hjudge, hmagic⟩ := judge_of_marked hmarked .save
    rw [hjudge, Header.checkHeader_decode, if_pos hmagic]
  | load =>
    obtain ⟨bytes, hmarked, hversion, hfeatures⟩ := h
    obtain ⟨hjudge, hmagic⟩ := judge_of_marked hmarked .load
    have hone := (Header.version_decode_iff hmarked.long).mpr hversion
    have hnone := Header.unknownFeatures_decode_iff.mpr hfeatures
    rw [hjudge, Header.checkHeader_decode]
    simp only [if_pos hmagic, if_pos hone, if_pos hnone]

/-- What is wrong with an archive is what the checks reject it for. -/
lemma judge_of_rejects {rejection : HeaderRejection} (h : archive.Rejects use rejection) :
    archive.judge use = .error rejection := by
  cases h with
  | missing hnone => exact judge_of_error (read_eq_error_iff.mpr ⟨rfl, hnone⟩) use
  | truncated hholds hshort => rw [judge_of_ok hholds, if_neg (by omega)]
  | @magic _ bytes found hholds hlong hother hfound =>
    have hsame : (Header.decode bytes).magic = found :=
      UInt32.toNat_inj.mp ((Header.toNat_magic_decode bytes).trans hfound.symm)
    rw [judge_of_ok hholds, if_pos hlong, Header.checkHeader_decode,
      if_neg (mt (Header.magic_decode_iff hlong).mp hother), hsame]
  | @version bytes found hmarked hother hfound =>
    obtain ⟨hjudge, hmagic⟩ := judge_of_marked hmarked .load
    have hversion := mt (Header.version_decode_iff hmarked.long).mp hother
    have hsame : (Header.decode bytes).version = found :=
      UInt32.toNat_inj.mp ((Header.toNat_version_decode bytes).trans hfound.symm)
    rw [hjudge, Header.checkHeader_decode]
    simp only [if_pos hmagic, if_neg hversion]
    rw [hsame]
  | @features bytes found hmarked hversion hfound hsome =>
    obtain ⟨hjudge, hmagic⟩ := judge_of_marked hmarked .load
    have hone := (Header.version_decode_iff hmarked.long).mpr hversion
    have hsame : (Header.decode bytes).unknownFeatures = found := by
      refine Word.eq_of_testBit fun i => ?_
      rw [Header.testBit_unknownFeatures, Header.toNat_features_decode, hfound]
    rw [hjudge, Header.checkHeader_decode]
    simp only [if_pos hmagic, if_pos hone, hsame, if_neg hsome]

/-- An archive has what a use needs, or something is wrong with it.

**Proof sketch.** One check after the other, in their order. -/
lemma permits_or_rejects (archive : Archive) (use : StateUse) :
    archive.Permits use ∨ ∃ rejection, archive.Rejects use rejection := by
  cases hread : archive.read "header" with
  | error e => exact Or.inr ⟨_, .missing (read_eq_error_iff.mp hread).2⟩
  | ok bytes =>
    by_cases hlong : 12 ≤ bytes.length
    case neg => exact Or.inr ⟨_, .truncated hread (by omega)⟩
    by_cases hmagic : bytes.take 4 = [0x50, 0x53, 0x41, 0x56]
    case neg => exact Or.inr ⟨_, .magic hread hlong hmagic (Header.toNat_magic_decode bytes)⟩
    have hmarked : archive.Marked bytes := ⟨hread, hlong, hmagic⟩
    cases use with
    | save => exact Or.inl ⟨bytes, hmarked⟩
    | load =>
      by_cases hversion : (bytes.drop 4).take 4 = [1, 0, 0, 0]
      case neg => exact Or.inr ⟨_, .version hmarked hversion (Header.toNat_version_decode bytes)⟩
      by_cases hfeatures : (Header.decode bytes).unknownFeatures = 0
      · exact Or.inl ⟨bytes, hmarked, hversion, Header.unknownFeatures_decode_iff.mp hfeatures⟩
      · refine Or.inr ⟨_, .features hmarked hversion (fun i => ?_) hfeatures⟩
        rw [Header.testBit_unknownFeatures, Header.toNat_features_decode]

/-- **An archive passes the checks** exactly when it has what the use needs. -/
theorem judge_eq_ok_iff : archive.judge use = .ok () ↔ archive.Permits use := by
  refine ⟨fun hpassed => ?_, judge_of_permits⟩
  rcases permits_or_rejects archive use with hpermits | ⟨rejection, hrejects⟩
  · exact hpermits
  · rw [judge_of_rejects hrejects] at hpassed
    cases hpassed

/-- **An archive is rejected** for the first thing that is wrong with it. -/
theorem judge_eq_error_iff {rejection : HeaderRejection} :
    archive.judge use = .error rejection ↔ archive.Rejects use rejection := by
  refine ⟨fun hfailed => ?_, judge_of_rejects⟩
  rcases permits_or_rejects archive use with hpermits | ⟨other, hrejects⟩
  · rw [judge_of_permits hpermits] at hfailed
    cases hfailed
  · rw [judge_of_rejects hrejects] at hfailed
    cases hfailed
    exact hrejects

/-- Archives whose headers agree in their first twelve bytes get the same judgement. -/
lemma judge_congr {other : Archive}
    (h : (other.read "header").map (List.take 12) = (archive.read "header").map (List.take 12))
    (use : StateUse) : other.judge use = archive.judge use := by
  cases hother : other.read "header" with
  | error e =>
    cases hthis : archive.read "header" with
    | error e' =>
      rw [hother, hthis] at h
      cases h
      rw [judge_of_error hother, judge_of_error hthis]
    | ok bytes =>
      rw [hother, hthis] at h
      cases h
  | ok bytes =>
    cases hthis : archive.read "header" with
    | error e =>
      rw [hother, hthis] at h
      cases h
    | ok bytes' =>
      rw [hother, hthis] at h
      have hfirst : bytes.take 12 = bytes'.take 12 := by
        injection h
      have hlength := congrArg List.length hfirst
      simp only [List.length_take] at hlength
      rw [judge_of_ok hother, judge_of_ok hthis, ← Header.decode_take bytes, hfirst,
        Header.decode_take bytes']
      by_cases hlong : 12 ≤ bytes.length
      · rw [if_pos hlong, if_pos (by omega)]
      · rw [if_neg hlong, if_neg (by omega)]

end Archive

/-! ## The gate -/

/-- The gate of hardcore mode judges the archive, and lets everything through outside that mode. -/
lemma Hardcore.inspect_eq (h : Hardcore) (archive : Archive) (use : StateUse) :
    h.inspect archive use =
      if h.enabled then
        match archive.judge use with
        | .ok _ => .ok ()
        | .error rejection => .error (.headerInvalid rejection)
      else .ok () := by
  unfold inspect Archive.judge
  cases Header.ofArchive archive with
  | error rejection => rfl
  | ok header => cases hcheck : checkHeader use header <;> simp only [hcheck]

/-- Outside hardcore mode the gate is open. -/
lemma Hardcore.inspect_of_disabled {h : Hardcore} (hoff : h.enabled = false) (archive : Archive)
    (use : StateUse) : h.inspect archive use = .ok () := by
  rw [inspect_eq, hoff]
  rfl

/-- In hardcore mode the gate permits what the archive permits. -/
lemma Hardcore.inspect_eq_ok_iff {h : Hardcore} (hon : h.enabled = true) (archive : Archive)
    (use : StateUse) : h.inspect archive use = .ok () ↔ archive.Permits use := by
  rw [inspect_eq, hon, if_pos rfl, ← Archive.judge_eq_ok_iff]
  cases archive.judge use with
  | ok _ => exact ⟨fun _ => rfl, fun _ => rfl⟩
  | error rejection => exact ⟨nofun, nofun⟩

/-- A refusal is for the first thing that is wrong with the archive. -/
lemma Hardcore.inspect_eq_error_iff (h : Hardcore) (archive : Archive) (use : StateUse)
    (fault : Fault) : h.inspect archive use = .error fault ↔
      h.enabled = true ∧ ∃ rejection, fault = .headerInvalid rejection ∧
        archive.Rejects use rejection := by
  cases hon : h.enabled with
  | false =>
    rw [inspect_of_disabled hon]
    exact ⟨nofun, nofun⟩
  | true =>
    simp only [inspect_eq, hon, if_true, true_and, ← Archive.judge_eq_error_iff]
    cases archive.judge use with
    | ok _ => exact ⟨nofun, nofun⟩
    | error rejection =>
      constructor
      · intro hfault
        cases hfault
        exact ⟨rejection, rfl, rfl⟩
      · rintro ⟨other, rfl, hsame⟩
        cases hsame
        rfl

/-- What counting a refused header does to the tally. -/
lemma Tally.countDenied_record (t : Tally) (rejection : HeaderRejection) :
    (t.record (.headerInvalid rejection)).countDenied =
      { t with
        lastKind := some .header
        lastAddress := none
        header := Word.satAdd t.header 1
        denied := Word.satAdd t.denied 1 } := rfl

/-- **What the gate decides, in all places, and what it leaves behind.** Outside hardcore mode it is
open. In hardcore mode it permits what the archive permits: a save where the header is marked, a
load where it is understood. So what may be loaded may be saved, and nothing matters but the first
twelve bytes of the header. A refusal is for the first thing that is wrong with the archive. The
check of hardcore mode, its report and the monitor give the same answer. What is asked of hardcore
mode changes nothing. What is asked of the monitor changes nothing where it is permitted. Where it
is refused, the last fault and its address, the number of header faults and the number of refusals
change, and nothing else.

**Proof sketch.** The checks of an archive come to a judgement, and a case analysis, in the order of
the checks, shows that the archive either has what the use needs or has something wrong with it. -/
theorem Monitor.gate (m : Monitor) (archive : Archive) :
    (m.hardcore.enabled = false → ∀ use, m.hardcore.inspect archive use = .ok ()) ∧
      (m.hardcore.enabled = true →
        (m.hardcore.inspect archive .save = .ok () ↔ ∃ bytes, archive.Marked bytes) ∧
        (m.hardcore.inspect archive .load = .ok () ↔ ∃ bytes, archive.Understood bytes)) ∧
      (m.hardcore.inspect archive .load = .ok () → m.hardcore.inspect archive .save = .ok ()) ∧
      (∀ other : Archive,
        (other.read "header").map (List.take 12) = (archive.read "header").map (List.take 12) →
        ∀ use, m.hardcore.inspect other use = m.hardcore.inspect archive use) ∧
      ∀ use,
        (∀ fault, m.hardcore.inspect archive use = .error fault ↔
          m.hardcore.enabled = true ∧ ∃ rejection, fault = .headerInvalid rejection ∧
            archive.Rejects use rejection) ∧
        (m.hardcore.allows archive use).value = (m.hardcore.inspect archive use).isOk ∧
        (m.allows archive use).value = (m.hardcore.inspect archive use).isOk ∧
        (m.hardcore.allows archive use).state = m.hardcore ∧
        ((m.allows archive use).value = true → (m.allows archive use).state = m) ∧
        ((m.allows archive use).value = false → (m.allows archive use).state =
          { m with tally := { m.tally with
              lastKind := some .header
              lastAddress := none
              header := Word.satAdd m.tally.header 1
              denied := Word.satAdd m.tally.denied 1 } }) := by
  refine ⟨fun hoff use => Hardcore.inspect_of_disabled hoff archive use, fun hon => ?_, ?_, ?_,
    fun use => ⟨fun fault => m.hardcore.inspect_eq_error_iff archive use fault, ?_⟩⟩
  · exact ⟨Hardcore.inspect_eq_ok_iff hon archive .save, Hardcore.inspect_eq_ok_iff hon archive .load⟩
  · cases hmode : m.hardcore.enabled with
    | false => exact fun _ => Hardcore.inspect_of_disabled hmode archive .save
    | true =>
      intro hload
      obtain ⟨bytes, hunderstood⟩ := (Hardcore.inspect_eq_ok_iff hmode archive .load).mp hload
      exact (Hardcore.inspect_eq_ok_iff hmode archive .save).mpr ⟨bytes, hunderstood.toMarked⟩
  · intro other hsame use
    rw [Hardcore.inspect_eq, Hardcore.inspect_eq, Archive.judge_congr hsame]
  · cases hinspect : m.hardcore.inspect archive use with
    | ok _ =>
      simp only [Hardcore.allows, allows, hinspect]
      exact ⟨rfl, rfl, trivial, fun _ => trivial, nofun⟩
    | error fault =>
      obtain ⟨-, rejection, rfl, -⟩ :=
        (m.hardcore.inspect_eq_error_iff archive use fault).mp hinspect
      simp only [Hardcore.allows, allows, hinspect, Tally.countDenied_record]
      exact ⟨rfl, rfl, trivial, nofun, fun _ => trivial⟩

/-- A header of a version that is still to come may be saved over, but not loaded, and the refusal
is counted. -/
theorem Monitor.gate_newer :
    let m : Monitor := { hardcore := { guard := { enabled := true } } }
    let newer := Archive.insert {} "header" [0x50, 0x53, 0x41, 0x56, 2, 0, 0, 0, 3, 0, 0, 0, 0xff]
    (m.allows newer .save).value = true ∧ (m.allows newer .load).value = false ∧
      m.hardcore.inspect newer .load = .error (.headerInvalid (.unsupportedVersion 2)) ∧
      (m.allows newer .load).state.tally.denied = 1 := by
  intro m newer
  have hmarked : newer.Marked _ := ⟨rfl, by decide, rfl⟩
  obtain ⟨-, hpermitted, -, -, hplaces⟩ := gate m newer
  have hsave := (hpermitted rfl).1.mpr ⟨_, hmarked⟩
  have hload : m.hardcore.inspect newer .load = .error (.headerInvalid (.unsupportedVersion 2)) :=
    ((hplaces .load).1 _).mpr ⟨rfl, _, rfl, .version hmarked (by decide) rfl⟩
  obtain ⟨-, -, hsaved, -⟩ := hplaces .save
  obtain ⟨-, -, hloaded, -, -, hdenied⟩ := hplaces .load
  rw [hsave] at hsaved
  rw [hload] at hloaded
  refine ⟨hsaved, hloaded, hload, ?_⟩
  rw [hdenied hloaded]
  rfl

end GuestWatch
