import GreenCurve.PayloadContainer

/-! # What the installer accepts

An accepted container is what it says it is: it ends where the footer begins, its entries
lie behind its directory and match their checksums, and their names are bare and pairwise
different (`ensures_footer`, `ensures_archive`).  No operation of the validation wraps,
whatever the fields hold.  What the build tool packs under safe names is accepted, and the
directory gives it back (`returns_archive`). -/

namespace GreenCurve.Payload

open Checked (Ensures Returns ensures_pure ensures_refuse ensures_add ensures_sub ensures_mul
  returns_pure returns_refuse returns_add returns_sub returns_mul)
open Crc32 (gcCrc32 zlibCrc32 gcCrc32_eq_zlib)

theorem Blob.toNat_size (blob : Blob) : blob.size.toNat = blob.bytes.length :=
  UInt64.toNat_ofNat_of_lt' blob.length_lt

/-! ## The footer -/

/-- **An accepted footer** says where the container ends: where the footer begins. -/
theorem ensures_footer (footer : GcPayloadFooter) (fileSize maxUncompressed : UInt64) :
    Ensures (gcPayloadValidateFooter footer fileSize maxUncompressed) fun _ =>
      footer.archiveOffset.toNat + footer.uncompressedSize.toNat + 44 = fileSize.toNat := by
  unfold gcPayloadValidateFooter
  refine ensures_refuse.bind fun _ _ => ensures_refuse.bind fun _ _ =>
    ensures_refuse.bind fun _ hmethod => ensures_refuse.bind fun _ _ =>
    ensures_refuse.bind fun _ _ => ensures_refuse.bind fun _ hstored =>
    ensures_refuse.bind fun _ hfile => ?_
  refine (ensures_sub (UInt64.not_lt.mp hfile)).bind fun footerStart hstart => ?_
  refine ensures_refuse.bind fun _ hoffset => ?_
  refine (ensures_sub (UInt64.not_lt.mp hoffset)).bind fun stored hleft => ?_
  refine ensures_refuse.bind fun _ hsize => ensures_refuse.mono fun _ _ => ?_
  have hsame : footer.compressedSize = footer.uncompressedSize := by
    by_contra hne
    exact hstored ⟨not_not.mp hmethod, hne⟩
  have hcontainer : footer.uncompressedSize = stored := hsame ▸ not_not.mp hsize
  rw [hcontainer]
  have hfooter : (44 : UInt64).toNat = 44 := rfl
  omega

/-! ## The entries -/

theorem sameName_iff {a b : List UInt8} :
    sameName a b = true ↔ a.map asciiLower = b.map asciiLower := by
  induction a generalizing b with
  | nil => cases b <;> simp [sameName]
  | cons a as ih =>
    cases b with
    | nil => simp [sameName]
    | cons b bs =>
      unfold sameName
      split <;> simp_all

/-- The names differ in more than the case of their letters. -/
def Differ (a b : GcArchiveEntry) : Prop :=
  a.text.bytes.map asciiLower ≠ b.text.bytes.map asciiLower

/-- **An entry in its container**: a bare name, data behind the directory and within the
container, and the checksum of that data. -/
structure Placed (container : Blob) (dataStart : Nat) (entry : GcArchiveEntry) : Prop where
  terminated : 0 ∈ entry.name
  name : BareName entry.text.bytes
  start : dataStart ≤ entry.dataOffset.toNat
  inside : entry.dataOffset.toNat + entry.dataSize.toNat ≤ container.bytes.length
  checksum : gcCrc32 (entry.content container) 0 = entry.dataCrc32

theorem ensures_checkEntry (container : Blob) (dataStart : UInt64) (seen : List GcArchiveEntry)
    (entry : GcArchiveEntry) :
    Ensures (checkEntry container dataStart seen entry) fun _ =>
      Placed container dataStart.toNat entry ∧ ∀ earlier ∈ seen, Differ earlier entry := by
  unfold checkEntry
  refine ensures_refuse.bind fun _ hname => ensures_refuse.bind fun _ hstart =>
    ensures_refuse.bind fun _ hlarge => ?_
  refine (ensures_sub (UInt64.not_lt.mp hlarge)).bind fun last hlast => ?_
  refine ensures_refuse.bind fun _ hrange => ensures_refuse.bind fun _ hcrc =>
    ensures_refuse.mono fun _ hseen => ?_
  rw [not_or, not_not, Bool.not_eq_false] at hname
  rw [container.toNat_size] at hlast
  have hlow : dataStart.toNat ≤ entry.dataOffset.toNat :=
    UInt64.le_iff_toNat_le.mp (UInt64.not_lt.mp hstart)
  have hhigh : entry.dataOffset.toNat ≤ last.toNat :=
    UInt64.le_iff_toNat_le.mp (UInt64.not_lt.mp hrange)
  refine ⟨⟨hname.1, ((gcArchiveNameIsSafe_iff entry.text).mp hname.2).1, hlow, by omega,
    not_not.mp hcrc⟩, fun earlier hearlier hsame => hseen ?_⟩
  exact List.any_eq_true.mpr ⟨earlier, hearlier, sameName_iff.mpr hsame⟩

/-- The loop over the directory: the invariant is that the entries seen differ from those
to come. -/
theorem ensures_checkEntries (container : Blob) (dataStart : UInt64)
    (seen rest : List GcArchiveEntry) :
    Ensures (checkEntries container dataStart seen rest) fun _ =>
      (∀ entry ∈ rest, Placed container dataStart.toNat entry) ∧
        (∀ earlier ∈ seen, ∀ entry ∈ rest, Differ earlier entry) ∧ rest.Pairwise Differ := by
  induction rest generalizing seen with
  | nil => exact ensures_pure ⟨by simp, by simp, .nil⟩
  | cons entry rest ih =>
    refine (ensures_checkEntry container dataStart seen entry).bind fun _ hentry => ?_
    refine (ih (seen ++ [entry])).mono fun _ hrest => ?_
    obtain ⟨hplaced, hdiffer, hpairwise⟩ := hrest
    refine ⟨List.forall_mem_cons.mpr ⟨hentry.1, hplaced⟩, fun earlier hearlier => ?_,
      List.pairwise_cons.mpr ⟨fun later hlater => hdiffer entry (by simp) later hlater, hpairwise⟩⟩
    refine List.forall_mem_cons.mpr ⟨hentry.2 earlier hearlier, fun later hlater => ?_⟩
    exact hdiffer earlier (List.mem_append_left _ hearlier) later hlater

theorem length_readEntries (n : Nat) (bytes : List UInt8) : (readEntries n bytes).length = n := by
  induction n generalizing bytes with
  | zero => rfl
  | succ n ih => rw [readEntries, List.length_cons, ih]

/-- **An accepted directory**: every entry in its place, and no two of one name. -/
theorem ensures_archive (container : Blob) :
    Ensures (gcArchiveValidate container) fun entries =>
      (∀ entry ∈ entries, Placed container (12 + 88 * entries.length) entry) ∧
        entries.Pairwise Differ := by
  unfold gcArchiveValidate
  refine ensures_refuse.bind fun _ _ => ensures_refuse.bind fun _ _ =>
    ensures_refuse.bind fun _ hcount => ?_
  rw [not_or, Nat.not_lt] at hcount
  have hfiles : (readU32 container.bytes 8).toNat ≤ 16 := hcount.2
  have hwide : (readU32 container.bytes 8).toUInt64.toNat = (readU32 container.bytes 8).toNat :=
    UInt32.toNat_toUInt64 _
  have hrecord : (88 : UInt64).toNat = 88 := rfl
  have hheader : (12 : UInt64).toNat = 12 := rfl
  refine (ensures_mul (by rw [hwide, hrecord]; omega)).bind fun directoryBytes hdirectory => ?_
  rw [hwide, hrecord] at hdirectory
  refine (ensures_add (by rw [hheader]; omega)).bind fun dataStart hdata => ?_
  rw [hheader] at hdata
  refine ensures_refuse.bind fun _ _ => ?_
  refine (ensures_checkEntries container dataStart [] _).bind fun _ hentries => ensures_pure ?_
  have hstart : 12 + 88 * (readU32 container.bytes 8).toNat = dataStart.toNat := by omega
  rw [length_readEntries, hstart]
  exact ⟨hentries.1, hentries.2.2⟩

/-! ## Names of the build tool -/

theorem asciiLower_ofNat {n : Nat} (h : n < 256) :
    asciiLower (UInt8.ofNat n) = UInt8.ofNat (if 65 ≤ n ∧ n ≤ 90 then n + 32 else n) := by
  have hn : (UInt8.ofNat n).toNat = n := UInt8.toNat_ofNat_of_lt' h
  have hupper : (char 'A' ≤ UInt8.ofNat n ∧ UInt8.ofNat n ≤ char 'Z') ↔ 65 ≤ n ∧ n ≤ 90 := by
    rw [UInt8.le_iff_toNat_le, UInt8.le_iff_toNat_le, hn]
    rfl
  unfold asciiLower
  by_cases hletter : 65 ≤ n ∧ n ≤ 90
  · rw [if_pos (hupper.mpr hletter), if_pos hletter, UInt8.ofNat_add]
    rfl
  · rw [if_neg (mt hupper.mp hletter), if_neg hletter]

theorem toNat_toLower (c : Char) : c.toLower.val.toNat =
    if 65 ≤ c.val.toNat ∧ c.val.toNat ≤ 90 then c.val.toNat + 32 else c.val.toNat := by
  have hupper : (c.val ≥ 'A'.val ∧ c.val ≤ 'Z'.val) ↔ 65 ≤ c.val.toNat ∧ c.val.toNat ≤ 90 := by
    rw [ge_iff_le, UInt32.le_iff_toNat_le, UInt32.le_iff_toNat_le]
    rfl
  unfold Char.toLower
  by_cases hletter : 65 ≤ c.val.toNat ∧ c.val.toNat ≤ 90
  · rw [dif_pos (hupper.mpr hletter), if_pos hletter]
    change (c.val + 32).toNat = _
    rw [UInt32.toNat_add]
    change (c.val.toNat + 32) % 2 ^ 32 = _
    omega
  · rw [dif_neg (mt hupper.mp hletter), if_neg hletter]

/-- The case of an ASCII letter is a bit of its byte; no other character has such a byte. -/
theorem utf8EncodeChar_toLower (c : Char) :
    (String.utf8EncodeChar c).map asciiLower = String.utf8EncodeChar c.toLower := by
  have hhigh : ∀ n, 128 ≤ n → n < 256 → asciiLower (UInt8.ofNat n) = UInt8.ofNat n := by
    intro n hlow hlt
    rw [asciiLower_ofNat hlt, if_neg (by omega)]
  have hlower := toNat_toLower c
  by_cases hascii : c.val.toNat ≤ 0x7f
  · have hascii' : c.toLower.val.toNat ≤ 0x7f := by
      rw [hlower]
      split <;> omega
    have hone : ∀ d : Char, d.val.toNat ≤ 0x7f →
        String.utf8EncodeChar d = [UInt8.ofNat d.val.toNat] := fun d hd => if_pos hd
    rw [hone c hascii, hone _ hascii', List.map_cons, List.map_nil,
      asciiLower_ofNat (show c.val.toNat < 256 by omega), hlower]
  · have hsame : c.toLower = c := by
      refine Char.ext (UInt32.toNat.inj ?_)
      rw [hlower, if_neg (by omega)]
    rw [hsame]
    unfold String.utf8EncodeChar
    simp only [if_neg hascii]
    split
    · simp only [List.map_cons, List.map_nil]
      rw [hhigh _ (by omega) (by omega), hhigh _ (by omega) (by omega)]
    · split
      · simp only [List.map_cons, List.map_nil]
        rw [hhigh _ (by omega) (by omega), hhigh _ (by omega) (by omega),
          hhigh _ (by omega) (by omega)]
      · simp only [List.map_cons, List.map_nil]
        rw [hhigh _ (by omega) (by omega), hhigh _ (by omega) (by omega),
          hhigh _ (by omega) (by omega), hhigh _ (by omega) (by omega)]

theorem utf8_map_toLower (name : List Char) :
    utf8 (name.map Char.toLower) = (utf8 name).map asciiLower := by
  induction name with
  | nil => rfl
  | cons c rest ih =>
    simp only [utf8, List.map_cons, List.flatMap_cons, List.map_append] at ih ⊢
    rw [ih, utf8EncodeChar_toLower]

theorem utf8_injective {a b : List Char} (h : utf8 a = utf8 b) : a = b := by
  refine String.ofList_injective (String.toByteArray_inj.mp ?_)
  rw [String.toByteArray_ofList, String.toByteArray_ofList]
  exact congrArg List.toByteArray h

/-! ## What was packed -/

theorem length_littleEndian (n value : Nat) : (littleEndian n value).length = n := by
  induction n generalizing value with
  | zero => rfl
  | succ n ih => rw [littleEndian, List.length_cons, ih]

theorem fromLittleEndian_littleEndian (n value : Nat) :
    fromLittleEndian (littleEndian n value) = value % 256 ^ n := by
  induction n generalizing value with
  | zero => simp [littleEndian, fromLittleEndian, Nat.mod_one]
  | succ n ih =>
    rw [littleEndian, fromLittleEndian, ih, pow_succ', Nat.mod_mul]
    rfl

theorem readU64_append (before after : List UInt8) {offset value : Nat}
    (hbefore : before.length = offset) (hvalue : value < 2 ^ 64) :
    readU64 (before ++ (littleEndian 8 value ++ after)) offset = UInt64.ofNat value := by
  have hmod : value % 256 ^ 8 = value := Nat.mod_eq_of_lt hvalue
  rw [readU64, ← hbefore, List.drop_left, List.take_left' (length_littleEndian 8 value),
    fromLittleEndian_littleEndian, hmod]

theorem readU32_append (before after : List UInt8) {offset value : Nat}
    (hbefore : before.length = offset) (hvalue : value < 2 ^ 32) :
    readU32 (before ++ (littleEndian 4 value ++ after)) offset = UInt32.ofNat value := by
  have hmod : value % 256 ^ 4 = value := Nat.mod_eq_of_lt hvalue
  rw [readU32, ← hbefore, List.drop_left, List.take_left' (length_littleEndian 4 value),
    fromLittleEndian_littleEndian, hmod]

/-- The name field of a file. -/
def nameField (file : PayloadFile) : List UInt8 :=
  (utf8 file.name ++ List.replicate (64 - (utf8 file.name).length) 0).take 64

/-- The directory entry of a file whose data stands at an offset. -/
def entryOf (offset : Nat) (file : PayloadFile) : GcArchiveEntry where
  name := nameField file
  dataOffset := UInt64.ofNat offset
  dataSize := UInt64.ofNat file.data.length
  dataCrc32 := zlibCrc32 file.data
  flags := UInt32.ofNat file.flags.toNat

def entriesOf : Nat → List PayloadFile → List GcArchiveEntry
  | _, [] => []
  | offset, file :: rest => entryOf offset file :: entriesOf (offset + file.data.length) rest

theorem length_nameField (file : PayloadFile) : (nameField file).length = 64 := by
  rw [nameField, List.length_take, List.length_append, List.length_replicate]
  omega

/-- A record is read back as it was packed. -/
theorem readEntry_packEntry {offset : Nat} {file : PayloadFile} {record : List UInt8}
    (h : packEntry offset file = .ok record) (tail : List UInt8) :
    record.length = 88 ∧ readEntry (record ++ tail) = entryOf offset file ∧ offset < 2 ^ 64 ∧
      file.data.length < 2 ^ 64 ∧ 0 ≤ file.flags ∧ file.flags < 2 ^ 32 := by
  unfold packEntry at h
  split at h
  swap
  · cases h
  rename_i hfits
  obtain ⟨hoffset, hlength, hpos, hflags⟩ := hfits
  have hname := length_nameField file
  have hcrc := (zlibCrc32 file.data).toNat_lt
  obtain ⟨sizes, hsizes⟩ : ∃ sizes, sizes = littleEndian 8 offset ++
    (littleEndian 8 file.data.length ++ (littleEndian 4 (zlibCrc32 file.data).toNat ++
      (littleEndian 4 file.flags.toNat ++ tail))) := ⟨_, rfl⟩
  have hrecord : record ++ tail = nameField file ++ sizes := by
    rw [← Except.ok.inj h, hsizes]
    simp only [nameField, List.append_assoc]
  have hlen : record.length = 88 := by
    rw [← Except.ok.inj h]
    change (nameField file ++ _ ++ _ ++ _ ++ _).length = 88
    simp [hname, length_littleEndian]
  refine ⟨hlen, ?_, hoffset, hlength, hpos, hflags⟩
  rw [hrecord, readEntry, entryOf]
  congr 1
  · exact List.take_left' hname
  · exact hsizes ▸ readU64_append (nameField file) _ hname hoffset
  · have h := readU64_append (nameField file ++ littleEndian 8 offset)
      (littleEndian 4 (zlibCrc32 file.data).toNat ++ (littleEndian 4 file.flags.toNat ++ tail))
      (show _ = 72 by simp [hname, length_littleEndian]) hlength
    rwa [List.append_assoc, ← hsizes] at h
  · have h := readU32_append (nameField file ++ (littleEndian 8 offset ++
      littleEndian 8 file.data.length)) (littleEndian 4 file.flags.toNat ++ tail)
      (show _ = 80 by simp [hname, length_littleEndian]) hcrc
    rwa [List.append_assoc, List.append_assoc, ← hsizes, UInt32.ofNat_toNat] at h
  · have h := readU32_append (nameField file ++ (littleEndian 8 offset ++
      (littleEndian 8 file.data.length ++ littleEndian 4 (zlibCrc32 file.data).toNat))) tail
      (show _ = 84 by simp [hname, length_littleEndian]) (show file.flags.toNat < 2 ^ 32 by omega)
    rwa [List.append_assoc, List.append_assoc, List.append_assoc, ← hsizes] at h

theorem bind_eq_ok {ε α β : Type} {x : Except ε α} {f : α → Except ε β} {b : β}
    (h : (x >>= f) = .ok b) : ∃ a, x = .ok a ∧ f a = .ok b := by
  cases x with
  | error e => cases h
  | ok a => exact ⟨a, rfl, h⟩

/-- The directory is read back, and the data stand one behind the other. -/
theorem packEntries_eq_ok {files : List PayloadFile} : ∀ {offset : Nat}
    {directory blob : List UInt8}, packEntries offset files = .ok (directory, blob) →
      directory.length = 88 * files.length ∧ blob = files.flatMap (·.data) ∧
        (∀ file ∈ files, 0 ≤ file.flags ∧ file.flags < 2 ^ 32) ∧
          ∀ tail, readEntries files.length (directory ++ tail) = entriesOf offset files := by
  induction files with
  | nil =>
    rintro offset directory blob ⟨⟩
    exact ⟨rfl, rfl, by simp, fun _ => rfl⟩
  | cons file rest ih =>
    intro offset directory blob h
    obtain ⟨record, hrecord, h⟩ := bind_eq_ok h
    obtain ⟨⟨records, data⟩, hrest, h⟩ := bind_eq_ok h
    obtain ⟨rfl, rfl⟩ := Prod.mk.inj (Except.ok.inj h)
    obtain ⟨hlength, rfl, hflags, hread⟩ := ih hrest
    have hentry := fun tail => readEntry_packEntry hrecord tail
    refine ⟨?_, rfl, List.forall_mem_cons.mpr ⟨(hentry []).2.2.2.2, hflags⟩, fun tail => ?_⟩
    · rw [List.length_append, (hentry []).1, hlength, List.length_cons]
      omega
    · rw [List.length_cons, readEntries, List.append_assoc, (hentry _).2.1,
        List.drop_left' (hentry []).1, hread, entriesOf]

theorem checkNames_eq_ok {lower : List Char → List Char} {files : List PayloadFile} :
    ∀ {seen : List (List Char)}, checkNames lower seen files = .ok () →
      (∀ file ∈ files, lower file.name ∉ seen) ∧
        files.Pairwise fun a b => lower a.name ≠ lower b.name := by
  induction files with
  | nil => exact fun _ => ⟨by simp, .nil⟩
  | cons file rest ih =>
    intro seen h
    unfold checkNames at h
    split_ifs at h with hlong hbare hseen
    obtain ⟨hfresh, hpairwise⟩ := ih h
    refine ⟨List.forall_mem_cons.mpr ⟨hseen, fun later hlater => ?_⟩,
      List.pairwise_cons.mpr ⟨fun later hlater heq => ?_, hpairwise⟩⟩
    · exact fun hmem => hfresh later hlater (List.mem_cons_of_mem _ hmem)
    · exact hfresh later hlater (heq ▸ List.mem_cons_self)

/-! ## What is accepted -/

/-- The file has a name that the installer takes, as a C string. -/
def SafeName (file : PayloadFile) : Prop :=
  ∃ name : CString, name.bytes = utf8 file.name ∧ gcArchiveNameIsSafe name = true

/-- The name is in its field, and its terminator with it. -/
theorem text_entryOf {file : PayloadFile} (h : SafeName file) (offset : Nat) :
    (entryOf offset file).text.bytes = utf8 file.name ∧ 0 ∈ (entryOf offset file).name ∧
      gcArchiveNameIsSafe (entryOf offset file).text = true := by
  obtain ⟨name, hname, hsafe⟩ := h
  have hlength : (utf8 file.name).length ≤ 63 := hname ▸ ((gcArchiveNameIsSafe_iff name).mp hsafe).2
  have hnul : 0 ∉ utf8 file.name := hname ▸ name.nulFree
  obtain ⟨k, hk⟩ : ∃ k, 64 - (utf8 file.name).length = k + 1 :=
    ⟨63 - (utf8 file.name).length, by omega⟩
  have hfield : nameField file = utf8 file.name ++ 0 :: List.replicate k 0 := by
    rw [nameField, hk, List.replicate_succ, List.take_of_length_le]
    simp only [List.length_append, List.length_cons, List.length_replicate]
    omega
  have htext : (entryOf offset file).text.bytes = utf8 file.name := by
    change (nameField file).takeWhile (· ≠ 0) = _
    rw [hfield, List.takeWhile_append_of_pos]
    · simp
    · intro c hc
      have hne : c ≠ 0 := fun heq => hnul (heq ▸ hc)
      simpa using hne
  refine ⟨htext, ?_, ?_⟩
  · change 0 ∈ nameField file
    simp [hfield]
  · have hsame : (entryOf offset file).text = name := CString.ext (htext.trans hname.symm)
    rw [hsame, hsafe]

/-- The data of a file stand where its entry says. -/
theorem content_entryOf {container : Blob} {file : PayloadFile} {before after : List UInt8}
    (hbytes : container.bytes = before ++ (file.data ++ after)) :
    (entryOf before.length file).content container = file.data ∧
      (entryOf before.length file).dataOffset.toNat = before.length ∧
      (entryOf before.length file).dataSize.toNat = file.data.length ∧
      before.length + file.data.length ≤ container.bytes.length := by
  have hlt := container.length_lt
  have hlength : container.bytes.length = before.length + (file.data.length + after.length) := by
    rw [hbytes, List.length_append, List.length_append]
  have hoffset : (entryOf before.length file).dataOffset.toNat = before.length :=
    UInt64.toNat_ofNat_of_lt' (show before.length < 2 ^ 64 by omega)
  have hsize : (entryOf before.length file).dataSize.toNat = file.data.length :=
    UInt64.toNat_ofNat_of_lt' (show file.data.length < 2 ^ 64 by omega)
  refine ⟨?_, hoffset, hsize, by omega⟩
  rw [GcArchiveEntry.content, hoffset, hsize, hbytes, List.drop_left, List.take_left]

/-- The names differ in more than the case of their letters. -/
def NamesDiffer (a b : List Char) : Prop := (utf8 a).map asciiLower ≠ (utf8 b).map asciiLower

theorem returns_checkEntry {container : Blob} {dataStart : UInt64} {seen : List GcArchiveEntry}
    {file : PayloadFile} {before after : List UInt8}
    (hbytes : container.bytes = before ++ (file.data ++ after))
    (hstart : dataStart.toNat ≤ before.length) (hname : SafeName file)
    (hseen : ∀ earlier ∈ seen,
      earlier.text.bytes.map asciiLower ≠ (utf8 file.name).map asciiLower) :
    Returns (checkEntry container dataStart seen (entryOf before.length file)) () := by
  obtain ⟨hcontent, hoffset, hsize, hinside⟩ := content_entryOf hbytes
  obtain ⟨htext, hterminated, hsafe⟩ := text_entryOf hname before.length
  have hlarge : ¬(entryOf before.length file).dataSize > container.size := by
    refine UInt64.not_lt.mpr (UInt64.le_iff_toNat_le.mpr ?_)
    rw [hsize, container.toNat_size]
    omega
  unfold checkEntry
  refine (returns_refuse ?_).bind <| (returns_refuse ?_).bind <| (returns_refuse hlarge).bind <|
    (returns_sub _ _).bind <| (returns_refuse ?_).bind <| (returns_refuse ?_).bind <|
    returns_refuse ?_
  · rw [hsafe, not_or]
    exact ⟨not_not.mpr hterminated, by decide⟩
  · refine UInt64.not_lt.mpr (UInt64.le_iff_toNat_le.mpr ?_)
    rw [hoffset]
    exact hstart
  · refine UInt64.not_lt.mpr (UInt64.le_iff_toNat_le.mpr ?_)
    rw [UInt64.toNat_sub_of_le _ _ (UInt64.not_lt.mp hlarge), hsize, container.toNat_size, hoffset]
    omega
  · rw [hcontent, gcCrc32_eq_zlib]
    exact not_not.mpr rfl
  · rw [List.any_eq_true]
    rintro ⟨earlier, hearlier, hsame⟩
    rw [sameName_iff, htext] at hsame
    exact hseen earlier hearlier hsame

/-- The loop over a packed directory: what lies before the data of the files to come is the
rest of the container. -/
theorem returns_checkEntries {container : Blob} {dataStart : UInt64} {files : List PayloadFile} :
    ∀ {seen : List GcArchiveEntry} {before : List UInt8},
      container.bytes = before ++ files.flatMap (·.data) → dataStart.toNat ≤ before.length →
      (∀ file ∈ files, SafeName file) →
      (∀ earlier ∈ seen, ∀ file ∈ files,
        earlier.text.bytes.map asciiLower ≠ (utf8 file.name).map asciiLower) →
      files.Pairwise (fun a b => NamesDiffer a.name b.name) →
        Returns (checkEntries container dataStart seen (entriesOf before.length files)) () := by
  induction files with
  | nil => exact fun _ _ _ _ _ => returns_pure ()
  | cons file rest ih =>
    intro seen before hbytes hstart hnames hseen hpairwise
    rw [List.flatMap_cons] at hbytes
    rw [List.forall_mem_cons] at hnames
    rw [List.pairwise_cons] at hpairwise
    have hfirst := returns_checkEntry hbytes hstart hnames.1
      fun earlier hearlier => hseen earlier hearlier file List.mem_cons_self
    refine hfirst.bind ?_
    have hlength : (before ++ file.data).length = before.length + file.data.length :=
      List.length_append
    rw [← hlength]
    refine ih (by rw [hbytes, List.append_assoc]) (by omega) hnames.2 ?_ hpairwise.2
    intro earlier hearlier later hlater
    rcases List.mem_append.mp hearlier with hearlier | hearlier
    · exact hseen earlier hearlier later (List.mem_cons_of_mem _ hlater)
    · rw [List.mem_singleton.mp hearlier, (text_entryOf hnames.1 before.length).1]
      exact hpairwise.1 later hlater

theorem buildArchive_eq_ok {lower : List Char → List Char} {files : List PayloadFile}
    {bytes : List UInt8} (h : buildArchive lower files = .ok bytes) :
    checkNames lower [] files = .ok () ∧ bytes.length < 2 ^ 63 ∧ ∃ directory blob,
      packEntries (12 + 88 * files.length) files = .ok (directory, blob) ∧
        bytes = GC_ARCHIVE_MAGIC ++ littleEndian 4 files.length ++ directory ++ blob := by
  unfold buildArchive at h
  dsimp only at h
  by_cases hempty : files = []
  · rw [if_pos hempty] at h
    cases h
  rw [if_neg hempty] at h
  obtain ⟨_, hnames, h⟩ := bind_eq_ok h
  by_cases hmany : 2 ^ 32 ≤ files.length
  · rw [if_pos hmany] at h
    cases h
  rw [if_neg hmany] at h
  obtain ⟨⟨directory, blob⟩, hpack, h⟩ := bind_eq_ok h
  dsimp only at h
  by_cases hlong : 2 ^ 63 ≤
      (GC_ARCHIVE_MAGIC ++ littleEndian 4 files.length ++ directory ++ blob).length
  · rw [if_pos hlong] at h
    cases h
  rw [if_neg hlong] at h
  obtain rfl := Except.ok.inj h
  exact ⟨hnames, Nat.not_le.mp hlong, directory, blob, hpack, rfl⟩

/-- The directory gives back names, contents and flags. -/
theorem map_entriesOf {container : Blob} {files : List PayloadFile} :
    ∀ {before : List UInt8}, container.bytes = before ++ files.flatMap (·.data) →
      (∀ file ∈ files, SafeName file) → (∀ file ∈ files, 0 ≤ file.flags ∧ file.flags < 2 ^ 32) →
        (entriesOf before.length files).map (fun entry =>
          (entry.text.bytes, entry.content container, (entry.flags.toNat : Int))) =
            files.map fun file => (utf8 file.name, file.data, file.flags) := by
  induction files with
  | nil => exact fun _ _ _ => rfl
  | cons file rest ih =>
    intro before hbytes hnames hflags
    rw [List.flatMap_cons] at hbytes
    rw [List.forall_mem_cons] at hnames hflags
    have hlength : (before ++ file.data).length = before.length + file.data.length :=
      List.length_append
    have hrest := @ih (before ++ file.data) (by rw [hbytes, List.append_assoc]) hnames.2 hflags.2
    have hflag : ((entryOf before.length file).flags.toNat : Int) = file.flags := by
      change ((UInt32.ofNat file.flags.toNat).toNat : Int) = file.flags
      rw [UInt32.toNat_ofNat_of_lt' (show file.flags.toNat < 2 ^ 32 by omega)]
      exact Int.toNat_of_nonneg hflags.1.1
    rw [entriesOf, List.map_cons, List.map_cons, ← hlength, hrest,
      (text_entryOf hnames.1 before.length).1, (content_entryOf hbytes).1, hflag]

/-- **What the build tool packs is accepted**, and the directory gives it back. -/
theorem returns_archive {lower : List Char → List Char}
    (hlower : ∀ a b : List Char, a.map Char.toLower = b.map Char.toLower → lower a = lower b)
    {files : List PayloadFile} (hne : files ≠ []) (hcount : files.length ≤ GC_ARCHIVE_MAX_FILES)
    (hnames : ∀ file ∈ files, SafeName file) {container : Blob}
    (h : buildArchive lower files = .ok container.bytes) :
    ∃ entries, Returns (gcArchiveValidate container) entries ∧
      entries.map (fun entry =>
        (entry.text.bytes, entry.content container, (entry.flags.toNat : Int))) =
          files.map fun file => (utf8 file.name, file.data, file.flags) := by
  obtain ⟨hchecked, -, directory, blob, hpack, hbytes⟩ := buildArchive_eq_ok h
  obtain ⟨hdirectory, rfl, hflags, hread⟩ := packEntries_eq_ok hpack
  have hdiffer : files.Pairwise fun a b => NamesDiffer a.name b.name := by
    refine (checkNames_eq_ok hchecked).2.imp fun hne hsame => hne (hlower _ _ ?_)
    rw [← utf8_map_toLower, ← utf8_map_toLower] at hsame
    exact utf8_injective hsame
  have hpos : 0 < files.length := List.length_pos_iff.mpr hne
  have hmany : files.length ≤ 16 := hcount
  have hmagic : GC_ARCHIVE_MAGIC.length = 8 := rfl
  have hheader : (GC_ARCHIVE_MAGIC ++ littleEndian 4 files.length).length = 12 := by
    rw [List.length_append, length_littleEndian, hmagic]
  have hcounted : readU32 container.bytes 8 = UInt32.ofNat files.length := by
    rw [hbytes, List.append_assoc, List.append_assoc]
    exact readU32_append _ _ hmagic (by omega)
  have hfiles : (readU32 container.bytes 8).toNat = files.length := by
    rw [hcounted]
    exact UInt32.toNat_ofNat_of_lt' (show files.length < 2 ^ 32 by omega)
  have hsize : container.bytes.length =
      12 + 88 * files.length + (files.flatMap (·.data)).length := by
    rw [hbytes, List.length_append, List.length_append, hheader, hdirectory]
  have hwide : ((readU32 container.bytes 8).toUInt64 * 88).toNat = 88 * files.length := by
    rw [UInt64.toNat_mul, UInt32.toNat_toUInt64, hfiles]
    change files.length * 88 % 2 ^ 64 = _
    omega
  have hstart : (12 + (readU32 container.bytes 8).toUInt64 * 88).toNat =
      12 + 88 * files.length := by
    rw [UInt64.toNat_add, hwide]
    change (12 + 88 * files.length) % 2 ^ 64 = _
    omega
  have hbefore : (GC_ARCHIVE_MAGIC ++ littleEndian 4 files.length ++ directory).length =
      12 + 88 * files.length := by
    rw [List.length_append, hheader, hdirectory]
  refine ⟨entriesOf (12 + 88 * files.length) files, ?_,
    hbefore ▸ map_entriesOf hbytes hnames hflags⟩
  unfold gcArchiveValidate
  refine (returns_refuse ?_).bind <| (returns_refuse ?_).bind <| (returns_refuse ?_).bind <|
    (returns_mul _ _).bind <| (returns_add _ _).bind <| (returns_refuse ?_).bind ?_
  · refine UInt64.not_lt.mpr (UInt64.le_iff_toNat_le.mpr ?_)
    rw [container.toNat_size, hsize]
    change 12 ≤ _
    omega
  · rw [hbytes, List.append_assoc, List.append_assoc, List.take_left' hmagic]
    exact not_not.mpr rfl
  · rw [hfiles, not_or]
    refine ⟨fun hzero => ?_, Nat.not_lt.mpr hcount⟩
    rw [hzero] at hfiles
    exact absurd hfiles hpos.ne
  · refine UInt64.not_lt.mpr (UInt64.le_iff_toNat_le.mpr ?_)
    rw [hstart, container.toNat_size, hsize]
    omega
  · have hentries : readEntries (readU32 container.bytes 8).toNat (container.bytes.drop 12) =
        entriesOf (12 + 88 * files.length) files := by
      rw [hfiles, hbytes, List.append_assoc, List.drop_left' hheader, hread]
    rw [hentries, ← hbefore]
    refine (returns_checkEntries hbytes ?_ hnames (by simp) hdiffer).bind (returns_pure _)
    rw [hstart, hbefore]

/-! ## The law -/

/-- The footer a file ends in. -/
def footerOf (file : Blob) : GcPayloadFooter := readFooter (file.bytes.drop (file.bytes.length - 44))

/-- **Both validators accept**: the footer of the file, and the container it points to. -/
structure Accepted (file : Blob) (maxUncompressed : UInt64) (container : Blob)
    (entries : List GcArchiveEntry) : Prop where
  footer : Returns (gcPayloadValidateFooter (footerOf file) file.size maxUncompressed) ()
  bytes : container.bytes =
    (file.bytes.drop (footerOf file).archiveOffset.toNat).take (footerOf file).uncompressedSize.toNat
  archive : Returns (gcArchiveValidate container) entries

/-- What is known of an accepted file. -/
structure Sound (file container : Blob) (entries : List GcArchiveEntry) : Prop where
  ends : (footerOf file).archiveOffset.toNat + container.bytes.length + 44 = file.bytes.length
  placed : ∀ entry ∈ entries, Placed container (12 + 88 * entries.length) entry
  distinct : entries.Pairwise Differ

theorem Accepted.sound {file container : Blob} {maxUncompressed : UInt64}
    {entries : List GcArchiveEntry} (h : Accepted file maxUncompressed container entries) :
    Sound file container entries := by
  have hends := (ensures_footer _ _ _).accepted () h.footer
  obtain ⟨hplaced, hdistinct⟩ := (ensures_archive container).accepted entries h.archive
  rw [file.toNat_size] at hends
  refine ⟨?_, hplaced, hdistinct⟩
  rw [h.bytes, List.length_take, List.length_drop]
  omega

/-- The law of the container; `lower` is `str.lower` of the build tool. -/
structure ContainerLaw (lower : List Char → List Char) : Prop where
  sound : ∀ (file container : Blob) (maxUncompressed : UInt64) (entries : List GcArchiveEntry),
    Accepted file maxUncompressed container entries → Sound file container entries
  footer_exact : ∀ (footer : GcPayloadFooter) (fileSize maxUncompressed : UInt64),
    ∀ op ∈ (gcPayloadValidateFooter footer fileSize maxUncompressed).operations, op.Exact
  archive_exact : ∀ (container : Blob), ∀ op ∈ (gcArchiveValidate container).operations, op.Exact
  complete : ∀ (files : List PayloadFile) (bytes : List UInt8), files ≠ [] →
    files.length ≤ GC_ARCHIVE_MAX_FILES → (∀ file ∈ files, SafeName file) →
      buildArchive lower files = .ok bytes → ∃ container : Blob, container.bytes = bytes ∧
        ∃ entries, Returns (gcArchiveValidate container) entries ∧
          entries.map (fun entry =>
            (entry.text.bytes, entry.content container, (entry.flags.toNat : Int))) =
              files.map fun file => (utf8 file.name, file.data, file.flags)

/-- **The container law.**  Of `str.lower` only this is needed: texts that differ in the
case of ASCII letters have one lower case. -/
theorem container_law (lower : List Char → List Char)
    (hlower : ∀ a b : List Char, a.map Char.toLower = b.map Char.toLower → lower a = lower b) :
    ContainerLaw lower where
  sound := fun _ _ _ _ h => h.sound
  footer_exact := fun footer fileSize maxUncompressed =>
    (ensures_footer footer fileSize maxUncompressed).exact
  archive_exact := fun container => (ensures_archive container).exact
  complete := by
    intro files bytes hne hcount hnames h
    obtain ⟨-, hlong, -⟩ := buildArchive_eq_ok h
    exact ⟨⟨bytes, hlong.trans (by decide)⟩, rfl, returns_archive hlower hne hcount hnames h⟩

/-- The payload of a release in small. -/
def twoFiles : List PayloadFile :=
  [⟨"greencurve.exe".toList, ascii "alpha", 0⟩, ⟨"README.md".toList, ascii "beta", 1⟩]

theorem container_law_twoFiles : ∃ container : Blob,
    buildArchive (List.map Char.toLower) twoFiles = .ok container.bytes ∧
      ∃ entries, Returns (gcArchiveValidate container) entries ∧
        entries.map (fun entry =>
          (entry.text.bytes, entry.content container, (entry.flags.toNat : Int))) =
            twoFiles.map fun file => (utf8 file.name, file.data, file.flags) := by
  have hnames : ∀ file ∈ twoFiles, SafeName file := by
    simp only [twoFiles, List.forall_mem_cons]
    exact ⟨⟨⟨utf8 "greencurve.exe".toList, by decide⟩, rfl, by decide⟩,
      ⟨⟨utf8 "README.md".toList, by decide⟩, rfl, by decide⟩, by simp⟩
  cases hbuilt : buildArchive (List.map Char.toLower) twoFiles with
  | error e =>
    have hok : (buildArchive (List.map Char.toLower) twoFiles).isOk = true := by decide +kernel
    rw [hbuilt] at hok
    cases hok
  | ok bytes =>
    obtain ⟨container, rfl, hentries⟩ := (container_law (List.map Char.toLower) fun _ _ h => h).complete
      twoFiles bytes (by decide) (by decide) hnames hbuilt
    exact ⟨container, rfl, hentries⟩

end GreenCurve.Payload
