import GreenCurve.CheckedArithmetic
import GreenCurve.Crc32
import GreenCurve.PayloadName

/-! # The payload container

A setup executable ends in a container of files and a footer that says where it lies.  The
installer validates both before it unpacks anything; the build tool writes them, in another
language.  Numbers are little-endian and every field of the file is chosen by whoever wrote
it, so the validation is modelled with its 64-bit arithmetic (`Checked`). -/

namespace GreenCurve.Payload

open Checked (refuse add sub mul)
open Crc32 (gcCrc32 zlibCrc32)

/-- Bytes in memory or in a file, with their length in 64 bits. -/
structure Blob where
  bytes : List UInt8
  length_lt : bytes.length < 2 ^ 64

def Blob.size (blob : Blob) : UInt64 := UInt64.ofNat blob.bytes.length

/-! ## Numbers -/

/-- The number of some bytes, the least significant first. -/
def fromLittleEndian : List UInt8 → Nat
  | [] => 0
  | b :: rest => b.toNat + 256 * fromLittleEndian rest

/-- A number in so many bytes, the least significant first. -/
def littleEndian : Nat → Nat → List UInt8
  | 0, _ => []
  | n + 1, value => UInt8.ofNat value :: littleEndian n (value / 256)

def readU32 (bytes : List UInt8) (offset : Nat) : UInt32 :=
  UInt32.ofNat (fromLittleEndian ((bytes.drop offset).take 4))

def readU64 (bytes : List UInt8) (offset : Nat) : UInt64 :=
  UInt64.ofNat (fromLittleEndian ((bytes.drop offset).take 8))

/-! ## The footer -/

def GC_PAYLOAD_FOOTER_MAGIC : List UInt8 := ascii "GCPAY001"
abbrev GC_PAYLOAD_METHOD_STORE : UInt32 := 0

/-- `GcPayloadFooter`, packed in 44 bytes. -/
structure GcPayloadFooter where
  magic : List UInt8
  method : UInt32
  archiveOffset : UInt64
  compressedSize : UInt64
  uncompressedSize : UInt64
  archiveCrc32 : UInt32
  footerCrc32 : UInt32

def readFooter (bytes : List UInt8) : GcPayloadFooter where
  magic := bytes.take 8
  method := readU32 bytes 8
  archiveOffset := readU64 bytes 12
  compressedSize := readU64 bytes 20
  uncompressedSize := readU64 bytes 28
  archiveCrc32 := readU32 bytes 36
  footerCrc32 := readU32 bytes 40

/-- `gc_payload_footer_expected_crc`: of everything but the last field. -/
def GcPayloadFooter.expectedCrc (footer : GcPayloadFooter) : UInt32 :=
  gcCrc32 (footer.magic ++ littleEndian 4 footer.method.toNat ++
    littleEndian 8 footer.archiveOffset.toNat ++ littleEndian 8 footer.compressedSize.toNat ++
    littleEndian 8 footer.uncompressedSize.toNat ++ littleEndian 4 footer.archiveCrc32.toNat) 0

inductive GcPayloadStatus where
  | noFooter
  | footerCrc
  | method
  | range
  | size
  deriving DecidableEq

/-- `gc_payload_validate_footer`. -/
def gcPayloadValidateFooter (footer : GcPayloadFooter) (fileSize maxUncompressed : UInt64) :
    Checked GcPayloadStatus Unit := do
  refuse (footer.magic ≠ GC_PAYLOAD_FOOTER_MAGIC) .noFooter
  refuse (footer.footerCrc32 ≠ footer.expectedCrc) .footerCrc
  refuse (footer.method ≠ GC_PAYLOAD_METHOD_STORE) .method
  refuse (footer.compressedSize = 0 ∨ footer.uncompressedSize = 0) .size
  refuse (footer.uncompressedSize > maxUncompressed) .size
  refuse (footer.method = GC_PAYLOAD_METHOD_STORE ∧
    footer.compressedSize ≠ footer.uncompressedSize) .size
  refuse (fileSize < 44) .noFooter
  let footerStart ← sub fileSize 44
  refuse (footer.archiveOffset > footerStart) .range
  let stored ← sub footerStart footer.archiveOffset
  refuse (footer.compressedSize ≠ stored) .range
  refuse (footer.archiveOffset = 0) .range

/-! ## The container -/

def GC_ARCHIVE_MAGIC : List UInt8 := ascii "GCAR0001"
abbrev GC_ARCHIVE_MAX_FILES : Nat := 16

/-- `GcArchiveEntry`, packed in 88 bytes. -/
structure GcArchiveEntry where
  name : List UInt8
  dataOffset : UInt64
  dataSize : UInt64
  dataCrc32 : UInt32
  flags : UInt32

def readEntry (bytes : List UInt8) : GcArchiveEntry where
  name := bytes.take 64
  dataOffset := readU64 bytes 64
  dataSize := readU64 bytes 72
  dataCrc32 := readU32 bytes 80
  flags := readU32 bytes 84

/-- The entries of the directory, one behind the other. -/
def readEntries : Nat → List UInt8 → List GcArchiveEntry
  | 0, _ => []
  | n + 1, bytes => readEntry bytes :: readEntries n (bytes.drop 88)

namespace GcArchiveEntry
variable (entry : GcArchiveEntry)

/-- The name as a C string. -/
def text : CString where
  bytes := entry.name.takeWhile (· ≠ 0)
  nulFree := fun h => by simpa using List.mem_takeWhile_imp h

/-- The bytes of the file. -/
def content (container : Blob) : List UInt8 :=
  (container.bytes.drop entry.dataOffset.toNat).take entry.dataSize.toNat

end GcArchiveEntry

inductive GcArchiveStatus where
  | magic
  | count
  | truncated
  | name
  | range
  | crc
  deriving DecidableEq

/-- Two C strings compared character by character, ignoring ASCII case. -/
def sameName : List UInt8 → List UInt8 → Bool
  | [], [] => true
  | a :: as, b :: bs => if asciiLower a ≠ asciiLower b then false else sameName as bs
  | _, _ => false

/-- One turn of the loop of `gc_archive_validate`; `seen` are the entries before. -/
def checkEntry (container : Blob) (dataStart : UInt64) (seen : List GcArchiveEntry)
    (entry : GcArchiveEntry) : Checked GcArchiveStatus Unit := do
  refuse (0 ∉ entry.name ∨ gcArchiveNameIsSafe entry.text = false) .name
  refuse (entry.dataOffset < dataStart) .range
  refuse (entry.dataSize > container.size) .range
  let last ← sub container.size entry.dataSize
  refuse (entry.dataOffset > last) .range
  refuse (gcCrc32 (entry.content container) 0 ≠ entry.dataCrc32) .crc
  refuse (seen.any (fun earlier => sameName earlier.text.bytes entry.text.bytes) = true) .name

def checkEntries (container : Blob) (dataStart : UInt64) :
    List GcArchiveEntry → List GcArchiveEntry → Checked GcArchiveStatus Unit
  | _, [] => pure ()
  | seen, entry :: rest => do
    checkEntry container dataStart seen entry
    checkEntries container dataStart (seen ++ [entry]) rest

/-- `gc_archive_validate`, with the directory it gives back. -/
def gcArchiveValidate (container : Blob) : Checked GcArchiveStatus (List GcArchiveEntry) := do
  refuse (container.size < 12) .magic
  refuse (container.bytes.take 8 ≠ GC_ARCHIVE_MAGIC) .magic
  let fileCount := readU32 container.bytes 8
  refuse (fileCount = 0 ∨ fileCount.toNat > GC_ARCHIVE_MAX_FILES) .count
  let directoryBytes ← mul fileCount.toUInt64 88
  let dataStart ← add 12 directoryBytes
  refuse (dataStart > container.size) .truncated
  let entries := readEntries fileCount.toNat (container.bytes.drop 12)
  checkEntries container dataStart [] entries
  return entries

/-! ## The build tool -/

abbrev ARCHIVE_MAX_NAME : Nat := 63
abbrev ARCHIVE_ENTRY_SIZE : Nat := 88

/-- `name.encode("utf-8")`. -/
def utf8 (name : List Char) : List UInt8 := name.flatMap String.utf8EncodeChar

/-- A `(name, bytes, flags)` of the build. -/
structure PayloadFile where
  name : List Char
  data : List UInt8
  flags : Int
  deriving DecidableEq

inductive BuildError where
  | empty
  | nameTooLong (name : List Char)
  | notBare (name : List Char)
  | duplicate (name : List Char)
  | structError
  | overflow
  deriving DecidableEq

section
variable (lower : List Char → List Char)

section

theorem lawfulBEq_lower : LawfulBEq (List Char) := inferInstance

attribute [local instance] lawfulBEq_lower

/-- The loop over the names; `lower` is `str.lower`. -/
def checkNames : List (List Char) → List PayloadFile → Except BuildError Unit
  | _, [] => .ok ()
  | seen, file :: rest =>
    if ARCHIVE_MAX_NAME < (utf8 file.name).length then .error (.nameTooLong file.name)
    else if '\\' ∈ file.name ∨ '/' ∈ file.name ∨ ':' ∈ file.name then .error (.notBare file.name)
    else if lower file.name ∈ seen then .error (.duplicate file.name)
    else checkNames (lower file.name :: seen) rest

end

/-- `struct.pack(ARCHIVE_ENTRY_FORMAT, ..)`, which raises for what a field cannot hold. -/
def packEntry (offset : Nat) (file : PayloadFile) : Except BuildError (List UInt8) :=
  if offset < 2 ^ 64 ∧ file.data.length < 2 ^ 64 ∧ 0 ≤ file.flags ∧ file.flags < 2 ^ 32 then
    .ok ((utf8 file.name ++ List.replicate (64 - (utf8 file.name).length) 0).take 64 ++
      littleEndian 8 offset ++ littleEndian 8 file.data.length ++
      littleEndian 4 (zlibCrc32 file.data).toNat ++ littleEndian 4 file.flags.toNat)
  else .error .structError

/-- The directory and the data behind it. -/
def packEntries : Nat → List PayloadFile → Except BuildError (List UInt8 × List UInt8)
  | _, [] => .ok ([], [])
  | offset, file :: rest => do
    let record ← packEntry offset file
    let (directory, blob) ← packEntries (offset + file.data.length) rest
    return (record ++ directory, file.data ++ blob)

/-- `build_archive`.  A run of bytes has a length that `Py_ssize_t` holds. -/
def buildArchive (entries : List PayloadFile) : Except BuildError (List UInt8) := do
  if entries = [] then throw .empty
  checkNames lower [] entries
  if 2 ^ 32 ≤ entries.length then throw .structError
  let header := GC_ARCHIVE_MAGIC ++ littleEndian 4 entries.length
  let (directory, blob) ← packEntries (12 + ARCHIVE_ENTRY_SIZE * entries.length) entries
  if 2 ^ 63 ≤ (header ++ directory ++ blob).length then throw .overflow
  return header ++ directory ++ blob

end

end GreenCurve.Payload
