import GreenCurve.UpdateVersion

/-! # The signed release manifest

The reader of the manifest the updater trusts: lines of `key=value`, each key at most once,
no unknown key, and for each architecture all three of its fields or none.  `GcUpdateManifest`
is a manifest that was accepted; a field of it that is `none` was absent as a whole.

While it reads, the source keeps a flag for each key it saw beside the field itself.  A key
whose value is refused ends the reader, so here the field alone says whether it was seen. -/

namespace GreenCurve

open Ini (Text)

abbrev GC_UPDATE_MANIFEST_MAX_BYTES : Nat := 4096
abbrev GC_UPDATE_MANIFEST_MAX_LINE : Nat := 512
abbrev GC_UPDATE_ASSET_NAME_MAX_CHARS : Nat := 128
abbrev GC_UPDATE_SHA256_HEX_CHARS : Nat := 64
abbrev GC_UPDATE_ASSET_MAX_BYTES : Nat := 268435456
abbrev GC_UPDATE_MANIFEST_FORMAT : Nat := 1

inductive GcUpdateArch where
  | unknown | x64 | arm64
  deriving DecidableEq, Repr

def gcUpdateArchName : GcUpdateArch → Text
  | .unknown => []
  | .x64 => "x64".toList
  | .arm64 => "arm64".toList

structure GcUpdateAsset where
  file : Text
  size : Nat
  sha256 : Text
  deriving DecidableEq, Repr

/-- A manifest that was accepted. -/
structure GcUpdateManifest where
  version : GcUpdateVersion
  minimumFrom : Option GcUpdateVersion
  x64 : Option GcUpdateAsset
  arm64 : Option GcUpdateAsset
  deriving DecidableEq, Repr

/-- `gc_update_manifest_fail`: the error text, cut to its field. -/
def gcUpdateManifestFail (message : String) (detail : Text) : Text :=
  (message.toList ++ detail).take 159

/-! ## Field parsers -/

def isLowerHex (c : Char) : Bool := decide ('0' ≤ c ∧ c ≤ '9') || decide ('a' ≤ c ∧ c ≤ 'f')

/-- `gc_update_asset_name_is_acceptable`. -/
def gcUpdateAssetNameIsAcceptable (name : Text) : Bool :=
  name.all (fun c => decide (' ' ≤ c) && c != '\x7f' && !("/\\:*?\"<>|".toList.contains c)) &&
    decide (name ≠ [] ∧ name.length < GC_UPDATE_ASSET_NAME_MAX_CHARS ∧
      name.getLast? ≠ some '.' ∧ name.getLast? ≠ some ' ' ∧ name.head? ≠ some '.')

/-- `gc_update_expected_asset_name`, in a buffer of the size of an asset name. -/
def gcUpdateExpectedAssetName (versionText : Text) (arch : GcUpdateArch) : Option Text := do
  guard (versionText ≠ [] ∧ gcUpdateArchName arch ≠ [])
  let name := "greencurve-".toList ++ versionText ++ "-windows-".toList ++ gcUpdateArchName arch ++
    "-setup.exe".toList
  guard (name.length < GC_UPDATE_ASSET_NAME_MAX_CHARS)
  return name

/-- `gc_update_parse_sha256`. -/
def gcUpdateParseSha256 (value : Text) : Option Text :=
  if value.length = GC_UPDATE_SHA256_HEX_CHARS ∧ value.all isLowerHex then some value else none

/-- The loop of `gc_update_parse_size`, on an unsigned 64-bit total. -/
def sizeDigits : Text → Nat → Option Nat
  | [], total => some total
  | c :: rest, total =>
    if !c.isDigit then none
    else if total > GC_UPDATE_ASSET_MAX_BYTES then none
    else sizeDigits rest ((total * 10 + (c.toNat - '0'.toNat)) % 2 ^ 64)

/-- `gc_update_parse_size`. -/
def gcUpdateParseSize (value : Text) : Option Nat := do
  guard (∃ c ∈ value.head?, c.isDigit = true)
  guard (¬(value.head? = some '0' ∧ value.tail ≠ []))
  let total ← sizeDigits value 0
  guard (total ≠ 0 ∧ total ≤ GC_UPDATE_ASSET_MAX_BYTES)
  return total

/-- `gc_update_copy_value`. -/
def gcUpdateCopyValue (dstSize : Nat) (src : Text) : Option Text :=
  if src ≠ [] ∧ src.length < dstSize then some src else none

/-! ## The reader -/

/-- The fields of one architecture as far as they were read. -/
structure AssetFields where
  file : Option Text := none
  size : Option Nat := none
  sha256 : Option Text := none
  deriving DecidableEq, Repr

/-- The fields of a manifest as far as they were read. -/
structure ManifestFields where
  sawFormat : Bool := false
  version : Option GcUpdateVersion := none
  minimumFrom : Option GcUpdateVersion := none
  x64 : AssetFields := {}
  arm64 : AssetFields := {}
  deriving DecidableEq, Repr

/-- The lines of a manifest; only LF ends one. -/
def manifestLines : Text → List Text
  | [] => []
  | c :: rest =>
    if c = '\n' then [] :: manifestLines rest
    else
      match manifestLines rest with
      | [] => [[c]]
      | line :: lines => (c :: line) :: lines

/-- A CR right before the end of the line is dropped. -/
def stripCr (line : Text) : Text := if line.getLast? = some '\r' then line.dropLast else line

/-- A key that may be read once: a second one is refused, and so is a value that does not
parse. -/
def readOnce {α σ : Type} (seen : Bool) (key : Text) (message : String) (value : Text)
    (parsed : Option α) (set : α → σ) : Except Text σ :=
  if seen then .error (gcUpdateManifestFail "Duplicate key: " key)
  else
    match parsed with
    | some a => .ok (set a)
    | none => .error (gcUpdateManifestFail message value)

theorem readOnce_eq_ok {α σ : Type} {seen : Bool} {key : Text} {message : String} {value : Text}
    {parsed : Option α} {set : α → σ} {out : σ} :
    readOnce seen key message value parsed set = .ok out ↔
      ¬seen = true ∧ ∃ a, parsed = some a ∧ out = set a := by
  unfold readOnce
  cases seen <;> cases parsed <;> simp [eq_comm]

/-- One key of an architecture. -/
def assetField (asset : AssetFields) (field key value : Text) : Except Text AssetFields :=
  if field = "file".toList then
    readOnce asset.file.isSome key "Unacceptable asset name: " value
      ((gcUpdateCopyValue GC_UPDATE_ASSET_NAME_MAX_CHARS value).filter gcUpdateAssetNameIsAcceptable)
      fun file => { asset with file := some file }
  else if field = "size".toList then
    readOnce asset.size.isSome key "Unacceptable asset size: " value (gcUpdateParseSize value)
      fun size => { asset with size := some size }
  else if field = "sha256".toList then
    readOnce asset.sha256.isSome key "Unacceptable asset digest: " value (gcUpdateParseSha256 value)
      fun sha256 => { asset with sha256 := some sha256 }
  else .error (gcUpdateManifestFail "Unknown manifest key: " key)

/-- One key of the manifest. -/
def manifestField (out : ManifestFields) (key value : Text) : Except Text ManifestFields :=
  if key = "format".toList then
    readOnce out.sawFormat key "Unsupported manifest format: " value
      ((gcUpdateParseSize value).filter (· = GC_UPDATE_MANIFEST_FORMAT))
      fun _ => { out with sawFormat := true }
  else if key = "version".toList then
    readOnce out.version.isSome key "Unparseable version: " value (gcUpdateVersionParse value)
      fun version => { out with version := some version }
  else if key = "min_from".toList then
    readOnce out.minimumFrom.isSome key "Unparseable min_from: " value (gcUpdateVersionParse value)
      fun version => { out with minimumFrom := some version }
  else if key.take 4 = "x64_".toList then do
    let x64 ← assetField out.x64 (key.drop 4) key value
    return { out with x64 }
  else if key.take 6 = "arm64_".toList then do
    let arm64 ← assetField out.arm64 (key.drop 6) key value
    return { out with arm64 }
  else .error (gcUpdateManifestFail "Unknown manifest key: " key)

/-- One line of the manifest. -/
def manifestLine (out : ManifestFields) (raw : Text) : Except Text ManifestFields :=
  let line := stripCr raw
  if line = [] then .ok out
  else if line.head? = some '#' then .ok out
  else if line.length ≥ GC_UPDATE_MANIFEST_MAX_LINE then
    .error (gcUpdateManifestFail "Manifest line is too long" [])
  else if '\x00' ∈ line then .error (gcUpdateManifestFail "Manifest contains a NUL byte" [])
  else if '=' ∉ line ∨ line.head? = some '=' then
    .error (gcUpdateManifestFail "Malformed manifest line: " line)
  else
    let key := line.takeWhile (· ≠ '=')
    let value := (line.dropWhile (· ≠ '=')).tail
    if value = [] then .error (gcUpdateManifestFail "Empty manifest value for key: " key)
    else manifestField out key value

/-- The fields of one architecture once the manifest has been read: all or nothing, and the
file bound to the version and the architecture. -/
def finishAsset (version : GcUpdateVersion) (arch : GcUpdateArch) (fields : AssetFields) :
    Except Text (Option GcUpdateAsset) :=
  match fields with
  | ⟨none, none, none⟩ => .ok none
  | ⟨some file, some size, some sha256⟩ =>
    if gcUpdateExpectedAssetName version.text arch = some file then .ok (some { file, size, sha256 })
    else .error (gcUpdateManifestFail "Asset name does not match its version/arch: " file)
  | _ => .error (gcUpdateManifestFail "Incomplete asset entry for " (gcUpdateArchName arch))

def finishManifest (out : ManifestFields) : Except Text GcUpdateManifest :=
  if !out.sawFormat then .error (gcUpdateManifestFail "Manifest has no format key" [])
  else
    match out.version with
    | none => .error (gcUpdateManifestFail "Manifest has no version key" [])
    | some version => do
      let x64 ← finishAsset version .x64 out.x64
      let arm64 ← finishAsset version .arm64 out.arm64
      if x64.isNone ∧ arm64.isNone then
        .error (gcUpdateManifestFail "Manifest describes no assets" [])
      else return { version, minimumFrom := out.minimumFrom, x64, arm64 }

/-- `gc_update_manifest_parse`. -/
def gcUpdateManifestParse (text : Text) : Except Text GcUpdateManifest := do
  if text.length = 0 ∨ text.length > GC_UPDATE_MANIFEST_MAX_BYTES then
    .error (gcUpdateManifestFail "Manifest size is out of range" [])
  else
    let fields ← (manifestLines text).foldlM manifestLine {}
    finishManifest fields

/-! ## What an update decision rests on -/

/-- `gc_update_select_asset`, of a manifest that was accepted. -/
def gcUpdateSelectAsset (manifest : GcUpdateManifest) : GcUpdateArch → Option GcUpdateAsset
  | .x64 => manifest.x64
  | .arm64 => manifest.arm64
  | .unknown => none

inductive GcUpdateDecision where
  | rejected | upToDate | available | manualRequired | noAsset
  deriving DecidableEq, Repr

/-- `gc_update_decide`, of a manifest that was accepted. -/
def gcUpdateDecide (manifest : GcUpdateManifest) (installed : Option GcUpdateVersion)
    (arch : GcUpdateArch) : GcUpdateDecision :=
  match installed with
  | none => .rejected
  | some installed =>
    if arch = .unknown then .rejected
    else
      let order := gcUpdateVersionCompare manifest.version installed
      if order < 0 then .rejected
      else if order = 0 then .upToDate
      else if (gcUpdateSelectAsset manifest arch).isNone then .noAsset
      else if !gcUpdateMeetsMinimumFrom installed manifest.minimumFrom then .manualRequired
      else .available

/-- What an available update promises. -/
theorem gcUpdateDecide_eq_available {manifest : GcUpdateManifest}
    {installed : Option GcUpdateVersion} {arch : GcUpdateArch} :
    gcUpdateDecide manifest installed arch = .available ↔
      ∃ running, installed = some running ∧ running.rank < manifest.version.rank ∧
        (gcUpdateSelectAsset manifest arch).isSome ∧
        gcUpdateMeetsMinimumFrom running manifest.minimumFrom = true := by
  cases installed with
  | none => simp [gcUpdateDecide]
  | some running =>
    simp only [gcUpdateDecide, Option.some.injEq, exists_eq_left', ← GcUpdateVersion.compare_pos_iff]
    split_ifs with harch hneg hzero hasset hfloor
    · simp [harch, gcUpdateSelectAsset]
    · simp only [false_iff]
      omega
    · simp [hzero]
    · simp_all
    · simp_all
    · have hpos : gcUpdateVersionCompare manifest.version running > 0 := by omega
      simp only [true_iff]
      exact ⟨hpos, Option.isSome_iff_ne_none.mpr (by simpa using hasset), by simpa using hfloor⟩

end GreenCurve
