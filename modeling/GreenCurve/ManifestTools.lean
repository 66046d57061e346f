import GreenCurve.UpdateFreshness

/-! # The release tool's side of the manifest

What the release tool checks before it signs: `parse_manifest` on the exact bytes it is about
to publish, `unwrap` on an envelope, and the builders of both.  A Python dictionary is the list
of its items in the order they were inserted. -/

namespace GreenCurve.Tools

open Ini (Text)

abbrev MAX_MANIFEST_BYTES : Nat := 4096
abbrev MAX_LINE_BYTES : Nat := 512
abbrev MAX_ASSET_BYTES : Nat := 268435456
abbrev MAX_LIFETIME : Int := 30 * 24 * 60 * 60

/-- A dictionary of the fields of a manifest. -/
abbrev Entries := List (Text × Text)

def ARCHES : List Text := ["x64".toList, "arm64".toList]

def FIELDS : List Text := ["file".toList, "size".toList, "sha256".toList]

/-- `f"{arch}_{field}"`. -/
def fieldKey (arch field : Text) : Text := arch ++ '_' :: field

/-- The keys a manifest may have. -/
def allowed : List Text :=
  ["format".toList, "version".toList, "min_from".toList] ++
    ARCHES.flatMap fun arch => FIELDS.map (fieldKey arch)

/-- `(?:0|[1-9][0-9]{0,5})`, of a whole text. -/
def isComponent : Text → Bool
  | [] => false
  | c :: rest =>
    (c == '0' && rest.isEmpty) ||
      (c.isDigit && c != '0' && rest.all Char.isDigit && decide (rest.length ≤ 5))

/-- `_VERSION.fullmatch`. -/
def isVersion (version : Text) : Bool :=
  match version.splitOn '.' with
  | [major, minor] => isComponent major && isComponent minor
  | [major, minor, patch] => isComponent major && isComponent minor && isComponent patch
  | _ => false

/-- `validate_version`; an absent version is not a string. -/
def validateVersion : Option Text → Except String Text
  | some version =>
    if isVersion version then .ok version
    else .error ("version must be MAJOR.MINOR[.PATCH], with no leading zeros " ++
      "and each component at most 999999")
  | none => .error ("version must be MAJOR.MINOR[.PATCH], with no leading zeros " ++
      "and each component at most 999999")

/-- `[1-9][0-9]{0,8}`, of a whole text. -/
def isSize : Text → Bool
  | [] => false
  | c :: rest =>
    c.isDigit && c != '0' && rest.all Char.isDigit && decide (rest.length ≤ 8)

/-- `int`, of a text of digits. -/
def int (digits : Text) : Nat := Nat.ofDigitChars 10 digits 0

section

theorem lawfulBEq_key : LawfulBEq (List Char) := inferInstance

attribute [local instance] lawfulBEq_key

/-- One line of the manifest. -/
def parseLine (entries : Entries) (raw : Text) : Except String Entries :=
  let raw := stripCr raw
  if raw = [] ∨ raw.head? = some '#' then .ok entries
  else if raw.length ≥ MAX_LINE_BYTES ∨ '\x00' ∈ raw then
    .error "manifest field line is too long or contains a NUL"
  else if (∃ c ∈ raw, 128 ≤ c.toNat) ∨ '=' ∉ raw then .error "malformed manifest field line"
  else
    let key := raw.takeWhile (· ≠ '=')
    let value := (raw.dropWhile (· ≠ '=')).tail
    if key ∉ allowed ∨ value = [] then
      .error ("unknown or empty manifest field: " ++ String.ofList key)
    else if (entries.lookup key).isSome then
      .error ("duplicate manifest field: " ++ String.ofList key)
    else .ok (entries ++ [(key, value)])

end

/-- The fields of one architecture: how many assets they describe. -/
def checkAsset (entries : Entries) (version arch : Text) : Except String Nat :=
  match entries.lookup (fieldKey arch "file".toList), entries.lookup (fieldKey arch "size".toList),
      entries.lookup (fieldKey arch "sha256".toList) with
  | none, none, none => .ok 0
  | some file, some size, some sha256 =>
    if file ≠ "greencurve-".toList ++ version ++ "-windows-".toList ++ arch ++ "-setup.exe".toList then
      .error ("manifest filename does not match its version/architecture: " ++ String.ofList arch)
    else if !isSize size || decide (int size > MAX_ASSET_BYTES) then
      .error ("manifest asset size is out of range: " ++ String.ofList arch)
    else if !(decide (sha256.length = 64) && sha256.all isLowerHex) then
      .error ("manifest asset digest must be lowercase SHA-256: " ++ String.ofList arch)
    else .ok 1
  | _, _, _ => .error ("incomplete manifest asset: " ++ String.ofList arch)

/-- What `parse_manifest` checks once it has all fields. -/
def checkEntries (entries : Entries) : Except String Unit := do
  if entries.lookup "format".toList ≠ some ['1'] then
    .error "manifest format is missing or unsupported"
  else
    let version ← validateVersion (entries.lookup "version".toList)
    if (entries.lookup "min_from".toList).isSome then
      let _ ← validateVersion (entries.lookup "min_from".toList)
    let x64 ← checkAsset entries version "x64".toList
    let arm64 ← checkAsset entries version "arm64".toList
    if x64 + arm64 = 0 then .error "manifest describes no assets" else .ok ()

/-- `parse_manifest`: the fields, with exactly the values of the payload. -/
def parseManifest (payload : Text) : Except String Entries := do
  if ¬(0 < payload.length ∧ payload.length ≤ MAX_MANIFEST_BYTES) then
    .error "manifest size is out of range"
  else
    let entries ← (payload.splitOn '\n').foldlM parseLine []
    checkEntries entries
    return entries

/-! ## The envelope -/

/-- `([0-9]{1,12})`: the number and what follows it. -/
def numberGroup (t : Text) : Option (Nat × Text) :=
  let digits := t.takeWhile Char.isDigit
  if 1 ≤ digits.length ∧ digits.length ≤ 12 then some (int digits, t.dropWhile Char.isDigit)
  else none

/-- `read_header`: the two times and the payload behind the header. -/
def readHeader (envelope : Text) : Except String (Int × Int × Text) :=
  let found : Option (Int × Int × Text) := do
    let t ← behind? "freshness=1\nissued=".toList envelope
    let (issued, t) ← numberGroup t
    let t ← behind? "\nexpires=".toList t
    let (expires, t) ← numberGroup t
    let t ← behind? ['\n'] t
    return ((issued : Int), (expires : Int), t)
  match found with
  | none => .error "missing signed freshness header"
  | some (issued, expires, payload) =>
    if 0 < issued ∧ issued < expires ∧ expires ≤ issued + MAX_LIFETIME then
      .ok (issued, expires, payload)
    else .error "invalid freshness lifetime"

/-- `unwrap`. -/
def unwrap (envelope : Text) (now : Int) : Except String Text := do
  let (issued, expires, payload) ← readHeader envelope
  if now > 0 ∧ issued ≤ now + 300 ∧ now < expires then return payload
  else .error "expired or future-dated update metadata"

/-- `build_envelope`. -/
def buildEnvelope (manifest : Text) (issued : Int) : Except String Text :=
  if 0 < issued ∧ issued < 10 ^ 12 - MAX_LIFETIME then
    .ok ("freshness=1\nissued=".toList ++ printInt issued ++ "\nexpires=".toList ++
      printInt (issued + MAX_LIFETIME) ++ '\n' :: manifest)
  else .error "invalid issuance timestamp"

/-! ## The manifest builder -/

/-- A setup file that was found: its size and its digest. -/
structure SetupFile where
  size : Nat
  sha256 : Text
  deriving DecidableEq

/-- `asset_name`. -/
def assetName (version arch : Text) : Text :=
  "greencurve-".toList ++ version ++ "-windows-".toList ++ arch ++ "-setup.exe".toList

/-- The lines of one architecture. -/
def assetLines (version arch : Text) : Option SetupFile → Except String (List Text)
  | none => .ok []
  | some setup =>
    if setup.size = 0 then .error "setup file is empty"
    else .ok [fieldKey arch "file".toList ++ '=' :: assetName version arch,
      fieldKey arch "size".toList ++ '=' :: printInt setup.size,
      fieldKey arch "sha256".toList ++ '=' :: setup.sha256]

/-- `build_manifest`, given the setup files of the directory. -/
def buildManifest (version : Text) (x64 arm64 : Option SetupFile) (minimumFrom : Option Text) :
    Except String Text := do
  let _ ← validateVersion (some version)
  if minimumFrom.isSome then
    let _ ← validateVersion minimumFrom
  let x64Lines ← assetLines version "x64".toList x64
  let arm64Lines ← assetLines version "arm64".toList arm64
  if x64.isNone ∧ arm64.isNone then .error "no setup executables found"
  else
    let lines :=
      ["# Green Curve update manifest.  Signed with the release key; see".toList,
        "# tools/update_signing.py.  Do not edit by hand -- the signature is".toList,
        "# over these exact bytes.".toList, "format=1".toList, "version=".toList ++ version] ++
      (minimumFrom.toList.filter (· ≠ [])).map ("min_from=".toList ++ ·) ++ x64Lines ++ arm64Lines
    let rendered := ['\n'].intercalate lines ++ ['\n']
    let _ ← parseManifest rendered
    return rendered

end GreenCurve.Tools
