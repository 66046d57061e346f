import GreenCurve.IniPrint
import GreenCurve.ProfileSections
import GreenCurve.GpuDriver

/-! # The profile bank

A configuration file holds five profiles, each in three sections of its own; the first
one has a second, legacy home.  Files of older builds store memory offsets in effective
MHz.  A marker says that every offset of the file is in display MHz; without it a load
converts in memory what it reads, and a save converts the whole file and sets the
marker.  A clear leaves marker and offsets as they are. -/

namespace GreenCurve.Profile

open Ini (Text Entry Document)

abbrev CONFIG_NUM_SLOTS : Nat := 5
abbrev CONFIG_DEFAULT_SLOT : Nat := 1
abbrev LINUX_INI_MAX_BYTES : Nat := 1048576

/-- `LINUX_INI_MAX_SECTIONS` and `LINUX_INI_MAX_ENTRIES_PER_SECTION`. -/
def linuxIniLimits : Ini.Limits where
  sections := 256
  entries := 4096

/-- `load_ini_document`, on the bytes of the file; a file that is not there has none. -/
def loadIniDocument (text : Text) : Except LoadError Document :=
  if text.length > LINUX_INI_MAX_BYTES then .error .tooLarge
  else
    match Ini.readWithin linuxIniLimits (Ini.decode text) with
    | .ok doc => .ok doc
    | .error e => .error (.limit e)

def setSectionValue (doc : Document) (sectionName key : String) (value : Text) : Document :=
  doc.upsert sectionName.toList (Ini.assign key.toList value)

def setSectionInt (doc : Document) (sectionName key : String) (n : Int) : Document :=
  setSectionValue doc sectionName key (printInt n)

def getSectionInt (doc : Document) (sectionName key : String) (default : Int) : Int :=
  let text := value (doc.entries sectionName.toList) key.toList
  if text = [] then default else (parseIntStrict text).getD default

def replaceSection (doc : Document) (sectionName : Text) (entries : List Entry) : Document :=
  doc.upsert sectionName fun _ => entries

/-! ## The unit of the memory offsets -/

def markerKey : Text := "linux_mem_migrated".toList

/-- `linux_mem_migration_marker_set`: only the one spelling the writer uses. -/
def markerSet (doc : Document) : Bool :=
  decide (Ini.lookup (doc.entries "meta".toList) markerKey = some "1".toList)

/-- `linux_mem_migration_stamp_marker`. -/
def stampMarker (doc : Document) : Document :=
  setSectionValue doc "meta" "linux_mem_migrated" "1".toList

/-- `linux_mem_migration_parse_int`. -/
def memMigrationParseInt (text : Text) : Option Int :=
  if text = [] then none
  else
    match strtol (Ini.cString text) with
    | some (n, []) => if -2147483648 ≤ n ∧ n ≤ 2147483647 then some n else none
    | _ => none

/-- The controls section of a slot. -/
def slotControls (slot : Nat) : Text := numbered "profile" slot

/-- `linux_mem_migration_is_control_section`. -/
def isControlSection (name : Text) : Bool :=
  decide (name = "controls".toList) ||
    (List.range CONFIG_NUM_SLOTS).any fun i => decide (name = slotControls (i + 1))

/-- The first memory offset of a section from effective to display MHz; what is no
integer stays for the load to report. -/
def convertMemOffset (entries : List Entry) : List Entry :=
  match (Ini.lookup entries "mem_offset_mhz".toList).bind memMigrationParseInt with
  | some stored =>
    Ini.assign "mem_offset_mhz".toList (printInt (Backend.memDisplayMHz stored)) entries
  | none => entries

def convertSection (s : Ini.Section) : Ini.Section :=
  if isControlSection s.name then ⟨s.name, convertMemOffset s.entries⟩ else s

/-- `linux_ini_migrate_mem_offsets_effective_to_display`: nothing in a file that carries
the marker; the marker is set where there is a profile to speak of. -/
def migrateMemOffsets (doc : Document) : Document :=
  if markerSet doc then doc
  else if doc.any fun s => isControlSection s.name then stampMarker (doc.map convertSection)
  else doc

/-! ## Slots -/

/-- The sections a profile is stored in. -/
structure SlotSections where
  controls : Text
  curve : Text
  fanCurve : Text

def slotSections (slot : Nat) : SlotSections where
  controls := slotControls slot
  curve := slotControls slot ++ "_curve".toList
  fanCurve := slotControls slot ++ "_fan_curve".toList

def legacySections : SlotSections where
  controls := "controls".toList
  curve := "curve".toList
  fanCurve := "fan_curve".toList

/-- The names of the three. -/
def SlotSections.names (s : SlotSections) : List Text := [s.controls, s.curve, s.fanCurve]

/-- One of the three has an entry. -/
def SlotSections.hasKeys (s : SlotSections) (doc : Document) : Bool :=
  s.names.any fun name => decide (doc.entries name ≠ [])

/-- The profile three sections of a document hold, as an editor sees it. -/
def loadSections (doc : Document) (s : SlotSections) (slot : Nat) :
    Except LoadError DesiredSettings := do
  let d ← loadDesiredSettingsFromSections (doc.entries s.controls) (doc.entries s.curve)
    (doc.entries s.fanCurve) (String.ofList s.fanCurve) ("profile " ++ toString slot)
  return normalizeDesiredSettingsForUi d

def validSlot (slot : Nat) : Bool := decide (1 ≤ slot ∧ slot ≤ CONFIG_NUM_SLOTS)

/-- The profile of a slot in a migrated document: from its own sections, or for the
first slot from the legacy ones. -/
def loadSlot (doc : Document) (slot : Nat) : Except LoadError DesiredSettings :=
  if (slotSections slot).hasKeys doc then loadSections doc (slotSections slot) slot
  else if slot = 1 ∧ legacySections.hasKeys doc = true then loadSections doc legacySections slot
  else .error (.empty slot)

/-- `load_profile_from_config_path`. -/
def loadProfile (text : Text) (slot : Nat) : Except LoadError DesiredSettings :=
  if validSlot slot then do
    let doc ← loadIniDocument text
    loadSlot (migrateMemOffsets doc) slot
  else .error .arguments

/-! ## Saving and clearing -/

def writeProfileSections (doc : Document) (s : SlotSections) (d : DesiredSettings) : Document :=
  let doc := replaceSection doc s.controls (controlsEntries d)
  let doc := replaceSection doc s.curve (curveEntries d)
  replaceSection doc s.fanCurve (fanCurveEntries d.fanCurve)

/-- A stored slot reference, none where it names no slot. -/
def slotReference (doc : Document) (key : String) : Int :=
  let slot := getSectionInt doc "profiles" key 0
  if slot < 0 ∨ slot > CONFIG_NUM_SLOTS then 0 else slot

/-- The document a save writes. -/
def saveDocument (doc : Document) (slot : Nat) (d : DesiredSettings) : Document :=
  let doc := stampMarker (migrateMemOffsets doc)
  let normalized := normalizeDesiredSettingsForUi d
  let doc := setSectionInt doc "meta" "format_version" 2
  let appLaunchSlot := slotReference doc "app_launch_slot"
  let logonSlot := slotReference doc "logon_slot"
  let appliedSlot := slotReference doc "applied_slot"
  let startOnLogon := getSectionInt doc "startup" "start_program_on_logon" 0
  let doc := setSectionInt doc "profiles" "selected_slot" slot
  let doc := setSectionInt doc "profiles" "applied_slot" appliedSlot
  let doc := setSectionInt doc "profiles" "app_launch_slot" appLaunchSlot
  let doc := setSectionInt doc "profiles" "logon_slot" logonSlot
  let doc := writeProfileSections doc (slotSections slot) normalized
  let doc := if slot = 1 then writeProfileSections doc legacySections normalized else doc
  let doc := setSectionInt doc "startup" "apply_on_launch" (if logonSlot > 0 then 1 else 0)
  let doc := setSectionInt doc "startup" "start_program_on_logon"
    (if startOnLogon ≠ 0 then 1 else 0)
  setSectionInt doc "debug" "enabled" (if getSectionInt doc "debug" "enabled" 1 ≠ 0 then 1 else 0)

/-- The text `save_profile_to_config_path` hands to the writer. -/
def saveProfile (text : Text) (slot : Nat) (d : DesiredSettings) : Except LoadError Text :=
  if validSlot slot then do
    let doc ← loadIniDocument text
    return Ini.print (saveDocument doc slot d)
  else .error .arguments

/-- The sections that are a slot's: its own, and for the first slot the legacy ones. -/
def ownedSections (slot : Nat) : List Text :=
  (slotSections slot).names ++ if slot = 1 then legacySections.names else []

section

theorem lawfulBEq_name : LawfulBEq (List Char) := inferInstance

attribute [local instance] lawfulBEq_name

/-- What a clear keeps of a document. -/
def retained (doc : Document) (slot : Nat) : Document :=
  doc.filter fun s => decide (s.name ∉ ownedSections slot)

end

/-- `profile_slot_reference_after_clear`. -/
def slotReferenceAfterClear (reference cleared fallback : Int) : Int :=
  if reference = cleared then fallback else reference

/-- The document a clear writes. -/
def clearDocument (doc : Document) (slot : Nat) : Document :=
  let doc := retained doc slot
  let selected := getSectionInt doc "profiles" "selected_slot" CONFIG_DEFAULT_SLOT
  let selectedSlot : Int :=
    if selected < 1 ∨ selected > CONFIG_NUM_SLOTS then CONFIG_DEFAULT_SLOT else selected
  let logonSlot := slotReferenceAfterClear (slotReference doc "logon_slot") slot 0
  let appliedSlot := slotReferenceAfterClear (slotReference doc "applied_slot") slot 0
  let appLaunchSlot := slotReferenceAfterClear (slotReference doc "app_launch_slot") slot 0
  let doc := setSectionInt doc "profiles" "selected_slot"
    (slotReferenceAfterClear selectedSlot slot CONFIG_DEFAULT_SLOT)
  let doc := setSectionInt doc "profiles" "applied_slot" appliedSlot
  let doc := setSectionInt doc "profiles" "app_launch_slot" appLaunchSlot
  let doc := setSectionInt doc "profiles" "logon_slot" logonSlot
  setSectionInt doc "startup" "apply_on_launch" (if logonSlot > 0 then 1 else 0)

/-- The text `clear_profile_from_config_path` hands to the writer. -/
def clearProfile (text : Text) (slot : Nat) : Except LoadError Text :=
  if validSlot slot then do
    let doc ← loadIniDocument text
    return Ini.print (clearDocument doc slot)
  else .error .arguments

end GreenCurve.Profile
