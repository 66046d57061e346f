import GreenCurve.CrashProgram
import GreenCurve.GpuRecord
import GreenCurve.WindowsProfile

/-! # The machine-wide profile bank

An administrator publishes a profile together with the GPU it was made for.  The slot is
first invalidated and marked as being published; then its settings, its GPU and the commit
marker follow, each in a write of its own that replaces the file.  A write succeeds or leaves
the file as it was, and the program may die after any of them.

A slot without a marker was written before there were markers, and the reader has a case for
it.  The marker is read by a function that reports an absent key as a failure, so that case
is never reached. -/

namespace GreenCurve.MachineBank

open Ini (Text Entry Document sameName)
open Profile (numbered slotControls slotSections legacySections validSlot CONFIG_NUM_SLOTS)
open Gpu (GpuAdapterInfo GpuLocationRole MAX_GPU_ADAPTERS configuredGpuLocationRoleName
  configuredGpuLocationRoleParse)
open WinProfile (LiveReadback printU flag settingsSections saveProfileToConfig)

/-! ## The sections of a slot -/

/-- The names of `machine_profile_section_names`, with the marker and, for the first slot,
the legacy sections. -/
def gpuName (slot : Nat) : Text := slotControls slot ++ "_gpu".toList

def publishName (slot : Nat) : Text := slotControls slot ++ "_publish".toList

/-- The sections the settings of a slot are in. -/
def settingsNames (slot : Nat) : List Text :=
  (slotSections slot).names ++ if slot = 1 then legacySections.names else []

def slotNames (slot : Nat) : List Text :=
  settingsNames slot ++ [gpuName slot, publishName slot]

/-- `is_profile_slot_saved`. -/
def isProfileSlotSaved (doc : Document) (slot : Nat) : Bool :=
  validSlot slot && (settingsNames slot).any (Ini.configSectionHasKeys doc)

/-! ## The GPU of a slot -/

/-- `ConfiguredGpuSelection`. -/
structure ConfiguredGpuSelection where
  legacyIndex : UInt32 := 0
  stableIdentityPresent : Bool := false
  identity : GpuAdapterInfo := {}
  locationRole : GpuLocationRole := .unrecorded
  deriving DecidableEq

/-- `configured_gpu_identity_has_bdf`. -/
def configuredGpuIdentityHasBdf (gpu : GpuAdapterInfo) : Bool :=
  decide (gpu.pciDomain ≤ 0xFFFF) && decide (gpu.pciBus ≤ 255) && decide (gpu.pciDevice ≤ 31) &&
    decide (gpu.pciFunction ≤ 7) && decide (gpu.bdf ≠ (0, 0, 0, 0))

/-- `configured_gpu_base_identity_matches`. -/
def configuredGpuBaseIdentityMatches (expected live : GpuAdapterInfo) : Bool :=
  expected.valid && live.valid && expected.pciInfoValid && live.pciInfoValid &&
    decide (expected.deviceId = live.deviceId) &&
    decide (expected.subSystemId = live.subSystemId) &&
    decide (expected.pciRevisionId = live.pciRevisionId) &&
    decide (expected.extDeviceId = live.extDeviceId)

/-- `configured_gpu_selections_equal`. -/
def configuredGpuSelectionsEqual (a b : ConfiguredGpuSelection) : Bool :=
  if a.legacyIndex ≠ b.legacyIndex ∨ a.stableIdentityPresent ≠ b.stableIdentityPresent then false
  else if !a.stableIdentityPresent then true
  else
    decide (a.locationRole = b.locationRole) &&
      configuredGpuBaseIdentityMatches a.identity b.identity &&
      configuredGpuIdentityHasBdf a.identity == configuredGpuIdentityHasBdf b.identity &&
      (!configuredGpuIdentityHasBdf a.identity || decide (a.identity.bdf = b.identity.bdf))

section Load
variable (doc : Document) (name : Text)

/-- `read_config_int_value_locked`. -/
def readConfigIntValue (key : String) (default : Int) : Option Int :=
  let read := Ini.getString doc name key.toList 32
  if 31 ≤ read.1 then none
  else
    let text := Ini.trim read.2
    if text = [] then some default else parseIntStrict text

/-- `parse_config_uint_hex_locked`. -/
def parseConfigUintHex (key : String) : Option UInt32 :=
  let read := Ini.getString doc name key.toList 32
  if read.1 = 0 ∨ 31 ≤ read.1 then none
  else
    let text := Ini.trim read.2
    if text = [] ∨ 8 < text.length ∨ ¬text.all Hex.isHexDigit then none
    else some (UInt32.ofNat (Hex.ofDigits text))

/-- `read_config_location_role_locked`. -/
def readConfigLocationRole : Option GpuLocationRole :=
  let read := Ini.getString doc name "selected_pci_location_role".toList 32
  if 31 ≤ read.1 then none else configuredGpuLocationRoleParse (Ini.trim read.2)

/-- An integer between two bounds. -/
def readBounded (key : String) (high : Int) : Option Int := do
  let value ← readConfigIntValue doc name key 0
  guard (0 ≤ value ∧ value ≤ high)
  return value

/-- The location of a stored identity, with its role. -/
def loadLocation (identity : GpuAdapterInfo) : Option (GpuAdapterInfo × GpuLocationRole) := do
  let domain ← readBounded doc name "selected_pci_domain" 0xFFFF
  let bus ← readBounded doc name "selected_pci_bus" 255
  let device ← readBounded doc name "selected_pci_device" 31
  let function ← readBounded doc name "selected_pci_function" 7
  guard ((domain, bus, device, function) ≠ (0, 0, 0, 0))
  let role ← readConfigLocationRole doc name
  return ({ identity with
    pciDomain := UInt32.ofNat domain.toNat
    pciBus := UInt32.ofNat bus.toNat
    pciDevice := UInt32.ofNat device.toNat
    pciFunction := UInt32.ofNat function.toNat }, role)

/-- A stored identity, as version 1 writes it. -/
def loadIdentity (legacyIndex : UInt32) : Option ConfiguredGpuSelection := do
  let deviceId ← parseConfigUintHex doc name "selected_device_id"
  let subSystemId ← parseConfigUintHex doc name "selected_subsystem_id"
  let pciRevisionId ← parseConfigUintHex doc name "selected_revision_id"
  let extDeviceId ← parseConfigUintHex doc name "selected_ext_device_id"
  let bdfValid ← readBounded doc name "selected_bdf_valid" 1
  guard (deviceId ≠ 0)
  let identity : GpuAdapterInfo :=
    { valid := true, pciInfoValid := true, deviceId, subSystemId, pciRevisionId, extDeviceId }
  let (identity, locationRole) ←
    if bdfValid = 0 then some (identity, .unrecorded) else loadLocation doc name identity
  return { legacyIndex, stableIdentityPresent := true, identity, locationRole }

/-- `load_configured_gpu_selection_from_section`. -/
def loadConfiguredGpuSelectionFromSection : Option ConfiguredGpuSelection := do
  let selectedIndex ← readBounded doc name "selected_index" (MAX_GPU_ADAPTERS - 1)
  let identityVersion ← readBounded doc name "selected_identity_version" 1
  if identityVersion = 1 then loadIdentity doc name (UInt32.ofNat selectedIndex.toNat)
  else return { legacyIndex := UInt32.ofNat selectedIndex.toNat }

end Load

/-- `"%08X"`. -/
def printHex (n : UInt32) : Text := (Hex.print 8 n.toNat).map Char.toUpper

/-- The entries of `format_configured_gpu_selection_section`. -/
def gpuEntries (selection : ConfiguredGpuSelection) : List Entry :=
  let stable := selection.stableIdentityPresent
  let gpu := if stable then selection.identity else {}
  let bdf := stable && gpu.pciInfoValid && configuredGpuIdentityHasBdf gpu
  let location := if bdf then gpu else {}
  [⟨"selected_index".toList, printU selection.legacyIndex.toNat⟩,
    ⟨"selected_identity_version".toList, flag stable⟩,
    ⟨"selected_device_id".toList, printHex gpu.deviceId⟩,
    ⟨"selected_subsystem_id".toList, printHex gpu.subSystemId⟩,
    ⟨"selected_revision_id".toList, printHex gpu.pciRevisionId⟩,
    ⟨"selected_ext_device_id".toList, printHex gpu.extDeviceId⟩,
    ⟨"selected_bdf_valid".toList, flag bdf⟩,
    ⟨"selected_pci_domain".toList, printU location.pciDomain.toNat⟩,
    ⟨"selected_pci_bus".toList, printU location.pciBus.toNat⟩,
    ⟨"selected_pci_device".toList, printU location.pciDevice.toNat⟩,
    ⟨"selected_pci_function".toList, printU location.pciFunction.toNat⟩] ++
  if bdf && decide (selection.locationRole ≠ .unrecorded) then
    [⟨"selected_pci_location_role".toList,
      (configuredGpuLocationRoleName selection.locationRole).toList⟩]
  else []

/-- `format_configured_gpu_selection_section`: nothing for a selection it refuses. -/
def formatConfiguredGpuSelectionSection (name : Text) (selection : ConfiguredGpuSelection) :
    Option Ini.Section :=
  let gpu := selection.identity
  if ¬selection.legacyIndex.toNat < MAX_GPU_ADAPTERS then none
  else if selection.stableIdentityPresent ∧
      (!gpu.valid ∨ !gpu.pciInfoValid ∨ gpu.deviceId = 0) then none
  else some ⟨name, gpuEntries selection⟩

/-! ## The marker -/

/-- `MachineProfilePublishState`. -/
inductive PublishState where
  | legacy | inProgress | committed | invalid
  deriving DecidableEq

/-- `machine_profile_publish_state`. -/
def machineProfilePublishState (doc : Document) (slot : Nat) : PublishState :=
  match Ini.getConfigString doc (publishName slot) "state".toList 32 with
  | none => .invalid
  | some value =>
    if value = [] then .legacy
    else if sameName value "publishing".toList then .inProgress
    else if sameName value "committed".toList then .committed
    else .invalid

/-- `machine_profile_slot_is_coherent`, which reads the bank four times: whether the slot is
saved, its marker, whether there is a GPU section, and the GPU. -/
def slotAccepted (saved marker binding gpu : Document) (slot : Nat) : Bool :=
  if !isProfileSlotSaved saved slot then false
  else
    let gpuBindingPresent := Ini.configSectionHasKeys binding (gpuName slot)
    let gpuLoads := (loadConfiguredGpuSelectionFromSection gpu (gpuName slot)).isSome
    match machineProfilePublishState marker slot with
    | .legacy => !gpuBindingPresent || gpuLoads
    | .committed => gpuBindingPresent && gpuLoads
    | .inProgress => false
    | .invalid => false

/-- The same on a bank that does not change meanwhile. -/
def machineProfileSlotIsCoherent (doc : Document) (slot : Nat) : Bool :=
  slotAccepted doc doc doc doc slot

/-! ## The writers -/

def markerSection (slot : Nat) (state : String) : Ini.Section :=
  ⟨publishName slot, [⟨"state".toList, state.toList⟩]⟩

/-- `replace_machine_profile_slot_sections`. -/
def replaceSlotSections (doc : Document) (slot : Nat) (new : Document) : Document :=
  Ini.replaceSections doc (slotNames slot) new

/-- What a publication takes from its source: the loaded profile, the program's readback
while it is saved, and the selected GPU. -/
structure Publication where
  desired : DesiredSettings
  live : LiveReadback
  gpu : ConfiguredGpuSelection

open CrashM

/-- The environment answers whether a call succeeded. -/
abbrev BankM := CrashM Bool Document

/-- A write that replaces the file, or leaves it as it was. -/
def write (change : Document → Document) : BankM Bool := do
  let ok ← ask
  CrashM.when ok (modify change)
  return ok

/-- `save_profile_to_config`. -/
def saveProfile (slot : Nat) (p : Publication) : BankM Bool := do
  let doc ← get
  match saveProfileToConfig doc slot p.desired p.live with
  | none => return false
  | some new => write fun _ => new

/-- The GPU section is written and read back. -/
def bindGpu (slot : Nat) (p : Publication) : BankM Bool := do
  match formatConfiguredGpuSelectionSection (gpuName slot) p.gpu with
  | none => return false
  | some gpuSection =>
    let written ← write fun doc => Ini.replaceSections doc [gpuName slot] [gpuSection]
    if !written then return false else
    let doc ← get
    match loadConfiguredGpuSelectionFromSection doc (gpuName slot) with
    | none => return false
    | some readback => return configuredGpuSelectionsEqual p.gpu readback

/-- The commit marker is written and read back. -/
def commit (slot : Nat) : BankM Bool := do
  let written ← write fun doc =>
    Ini.replaceSections doc [publishName slot] [markerSection slot "committed"]
  if !written then return false else
  let doc ← get
  return decide (machineProfilePublishState doc slot = .committed)

/-- The writes between the two markers. -/
def stage (slot : Nat) (p : Publication) : BankM Bool := do
  let saved ← saveProfile slot p
  if !saved then return false else
  let bound ← bindGpu slot p
  if !bound then return false else commit slot

/-- A publication that failed clears the slot, if it can. -/
def abandon (slot : Nat) : BankM Bool := do
  let _ ← write fun doc => replaceSlotSections doc slot []
  return false

/-- `copy_profile_slot_to_machine_config`, from a source that was loaded. -/
def copyProfileSlotToMachineConfig (slot : Nat) (p : Publication) : BankM Bool := do
  let ready ← ask
  if !ready || !validSlot slot then return false else
  let invalidated ← write fun doc =>
    replaceSlotSections doc slot [markerSection slot "publishing"]
  if !invalidated then return false else
  let hardened ← ask
  if !hardened then abandon slot else
  let staged ← stage slot p
  if !staged then abandon slot else return true

/-- `clear_machine_profile_slot`. -/
def clearMachineProfileSlot (slot : Nat) : BankM Bool := do
  let ready ← ask
  if !ready || !validSlot slot then return false else
  let cleared ← write fun doc => replaceSlotSections doc slot []
  if !cleared then return false else ask

/-! ## Runs -/

inductive BankOp where
  | publish (slot : Nat) (p : Publication)
  | clear (slot : Nat)

namespace BankOp

def slot : BankOp → Nat
  | publish slot _ => slot
  | clear slot => slot

def program : BankOp → BankM Bool
  | publish slot p => copyProfileSlotToMachineConfig slot p
  | clear slot => clearMachineProfileSlot slot

end BankOp

/-- An operation with what its calls answer; it dies at the first call that has no answer. -/
structure Step where
  op : BankOp
  answers : List Bool

namespace Step

def result (step : Step) (doc : Document) : Option Bool :=
  (exec step.op.program step.answers doc).1

def bank (step : Step) (doc : Document) : Document :=
  (exec step.op.program step.answers doc).2

end Step

/-- The bank after some operations. -/
def bankAfter (doc : Document) (steps : List Step) : Document :=
  steps.foldl (fun doc step => step.bank doc) doc

end GreenCurve.MachineBank
