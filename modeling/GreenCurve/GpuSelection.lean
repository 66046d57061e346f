import GreenCurve.SoleMatch

/-! # Stored GPUs and live adapters

Firmware assigns PCI bus numbers at boot, so a stored location goes stale.  A stored
target is resolved against the live adapters by its model and its location: a known
model must match, the one adapter at the stored location wins, and a model is followed
away from it to its one live adapter only if the role of the location allows that.  The
client resolves its record with the recorded role; the daemon resolves a request without
one. -/

namespace GreenCurve.Gpu

abbrev MAX_GPU_ADAPTERS : Nat := 8

/-- What `GpuAdapterInfo` says about the identity of an adapter. -/
structure GpuAdapterInfo where
  valid : Bool := false
  pciInfoValid : Bool := false
  deviceId : UInt32 := 0
  subSystemId : UInt32 := 0
  pciRevisionId : UInt32 := 0
  extDeviceId : UInt32 := 0
  pciDomain : UInt32 := 0
  pciBus : UInt32 := 0
  pciDevice : UInt32 := 0
  pciFunction : UInt32 := 0
deriving DecidableEq, Repr

/-- A published list of adapters: the array has `MAX_GPU_ADAPTERS` places. -/
structure AdapterList where
  adapters : List GpuAdapterInfo
  bounded : adapters.length ≤ MAX_GPU_ADAPTERS

inductive GpuLocationRole where
  | unrecorded
  | advisory
  | required
deriving DecidableEq, Repr

/-! ## Identity -/

namespace GpuAdapterInfo

def bdf (gpu : GpuAdapterInfo) : UInt32 × UInt32 × UInt32 × UInt32 :=
  (gpu.pciDomain, gpu.pciBus, gpu.pciDevice, gpu.pciFunction)

/-- `linux_gpu_bdf_valid`. -/
def bdfValid (gpu : GpuAdapterInfo) : Bool :=
  gpu.valid && decide (gpu.pciDomain ≤ 0xFFFF) && decide (gpu.pciBus ≤ 0xFF) &&
    decide (gpu.pciDevice ≤ 0x1F) && decide (gpu.pciFunction ≤ 7) && decide (gpu.bdf ≠ (0, 0, 0, 0))

/-- `linux_gpu_model_known`. -/
def modelKnown (gpu : GpuAdapterInfo) : Bool :=
  gpu.valid && gpu.pciInfoValid && decide (gpu.deviceId ≠ 0)

end GpuAdapterInfo

abbrev nvidiaVendorId : UInt32 := 0x10DE

/-- `gpu_pci_extract_nvidia_device_id`: the device id is bare, or packed with the vendor
in either word. -/
def gpuPciExtractNvidiaDeviceId (encoded : UInt32) : Option UInt32 :=
  let low := encoded &&& 0xFFFF
  let high := (encoded >>> 16) &&& 0xFFFF
  if encoded = 0 then none
  else if encoded ≤ 0xFFFF then if encoded = nvidiaVendorId then none else some encoded
  else if low = nvidiaVendorId ∧ high ≠ 0 ∧ high ≠ nvidiaVendorId then some high
  else if high = nvidiaVendorId ∧ low ≠ 0 ∧ low ≠ nvidiaVendorId then some low
  else none

/-- `linux_gpu_device_id_matches`. -/
def linuxGpuDeviceIdMatches (left right : UInt32) : Bool :=
  decide (left = 0) || decide (right = 0) || decide (left = right) ||
    ((gpuPciExtractNvidiaDeviceId left).isSome &&
      decide (gpuPciExtractNvidiaDeviceId left = gpuPciExtractNvidiaDeviceId right))

/-- `linux_gpu_subsystem_id_matches`: either word order. -/
def linuxGpuSubsystemIdMatches (left right : UInt32) : Bool :=
  let low (id : UInt32) := id &&& 0xFFFF
  let high (id : UInt32) := (id >>> 16) &&& 0xFFFF
  if left = 0 ∨ right = 0 then true
  else if left = right then true
  else if left > 0xFFFF ∧ right > 0xFFFF then
    decide (low left = high right) && decide (high left = low right)
  else if left ≤ 0xFFFF then decide (left = low right) || decide (left = high right)
  else decide (right = low left) || decide (right = high left)

/-- An id that one side may not know. -/
def optionalIdMatches (left right : UInt32) : Bool :=
  decide (left = 0) || decide (right = 0) || decide (left = right)

/-- `linux_gpu_model_matches`. -/
def linuxGpuModelMatches (stored live : GpuAdapterInfo) : Bool :=
  stored.modelKnown && live.modelKnown && linuxGpuDeviceIdMatches stored.deviceId live.deviceId &&
    linuxGpuSubsystemIdMatches stored.subSystemId live.subSystemId &&
    optionalIdMatches stored.pciRevisionId live.pciRevisionId &&
    optionalIdMatches stored.extDeviceId live.extDeviceId

/-- `linux_gpu_bdf_equal`. -/
def linuxGpuBdfEqual (left right : GpuAdapterInfo) : Bool :=
  left.bdfValid && right.bdfValid && decide (left.bdf = right.bdf)

/-- `configured_gpu_location_may_move`. -/
def configuredGpuLocationMayMove (role : GpuLocationRole) (adapterCount : Nat) : Bool :=
  match role with
  | .advisory => true
  | .unrecorded => decide (adapterCount = 1)
  | .required => false

/-! ## Resolution -/

/-- The answer of a resolution: the index and whether the location moved, or -1 or -2. -/
inductive StoredGpu where
  | adapter (index : Nat) (movedOut : Bool)
  | notFound
  | ambiguous
deriving DecidableEq, Repr

/-- What the scan of the adapters counts. -/
structure ResolveScan where
  models : Tally := {}
  locations : Tally := {}

/-- One adapter of the scan. -/
def ResolveScan.step (stored : GpuAdapterInfo) (scan : ResolveScan) (entry : GpuAdapterInfo × Nat) :
    ResolveScan :=
  let (live, i) := entry
  if ¬live.valid then scan
  else if stored.modelKnown ∧ ¬linuxGpuModelMatches stored live then scan
  else
    { models := if stored.modelKnown then scan.models.note i else scan.models
      locations := if stored.bdfValid && linuxGpuBdfEqual stored live then scan.locations.note i
        else scan.locations }

/-- `linux_resolve_stored_gpu_target`. -/
def linuxResolveStoredGpuTarget (stored : GpuAdapterInfo) (role : GpuLocationRole)
    (adapters : List GpuAdapterInfo) : StoredGpu :=
  if ¬stored.valid then .notFound
  else if ¬stored.bdfValid ∧ ¬stored.modelKnown then .notFound
  else
    let scan := (adapters.take MAX_GPU_ADAPTERS).zipIdx.foldl (ResolveScan.step stored) {}
    if scan.locations.count = 1 then .adapter (scan.locations.last.getD 0) false
    else if scan.locations.count > 1 then .ambiguous
    else if scan.models.count = 0 then .notFound
    else if stored.bdfValid ∧ ¬configuredGpuLocationMayMove role adapters.length then .notFound
    else if scan.models.count > 1 then .ambiguous
    else .adapter (scan.models.last.getD 0) stored.bdfValid

/-- What a backend init selects. -/
structure LinuxGpuInitSelection where
  index : StoredGpu
  writeResolved : Bool
deriving DecidableEq, Repr

/-- `linux_gpu_init_selection`: a target is resolved, and without one a lone adapter may
be written to. -/
def linuxGpuInitSelection (target : Option GpuAdapterInfo) (adapters : List GpuAdapterInfo)
    (role : GpuLocationRole) : LinuxGpuInitSelection :=
  match target.filter (·.valid) with
  | some target =>
    match linuxResolveStoredGpuTarget target role adapters with
    | .adapter i moved => ⟨.adapter i moved, true⟩
    | failed => ⟨failed, false⟩
  | none =>
    if adapters.length = 1 then ⟨.adapter 0 false, true⟩
    else ⟨.notFound, false⟩

/-- `linux_gpu_location_role_for_selection`. -/
def linuxGpuLocationRoleForSelection (target : GpuAdapterInfo) (adapters : List GpuAdapterInfo) :
    GpuLocationRole :=
  if ¬target.bdfValid ∨ ¬target.modelKnown then .unrecorded
  else if (adapters.take MAX_GPU_ADAPTERS).countP (linuxGpuModelMatches target) = 1 then .advisory
  else .required

/-! ## The configured GPU of the client -/

/-- `LinuxConfiguredGpuStatus`. -/
inductive ConfiguredStatus where
  | none
  | explicit
  | pending
  | resolved
  | unvalidated
  | notPresent
  | ambiguous
  | malformed
deriving DecidableEq, Repr

/-- The target is the record until it resolves, then the live adapter. -/
structure LinuxConfiguredGpu where
  target : GpuAdapterInfo := {}
  role : GpuLocationRole := .unrecorded
  status : ConfiguredStatus := .none
deriving DecidableEq, Repr

/-- The record of a selection in the configuration file. -/
inductive SelectionRecord where
  | absent
  | present (target : GpuAdapterInfo) (role : GpuLocationRole)
  | malformed
deriving DecidableEq, Repr

/-- `linux_configured_gpu_load` without `--gpu`. -/
def linuxConfiguredGpuLoad : SelectionRecord → LinuxConfiguredGpu
  | .absent => { status := .none }
  | .present target role => { target, role, status := .pending }
  | .malformed => { status := .malformed }

/-- `linux_configured_gpu_load` with the target of `--gpu`. -/
def linuxConfiguredGpuExplicit (target : GpuAdapterInfo) : LinuxConfiguredGpu :=
  { target, status := if target.valid then .explicit else .none }

/-- `linux_gpu_target_select_exact`: the one valid adapter at the location, if its
identity could be read. -/
def linuxGpuTargetSelectExact (target : GpuAdapterInfo) (adapters : List GpuAdapterInfo) :
    Option GpuAdapterInfo := do
  let found := Tally.of (fun live => live.valid && decide (live.bdf = target.bdf))
    (adapters.take MAX_GPU_ADAPTERS)
  guard (found.count = 1)
  let live ← found.last.bind (adapters[·]?)
  guard (live.pciInfoValid = true)
  return live

/-- `linux_configured_gpu_resolve`: the selection and, once it resolved, the index and
whether the location moved. -/
def linuxConfiguredGpuResolve (gpu : LinuxConfiguredGpu) (adapters : List GpuAdapterInfo) :
    LinuxConfiguredGpu × Option (Nat × Bool) :=
  if gpu.status ≠ .pending ∧ gpu.status ≠ .unvalidated then (gpu, none)
  else if adapters.length = 0 then ({ gpu with status := .unvalidated }, none)
  else
    match linuxResolveStoredGpuTarget gpu.target gpu.role adapters with
    | .ambiguous => ({ gpu with status := .ambiguous }, none)
    | .notFound => ({ gpu with status := .notPresent }, none)
    | .adapter i moved =>
      ({ gpu with target := adapters.getD i {}, status := .resolved }, some (i, moved))

/-- `linux_configured_gpu_resolve_against`: a record that moved or carries no role is
written anew, if that works, and then the role is the one of the live adapter. -/
def linuxConfiguredGpuResolveAgainst (gpu : LinuxConfiguredGpu) (adapters : List GpuAdapterInfo)
    (saved : Bool) : LinuxConfiguredGpu :=
  match linuxConfiguredGpuResolve gpu adapters with
  | (gpu, none) => gpu
  | (gpu, some (_, moved)) =>
    if (moved ∨ gpu.role = .unrecorded) ∧ saved ∧ gpu.target.bdfValid ∧ gpu.target.pciInfoValid then
      { gpu with role := linuxGpuLocationRoleForSelection gpu.target adapters }
    else gpu

/-- `linux_configured_gpu_request_target`: whether the request may go out and the adapter
it names. -/
def linuxConfiguredGpuRequestTarget (gpu : LinuxConfiguredGpu) (write : Bool) :
    Option (Option GpuAdapterInfo) :=
  if gpu.status = .none then some none
  else if (gpu.status = .explicit ∨ gpu.status = .resolved) ∧ gpu.target.valid then some gpu.target
  else if write then none
  else some none

/-- `linux_configured_gpu_bring_up_target`. -/
def linuxConfiguredGpuBringUpTarget (gpu : LinuxConfiguredGpu) (publishedAdapterCount : Nat) :
    Option GpuAdapterInfo :=
  if publishedAdapterCount ≠ 0 ∨ gpu.status ≠ .unvalidated ∨ ¬gpu.target.valid then none
  else some gpu.target

/-! ## Runs of the client -/

/-- What the client starts from: the record of its configuration file, or the location of
`--gpu`, which is validated against a snapshot before anything is written. -/
inductive ClientStart where
  | configFile (record : SelectionRecord)
  | gpuOption (target : GpuAdapterInfo) (snapshot : AdapterList)

/-- The selection at the start; the process ends where `--gpu` names no one adapter. -/
def ClientStart.gpu : ClientStart → Option LinuxConfiguredGpu
  | configFile record => some (linuxConfiguredGpuLoad record)
  | gpuOption target snapshot =>
    (linuxGpuTargetSelectExact target snapshot.adapters).map fun live =>
      { linuxConfiguredGpuExplicit target with target := live }

/-- What can happen to the selection: a snapshot it is resolved against, a daemon that
does not answer, a step of the selector. -/
inductive ClientEvent where
  | resolve (snapshot : AdapterList) (saved : Bool)
  | unanswered
  | choose (snapshot : AdapterList) (next : Nat)

def ClientEvent.step (gpu : LinuxConfiguredGpu) : ClientEvent → LinuxConfiguredGpu
  | resolve snapshot saved => linuxConfiguredGpuResolveAgainst gpu snapshot.adapters saved
  | unanswered => if gpu.status = .pending then { gpu with status := .unvalidated } else gpu
  | choose snapshot next =>
    match snapshot.adapters[next]? with
    | some chosen =>
      { target := chosen
        role := linuxGpuLocationRoleForSelection chosen snapshot.adapters
        status := .explicit }
    | none => gpu

def clientRun (gpu : LinuxConfiguredGpu) (events : List ClientEvent) : LinuxConfiguredGpu :=
  events.foldl ClientEvent.step gpu

end GreenCurve.Gpu
