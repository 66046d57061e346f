import GreenCurve.GpuSelectionLaw
import GreenCurve.IniText

/-! # The identity of a physical card

Beside its location and model a stored target may carry the UUID of the card it was
recorded for.  A card that carries that UUID is followed wherever it is; a card that is
known to carry another one is not the stored card, whatever its location and model say; and
where no UUID can be read the location and the model decide as before. -/

namespace GreenCurve.Gpu

open Ini (Text cString)

/-! ## UUIDs -/

/-- `LinuxGpuUuid`: a C string in 96 characters. -/
structure LinuxGpuUuid where
  text : Vector Char 96 := Vector.replicate 96 '\x00'
deriving DecidableEq, Repr

namespace LinuxGpuUuid

/-- The character at `i` of a well-formed UUID. -/
def wellFormedAt (i : Nat) (c : Char) : Bool :=
  if i = 12 ∨ i = 17 ∨ i = 22 ∨ i = 27 then decide (c = '-')
  else decide ('0' ≤ c ∧ c ≤ '9') || decide ('a' ≤ c ∧ c ≤ 'f')

/-- `linux_gpu_uuid_valid`. -/
def valid (uuid : LinuxGpuUuid) : Bool :=
  decide (uuid.text.toList.take 4 = "GPU-".toList) &&
    (List.range' 4 36).all (fun i => wellFormedAt i (uuid.text.toList.getD i '\x00')) &&
    decide (uuid.text[40] = '\x00')

/-- What `strcmp` compares. -/
def name (uuid : LinuxGpuUuid) : Text := cString uuid.text.toList

/-- The characters of a C string, as `linux_gpu_uuid_parse` copies them. -/
def ofText (text : Text) : LinuxGpuUuid where
  text := Vector.ofFn fun i : Fin 96 =>
    match ((cString text).take 95)[i.val]? with
    | none => '\x00'
    | some c => if 4 ≤ i.val ∧ 'A' ≤ c ∧ c ≤ 'F' then c.toLower else c

/-- `linux_gpu_uuid_parse`. -/
def parse (text : Text) : LinuxGpuUuid :=
  if (ofText text).valid then ofText text else {}

/-- `linux_gpu_read_uuid`, from the buffer of a query that succeeded: an answer that does
not end inside its buffer is none. -/
def read (answer : Option (Vector Char 96)) : LinuxGpuUuid :=
  match answer with
  | none => {}
  | some buffer => if '\x00' ∈ buffer.toList then parse buffer.toList else {}

/-- `linux_gpu_uuid_retain`. -/
def retain (observed previous : LinuxGpuUuid) : LinuxGpuUuid :=
  if observed.valid then observed
  else if previous.valid then previous
  else {}

/-- What is known after some reads. -/
def learn (previous : LinuxGpuUuid) (reads : List LinuxGpuUuid) : LinuxGpuUuid :=
  reads.foldl (fun known observed => retain observed known) previous

end LinuxGpuUuid

/-! ## Cards -/

/-- One place of the enumeration: an adapter and what its UUID query answered. -/
structure LiveGpu where
  adapter : GpuAdapterInfo
  uuid : LinuxGpuUuid
deriving DecidableEq, Repr

/-- The adapters and the table of their UUIDs. -/
structure LiveTable where
  gpus : List LiveGpu
  bounded : gpus.length ≤ MAX_GPU_ADAPTERS

/-- What a durable record says about its card. -/
structure StoredCard where
  target : GpuAdapterInfo
  uuid : LinuxGpuUuid
  targetValid : target.valid = true
  uuidValid : uuid.valid = true

namespace LiveTable

def adapters (table : LiveTable) : AdapterList where
  adapters := table.gpus.map LiveGpu.adapter
  bounded := by
    rw [List.length_map]
    exact table.bounded

end LiveTable

/-- A valid adapter with a readable UUID that is the stored one. -/
def carries (stored : LinuxGpuUuid) (gpu : LiveGpu) : Bool :=
  gpu.adapter.valid && gpu.uuid.valid && decide (stored.name = gpu.uuid.name)

/-- `LinuxGpuUuidVerdict`. -/
inductive LinuxGpuUuidVerdict where
  | fallback
  | matched
  | mismatch
  | ambiguous
deriving DecidableEq, Repr

/-- The scan for the stored UUID: it ends at a second match. -/
inductive UuidScan where
  | found (match? : Option Nat)
  | ambiguous
deriving DecidableEq, Repr

/-- One adapter of the scan. -/
def UuidScan.step (stored : LinuxGpuUuid) (scan : UuidScan) (entry : LiveGpu × Nat) : UuidScan :=
  match scan with
  | .ambiguous => .ambiguous
  | .found match? =>
    if carries stored entry.1 then
      match match? with
      | some _ => .ambiguous
      | none => .found (some entry.2)
    else .found match?

def uuidScan (stored : LinuxGpuUuid) (gpus : List LiveGpu) : UuidScan :=
  gpus.zipIdx.foldl (UuidScan.step stored) (.found none)

/-- An unknown model agrees with every adapter. -/
def modelAgrees (target live : GpuAdapterInfo) : Bool :=
  !target.modelKnown || linuxGpuModelMatches target live

/-- `linux_gpu_restore_selection`, with its verdict. -/
def linuxGpuRestoreSelection (target : Option GpuAdapterInfo) (role : GpuLocationRole)
    (table : LiveTable) (stored : LinuxGpuUuid) : LinuxGpuUuidVerdict × LinuxGpuInitSelection :=
  let fallback := linuxGpuInitSelection target table.adapters.adapters role
  match target.filter (·.valid) with
  | none => (.fallback, fallback)
  | some target =>
    if ¬stored.valid then (.fallback, fallback)
    else
      match uuidScan stored (table.gpus.take MAX_GPU_ADAPTERS) with
      | .ambiguous => (.ambiguous, ⟨.ambiguous, false⟩)
      | .found (some i) =>
        match table.gpus[i]? with
        | none => (.mismatch, ⟨.notFound, false⟩)
        | some gpu =>
          if modelAgrees target gpu.adapter then
            (.matched, ⟨.adapter i (!linuxGpuBdfEqual target gpu.adapter), true⟩)
          else (.mismatch, ⟨.notFound, false⟩)
      | .found none =>
        match fallback.index with
        | .adapter i _ =>
          if (table.gpus[i]?).any (·.uuid.valid) then (.mismatch, ⟨.notFound, false⟩)
          else (.fallback, fallback)
        | _ => (.fallback, fallback)

end GreenCurve.Gpu
