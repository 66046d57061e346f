import GreenCurve.StructLayout
import Mathlib.Data.List.FinRange

/-! # Writing the offsets of VF points

The driver keeps the offsets of all points in one control table.  A write takes the table as
it was last read, changes the entries of the points that are not at their target, selects
these points in the mask of the table and hands it back.  What the driver made of it is read
again, up to six times, and the points that are still away go into the next pass.

The layout of the table is the backend's, and its offsets are computed in 32 bits.  The driver
answers anything.  A log keeps every table that was accepted and every table that was handed
back, the newest first.  An allocation that fails is a read that fails, and the flag for the
log line of a refused point is left out, as are null pointers. -/

namespace GreenCurve.VfWrite

abbrev vfNumPoints : Nat := 128

/-- `LB_CONTROL_BUF_SIZE`. -/
abbrev lbControlBufSize : Nat := 0x4000

/-- `VfBackendSpec`, as far as the control table goes. -/
structure VfBackendSpec where
  readSupported : Bool
  writeSupported : Bool
  controlBufferSize : UInt32
  controlVersion : UInt32
  controlMaskOffset : UInt32
  controlEntryBaseOffset : UInt32
  controlEntryStride : UInt32
  controlEntryDeltaOffset : UInt32
  graphicsFrequencyScale : UInt32

/-- The bytes of a control table. -/
abbrev Table := Nat → UInt8

def Table.zero : Table := fun _ => 0

/-- `memcpy` into a table. -/
def Table.poke (table : Table) (offset : Nat) (bytes : Bytes) : Table := fun k =>
  if offset ≤ k ∧ k < offset + bytes.length then bytes.getD (k - offset) 0 else table k

/-- `memcpy` of a word out of a table. -/
def Table.word (table : Table) (offset : Nat) : UInt32 :=
  readLe32 ((List.range 4).map fun k => table (offset + k))

/-- A bit of a mask of points. -/
def maskBit (mask : Nat → UInt8) (i : Nat) : Bool := (mask (i / 8)).toNat.testBit (i % 8)

/-- `mask[i / 8] |= 1u << (i % 8)`. -/
def setMaskBit (mask : Nat → UInt8) (i : Nat) : Nat → UInt8 :=
  Function.update mask (i / 8) (UInt8.ofNat ((mask (i / 8)).toNat ||| 2 ^ (i % 8)))

/-- `LinuxGpuState`, as far as a write reads it. -/
structure LinuxGpuState where
  curveFreqKHz : Fin vfNumPoints → UInt32
  vfMask : Nat → UInt8
  vfInfoFresh : Bool
  curveOffsetRangeKnown : Bool
  curveOffsetMinKHz : Int32
  curveOffsetMaxKHz : Int32
  gpuOffsetMinMHz : Int32
  gpuOffsetMaxMHz : Int32

/-! ## Units, range and refusals -/

def vfGraphicsFrequencyScale (b : VfBackendSpec) : Nat :=
  if b.graphicsFrequencyScale ≠ 0 then b.graphicsFrequencyScale.toNat else 1

def vfGraphicsOffsetKHz (b : VfBackendSpec) (raw : Int32) : Int :=
  raw.toInt.tdiv (vfGraphicsFrequencyScale b)

def vfGraphicsOffsetDriverUnits (b : VfBackendSpec) (physicalKHz : Int) : Option Int32 :=
  let value := physicalKHz * vfGraphicsFrequencyScale b
  if value < Int32.minValue.toInt ∨ Int32.maxValue.toInt < value then none
  else some (Int32.ofInt value)

/-- The lower and the upper end of `curve_offset_range_khz`. -/
def curveOffsetRangeKHz (g : LinuxGpuState) : Int × Int :=
  if g.curveOffsetRangeKnown ∧ g.curveOffsetMinKHz ≤ g.curveOffsetMaxKHz then
    (g.curveOffsetMinKHz.toInt, g.curveOffsetMaxKHz.toInt)
  else if g.gpuOffsetMinMHz ≤ g.gpuOffsetMaxMHz ∧
      (g.gpuOffsetMinMHz ≠ 0 ∨ g.gpuOffsetMaxMHz ≠ 0) then
    (g.gpuOffsetMinMHz.toInt * 1000, g.gpuOffsetMaxMHz.toInt * 1000)
  else (-1000000, 1000000)

def clampFreqDeltaKHz (g : LinuxGpuState) (freqDeltaKHz : Int) : Int :=
  let range := curveOffsetRangeKHz g
  if freqDeltaKHz > range.2 then range.2
  else if freqDeltaKHz < range.1 then range.1
  else freqDeltaKHz

/-- `vf_offset_zero_readback_is_benign`: an idle placeholder that the driver pins at zero. -/
def vfOffsetZeroReadbackIsBenign (target actual : Int) (liveKHz operatingMinKHz : Nat) : Bool :=
  decide (target > 0) && decide (actual = 0) && decide (liveKHz > 0) &&
    decide (liveKHz < operatingMinKHz)

/-! ## The control table -/

/-- Where the offset of a point is, in 32 bits. -/
def entryOffset (b : VfBackendSpec) (i : Fin vfNumPoints) : UInt32 :=
  b.controlEntryBaseOffset + UInt32.ofNat i * b.controlEntryStride + b.controlEntryDeltaOffset

/-- The offset of a point is within the table. -/
def EntryInside (b : VfBackendSpec) (i : Fin vfNumPoints) : Prop :=
  (entryOffset b i).toNat + 4 ≤ b.controlBufferSize.toNat

instance (b : VfBackendSpec) (i : Fin vfNumPoints) : Decidable (EntryInside b i) :=
  inferInstanceAs (Decidable (_ ≤ _))

/-- The offset of a point in a table, in kHz. -/
def entryKHz (b : VfBackendSpec) (table : Table) (i : Fin vfNumPoints) : Int :=
  vfGraphicsOffsetKHz b (table.word (entryOffset b i).toNat).toInt32

/-- `linux_vf_returned_version_valid`. -/
def returnedVersionValid (returnedVersion expectedStructVersion expectedBufferSize : UInt32) :
    Bool :=
  decide (returnedVersion &&& 0xFFFF = expectedBufferSize) &&
    decide (returnedVersion >>> 16 = expectedStructVersion)

/-- The driver's control calls: the state it is in is its own affair. -/
structure Driver (σ : Type) where
  hasGetControl : Bool
  hasSetControl : Bool
  getControl : Table → σ → Int32 × Table × σ
  setControl : Table → σ → Int32 × σ

/-- A table that was accepted, or one that was handed back. -/
inductive Event where
  | read (table : Table)
  | set (table : Table)

/-- The driver, and what it was asked so far. -/
structure Run (σ : Type) where
  state : σ
  log : List Event := []

variable {σ : Type}

/-- The layout checks of `nvapi_read_control_table`. -/
def controlLayoutFits (b : VfBackendSpec) (bufSize : Nat) : Bool :=
  decide (b.controlBufferSize.toNat ≤ bufSize) && decide (b.controlBufferSize ≠ 0) &&
    decide (b.controlBufferSize.toNat ≤ 0x4000) &&
    decide (b.controlMaskOffset.toNat + 32 ≤ b.controlBufferSize.toNat) &&
    decide ((b.controlEntryBaseOffset + UInt32.ofNat (vfNumPoints - 1) * b.controlEntryStride
      + b.controlEntryDeltaOffset).toNat + 4 ≤ b.controlBufferSize.toNat)

/-- `nvapi_read_control_table`. -/
def nvapiReadControlTable (b : VfBackendSpec) (g : LinuxGpuState) (driver : Driver σ)
    (bufSize : Nat) (run : Run σ) : Option Table × Run σ :=
  if !controlLayoutFits b bufSize || !driver.hasGetControl || !g.vfInfoFresh then (none, run)
  else
    let version := (b.controlVersion <<< 16) ||| b.controlBufferSize
    let mask := (List.range 32).map g.vfMask
    let buf := (Table.zero.poke 0 (le32 version)).poke b.controlMaskOffset.toNat mask
    let (status, table, state) := driver.getControl buf run.state
    if status = 0 ∧ returnedVersionValid (table.word 0) b.controlVersion b.controlBufferSize ∧
        (List.range 32).map (fun k => table (b.controlMaskOffset.toNat + k)) = mask then
      (some table, { state := state, log := .read table :: run.log })
    else (none, { run with state := state })

/-- `nvapi_read_offsets`: the table it leaves the offsets of. -/
def nvapiReadOffsets (b : VfBackendSpec) (g : LinuxGpuState) (driver : Driver σ) (run : Run σ) :
    Option Table × Run σ :=
  if !b.readSupported || decide (b.controlBufferSize = 0) ||
      decide (b.controlBufferSize.toNat > 0x4000) then (none, run)
  else nvapiReadControlTable b g driver b.controlBufferSize.toNat run

/-- What it leaves of a point. -/
def freqOffsetKHz (b : VfBackendSpec) (table : Table) (i : Fin vfNumPoints) : Int :=
  if EntryInside b i then entryKHz b table i else vfGraphicsOffsetKHz b 0

/-- The reads after a write, until one succeeds. -/
def readOffsetsWithin (b : VfBackendSpec) (g : LinuxGpuState) (driver : Driver σ) :
    (tries : Nat) → Run σ → Option Table × Run σ
  | 0, run => (none, run)
  | tries + 1, run =>
    match nvapiReadOffsets b g driver run with
    | (some table, run) => (some table, run)
    | (none, run) => readOffsetsWithin b g driver tries run

/-! ## The passes -/

/-- A batch being put together. -/
structure Batch where
  pending : Fin vfNumPoints → Bool
  table : Table
  writeMask : Nat → UInt8 := fun _ => 0
  anyPendingWrite : Bool := false

/-- What the loop over the points ends with. -/
inductive Scan where
  | outside
  | unitsExceeded
  | batch (batch : Batch)

/-- The loop over the points. -/
def scanPoints (b : VfBackendSpec) (desiredKHz : Fin vfNumPoints → Int) :
    List (Fin vfNumPoints) → Batch → Scan
  | [], batch => .batch batch
  | i :: rest, batch =>
    if !batch.pending i then scanPoints b desiredKHz rest batch
    else if ¬EntryInside b i then .outside
    else if entryKHz b batch.table i = desiredKHz i then
      scanPoints b desiredKHz rest { batch with pending := Function.update batch.pending i false }
    else
      match vfGraphicsOffsetDriverUnits b (desiredKHz i) with
      | none => .unitsExceeded
      | some raw =>
        scanPoints b desiredKHz rest
          { batch with
            table := batch.table.poke (entryOffset b i).toNat (le32 raw.toUInt32)
            writeMask := setMaskBit batch.writeMask i
            anyPendingWrite := true }

/-- The point was asked for, is populated and in the mask of the driver. -/
def requested (g : LinuxGpuState) (pointMask : Fin vfNumPoints → Bool) (i : Fin vfNumPoints) :
    Bool :=
  pointMask i && decide (g.curveFreqKHz i ≠ 0) && maskBit g.vfMask i

/-- Where the readback of a write still leaves a point away. -/
def pendingAfter (b : VfBackendSpec) (g : LinuxGpuState) (req : Fin vfNumPoints → Bool)
    (desiredKHz : Fin vfNumPoints → Int) (table : Table) (i : Fin vfNumPoints) : Bool :=
  let freqOffset := freqOffsetKHz b table i
  req i && decide (freqOffset ≠ desiredKHz i) &&
    !vfOffsetZeroReadbackIsBenign (desiredKHz i) freqOffset (g.curveFreqKHz i).toNat (500 * 1000)

/-- The table a pass hands back. -/
def Batch.control (batch : Batch) (b : VfBackendSpec) : Table :=
  batch.table.poke b.controlMaskOffset.toNat ((List.range 32).map batch.writeMask)

/-- The passes from one of them on, over the table that was read last. -/
def runPasses (b : VfBackendSpec) (g : LinuxGpuState) (driver : Driver σ)
    (req : Fin vfNumPoints → Bool) (desiredKHz : Fin vfNumPoints → Int) :
    (remaining : Nat) → (pending : Fin vfNumPoints → Bool) → Table → Run σ → Bool × Run σ
  | 0, _, _, run => (false, run)
  | remaining + 1, pending, baseControl, run =>
    match scanPoints b desiredKHz (List.finRange vfNumPoints)
        { pending := pending, table := baseControl } with
    -- The loop clears its flag for a point outside of the table and leaves.
    | .outside => (true, run)
    | .unitsExceeded => (false, run)
    | .batch batch =>
      if !batch.anyPendingWrite then (true, run)
      else
        let (setRet, state) := driver.setControl (batch.control b) run.state
        let run := { state := state, log := .set (batch.control b) :: run.log }
        if setRet ≠ 0 then (false, run)
        else
          match readOffsetsWithin b g driver 6 run with
          | (none, run) => (false, run)
          | (some table, run) =>
            let pending := pendingAfter b g req desiredKHz table
            if ∀ i, pending i = false then (true, run)
            else
              match nvapiReadControlTable b g driver lbControlBufSize run with
              | (none, run) => (false, run)
              | (some baseControl, run) =>
                runPasses b g driver req desiredKHz remaining pending baseControl run

/-- `apply_curve_offsets_verified`. -/
def applyCurveOffsetsVerified (b : VfBackendSpec) (g : LinuxGpuState) (driver : Driver σ)
    (targetOffsets : Fin vfNumPoints → Int32) (pointMask : Fin vfNumPoints → Bool)
    (maxBatchPasses : Int) (state : σ) : Bool × Run σ :=
  let run := { state := state }
  if !b.writeSupported then (false, run)
  else
    let req := requested g pointMask
    let desiredKHz := fun i => clampFreqDeltaKHz g (targetOffsets i).toInt
    if ∀ i, req i = false then (true, run)
    else if !driver.hasSetControl then (false, run)
    else if b.controlBufferSize.toNat > lbControlBufSize then (false, run)
    else
      match nvapiReadControlTable b g driver lbControlBufSize run with
      | (none, run) => (false, run)
      | (some baseControl, run) =>
        runPasses b g driver req desiredKHz (max maxBatchPasses 1).toNat req baseControl run

end GreenCurve.VfWrite
