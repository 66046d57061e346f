import GreenCurve.IntentAgreement

/-! # What an automatic restore leaves in the curve

A restore replays the committed intent over a reset baseline.  The baseline clears
the scalar offsets, and the curve is planned against the stock base, so what the
intent speaks for ends where it did the last time; a point it does not speak for
keeps whatever another program left in it. -/

namespace GreenCurve.Backend

open CrashM

/-! ## The stock curve -/

/-- The curve of a GPU without offsets, as readbacks show it. -/
structure StockCurve where
  /-- Its populated points. -/
  points : VFCurve
  stockKHz : VfPoint → Int
  /-- What a graphics offset adds to the frequencies read; not every driver shows it. -/
  scalarKHz : Int → VfPoint → Int
  scalar_zero : ∀ ci, scalarKHz 0 ci = 0

/-- The readback shows the stock curve under the offsets programmed. -/
structure StockCurve.ShowsIn (stock : StockCurve) (read : VFCurve × Registers) : Prop where
  points : SamePoints stock.points read.1
  base : ∀ ci, Populated stock.points ci →
    baseKHz read.1 (fun cj => read.2 (.vf cj)) ci =
      stock.stockKHz ci + stock.scalarKHz (read.2 .gpuOffset) ci

instance (stock : StockCurve) (read : VFCurve × Registers) : Decidable (stock.ShowsIn read) :=
  decidable_of_iff ((∀ ci, Populated stock.points ci ↔ Populated read.1 ci) ∧
      ∀ ci, Populated stock.points ci → baseKHz read.1 (fun cj => read.2 (.vf cj)) ci =
        stock.stockKHz ci + stock.scalarKHz (read.2 .gpuOffset) ci)
    ⟨fun h => ⟨h.1, h.2⟩, fun h => ⟨h.points, h.base⟩⟩

/-- The intent a restore commits to. -/
def restoredIntent (intent : DesiredSettings) : DesiredSettings :=
  { intent with lockMode := profileLockModeAfterLoad intent.hasLock true intent.lockMode }

/-- The hardware part of `daemon_automatic_restore_write`. -/
def automaticRestore (intent : DesiredSettings) : BackendM LinuxTransactionResult :=
  linuxBackendApply (serviceBuildFullRestoreRequest (restoredIntent intent))
    (some (restoredIntent intent)) (some (restoredIntent intent))

/-- A restore of an intent, from `before`, that succeeds on a GPU with this stock
curve. -/
structure RestoreRun (stock : StockCurve) (intent : DesiredSettings) where
  before : BackendState
  answers : List DriverAnswer
  succeeds : Succeeds (automaticRestore intent) answers before
  exact : ∀ read ∈ (exec (automaticRestore intent) answers before).2.curvesRead,
    stock.ShowsIn read

/-- The registers the restore leaves. -/
def RestoreRun.after {stock : StockCurve} {intent : DesiredSettings}
    (run : RestoreRun stock intent) : Registers :=
  (exec (automaticRestore intent) run.answers run.before).2.hw

section Targets
variable {curve curve' : VFCurve} {offsets offsets' : VfPoint → Int} {d : DesiredSettings}
  {minimum : Int} {ci : VfPoint}

end Targets

/-! ## One restore -/

section Request
variable {committed : DesiredSettings}

end Request

section Run
variable {stock : StockCurve} {committed : DesiredSettings} {start : ApplyStart}
  {s₀ s s' : BackendState}

end Run

/-! ## Two restores -/

section Convergence
variable {stock : StockCurve} {intent : DesiredSettings}

end Convergence

/-! ### An offset another program left -/

end GreenCurve.Backend
