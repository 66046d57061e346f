import GreenCurve.RollbackLaw

/-! # Failed transactions

An apply and a reset reach the same rollback.  What they differ in is the ceiling
they began with: a reset notes none. -/

namespace GreenCurve.Backend

open CrashM

/-- A transaction that is ready to run. -/
structure Transaction where
  snapshot : LinuxHardwareSnapshot
  requested : LinuxMutationPhase → Bool
  step : LinuxMutationPhase → BackendM Bool
  /-- The registers a phase may write. -/
  mayWrite : LinuxMutationPhase → Register → Prop

namespace Transaction

def run (t : Transaction) : BackendM LinuxTransactionResult :=
  linuxExecuteTransaction t.requested t.step (linuxBackendRestoreSnapshot t.snapshot)

/-- The transaction up to its rollback. -/
def untilRollback (t : Transaction) : BackendM LinuxTransactionResult :=
  linuxExecuteTransaction t.requested t.step fun _ => pure true

end Transaction

/-- The registers a phase of a reset may write. -/
def resetOwns : LinuxMutationPhase → Register → Prop
  | .gpuOffset => (· = .gpuOffset)
  | .memOffset => (· = .memOffset)
  | .power => (· = .power)
  | .xbar => fun r => r = .xbar ∨ r = .msvdd
  | .sysClk => (· = .sysClk)
  | .videoClk => (· = .videoClk)
  | .curve => IsVf
  | .fan => IsFan
  | _ => fun _ => False

/-- Of the fans, those the board has. -/
def OnBoard (gpu : LinuxGpuState) (r : Register) : Prop :=
  ∀ index, r = .fan index → index < gpu.fanCount

def ApplyStart.transaction (start : ApplyStart) (gpu : LinuxGpuState) : Transaction where
  snapshot := start.snapshot
  requested := start.requested
  step := linuxApplyTransactionStep start.context
  mayWrite phase r := phaseOwns start.context phase r ∧ OnBoard gpu r

def resetOf (snapshot : LinuxHardwareSnapshot) (gpu : LinuxGpuState) : Transaction where
  snapshot := snapshot
  requested := linuxResetPhases snapshot.availableMutationDomains
  step := linuxResetTransactionStep
  mayWrite phase r := resetOwns phase r ∧ OnBoard gpu r

/-- The transactions of `linux_backend_apply` and `linux_backend_reset`, with the
state they begin in. -/
inductive Begins (s₀ : BackendState) : Transaction → BackendState → Prop
  | apply {d : DesiredSettings} {previous committed : Option DesiredSettings}
      {answers rest : List DriverAnswer} {start : ApplyStart} {s : BackendState}
      (h : startApply d previous committed answers s₀ = (some (some start, rest), s)) :
      Begins s₀ (start.transaction s.gpu) s
  | reset {answers rest : List DriverAnswer} {snapshot : LinuxHardwareSnapshot} {s : BackendState}
      (h : enterReset answers s₀ = (some (some snapshot, rest), s)) :
      Begins s₀ (resetOf snapshot s.gpu) s

theorem applyTransaction_eq (start : ApplyStart) (gpu : LinuxGpuState) :
    applyTransaction start = (start.transaction gpu).run := rfl

theorem resetTransaction_eq (snapshot : LinuxHardwareSnapshot) (gpu : LinuxGpuState) :
    resetTransaction snapshot = (resetOf snapshot gpu).run := rfl

/-! ## What was captured -/

/-- What the snapshot holds of a register; the memory offset is in display MHz. -/
def snapshotValue (snapshot : LinuxHardwareSnapshot) : Register → Option Int
  | .gpuOffset => snapshot.gpuOffsetMHz
  | .memOffset => snapshot.memOffsetMHz
  | .power => snapshot.powerLimitmW
  | .vf ci => snapshot.curve.map fun curve => curve.1 ci
  | .xbar => snapshot.xbar.map Prod.fst
  | .msvdd => snapshot.xbar.map Prod.snd
  | .sysClk => snapshot.sysClkOffsetKhz
  | .videoClk => snapshot.videoClkOffsetKhz
  | .fan index => snapshot.fans.bind fun fans => fans[index]?

/-- A register in the snapshot's unit. -/
def inSnapshotUnit (r : Register) (value : Int) : Int :=
  if r = .memOffset then memDisplayMHz value else value

/-- A captured value in the register's unit. -/
def inRegisterUnit (r : Register) (value : Int) : Int :=
  if r = .memOffset then memEffectiveMHz value else value

/-- An attempted phase may have written the register. -/
def Transaction.Touched (t : Transaction) (attempted : List LinuxMutationPhase) (r : Register) :
    Prop := ∃ phase ∈ attempted, t.mayWrite phase r

/-- Every register an attempted phase may have written holds its captured value. -/
def Transaction.Restored (t : Transaction) (attempted : List LinuxMutationPhase)
    (hw : Registers) : Prop :=
  ∀ r, t.Touched attempted r → snapshotValue t.snapshot r = some (inSnapshotUnit r (hw r))

/-- The captured offsets of the points a restoring curve write writes are offsets the
driver takes. -/
def CurveInRange (gpu : LinuxGpuState) (snapshot : LinuxHardwareSnapshot) : Prop :=
  ∀ curve, snapshot.curve = some curve → ∀ ci, WritesPoint gpu curve.2 ci →
    gpu.curveOffsetRange.minKHz ≤ curve.1 ci ∧ curve.1 ci ≤ gpu.curveOffsetRange.maxKHz

/-- The rollback from `s` can restore the attempted phases: it may write, and what it
has captured is all it needs; or nothing was changed. -/
def Transaction.Recoverable (t : Transaction) (attempted : List LinuxMutationPhase)
    (s : BackendState) : Prop :=
  if restorePermitted s attempted then
    (∀ r, t.Touched attempted r → (snapshotValue t.snapshot r).isSome = true) ∧
      (.curve ∈ attempted → CurveInRange s.gpu t.snapshot)
  else t.Restored attempted s.hw

/-! ## Up to the rollback -/

/-- Before the rollback, of the curve only points were written that were there when
the transaction began and still are. -/
structure Kept (s s' : BackendState) : Prop where
  board : s'.gpu.board = { s.gpu.board with
    retainedTransitionCeilingMHz := s'.gpu.retainedTransitionCeilingMHz }
  vf : ∀ ci, s'.hw (.vf ci) ≠ s.hw (.vf ci) →
    Populated s.gpu.curve ci ∧ Populated s'.gpu.curve ci ∧ s.gpu.vfMask ci = true

/-- What a transaction brings from its preflight. -/
structure Prepared (t : Transaction) (s : BackendState) : Prop where
  /-- A captured value of a register that a phase may write can be written back. -/
  writable : ∀ phase r value, t.requested phase = true → t.mayWrite phase r → ¬ IsVf r →
    snapshotValue t.snapshot r = some value → ∀ gpu attempted,
      gpu.board = { s.gpu.board with
        retainedTransitionCeilingMHz := gpu.retainedTransitionCeilingMHz } →
      phase ∈ attempted →
      restoreTarget gpu t.snapshot attempted r = some (inRegisterUnit r value)
  curveWritable : t.requested .curve = true → s.gpu.writeSupported = true
  curve : ∀ curve, t.snapshot.curve = some curve →
    curve = (programmedOffsets s, fun ci => decide (Populated s.gpu.curve ci))
  memOffset : ∀ value, t.snapshot.memOffsetMHz = some value →
    value = memDisplayMHz (s.hw .memOffset)
  touchesCurve : ∀ phase ci, t.mayWrite phase (.vf ci) ↔ phase = .curve
  otherStep : ∀ phase, phase ≠ .curve → ∀ x, Ensures (t.step phase)
    (fun _ x' => Drove (fun r => ¬ IsVf r) x x') (fun _ => True) x
  curveStep : t.requested .curve = true → ∀ x, x.gpu.board = { s.gpu.board with
      retainedTransitionCeilingMHz := x.gpu.retainedTransitionCeilingMHz } →
    x.gpu.curve = s.gpu.curve → (∀ ci, x.hw (.vf ci) = s.hw (.vf ci)) →
    Ensures (t.step .curve) (fun _ => Kept s) (fun _ => True) x

section Units

theorem memDisplayMHz_effective {hw : Int} (h : -2147483648 ≤ hw ∧ hw ≤ 2147483647) :
    memDisplayMHz (memEffectiveMHz (memDisplayMHz hw)) = memDisplayMHz hw := by
  have hbound : -2147483648 ≤ hw.tdiv 2 * 2 ∧ hw.tdiv 2 * 2 ≤ 2147483647 := by
    have hsign : Int.sign 2 = 1 := rfl
    rw [Int.tdiv_eq_ediv, hsign]
    split <;> omega
  have hsaturate : saturateInt (hw.tdiv 2 * 2) = hw.tdiv 2 * 2 := by
    unfold saturateInt
    omega
  unfold memDisplayMHz memEffectiveMHz
  rw [hsaturate, Int.mul_tdiv_cancel _ (by decide)]

theorem clampFreqDeltaKHz_eq_self {range : CurveOffsetRange} {offset : Int} :
    clampFreqDeltaKHz range offset = offset ↔ range.minKHz ≤ offset ∧ offset ≤ range.maxKHz := by
  have := range.zero_mem
  unfold clampFreqDeltaKHz
  split
  · omega
  · split <;> omega

end Units

section Rollback
variable {t : Transaction} {s f : BackendState} {attempted : List LinuxMutationPhase}

theorem inSnapshotUnit_inRegisterUnit {r : Register} {value : Int} (hprepared : Prepared t s)
    (hint : -2147483648 ≤ s.hw .memOffset ∧ s.hw .memOffset ≤ 2147483647)
    (hvalue : snapshotValue t.snapshot r = some value) :
    inSnapshotUnit r (inRegisterUnit r value) = value := by
  unfold inSnapshotUnit inRegisterUnit
  by_cases hmem : r = .memOffset
  · subst hmem
    rw [if_pos rfl, if_pos rfl, hprepared.memOffset value hvalue]
    exact memDisplayMHz_effective hint
  · rw [if_neg hmem, if_neg hmem]

/-- A point that the restoring write leaves out was not written. -/
theorem Kept.vf_eq (hkept : Kept s f) {ci : VfPoint}
    (hfree : ¬ WritesPoint f.gpu (fun cj => decide (Populated s.gpu.curve cj)) ci) :
    f.hw (.vf ci) = s.hw (.vf ci) := by
  by_contra hwritten
  obtain ⟨hpop, hpop', hmask⟩ := hkept.vf ci hwritten
  have hmask' : f.gpu.vfMask = s.gpu.vfMask := (congrArg LinuxGpuState.vfMask hkept.board :)
  exact hfree ⟨by simpa using hpop, hpop', by rw [hmask']; exact hmask⟩

/-- The rollback of a point that a curve phase may have written. -/
theorem restoreTarget_vf {curve : (VfPoint → Int) × (VfPoint → Bool)} {ci : VfPoint}
    (hprepared : Prepared t s) (hkept : Kept s f) (hcurve : t.requested .curve = true)
    (hmem : .curve ∈ attempted) (hcaptured : t.snapshot.curve = some curve) :
    restoreTarget f.gpu t.snapshot attempted (.vf ci) =
      if WritesPoint f.gpu curve.2 ci then
        some (clampFreqDeltaKHz f.gpu.curveOffsetRange (curve.1 ci))
      else none := by
  have hwritable : f.gpu.writeSupported = true :=
    (congrArg LinuxGpuState.writeSupported hkept.board :).trans (hprepared.curveWritable hcurve)
  simp [restoreTarget, hmem, hwritable, hcaptured, curveTarget]

/-- **The registers a rollback leaves** hold the captured values exactly when it could
restore. -/
theorem restored_rolledBack_iff (hprepared : Prepared t s) (hkept : Kept s f)
    (hattempted : ∀ phase ∈ attempted, t.requested phase = true)
    (hint : -2147483648 ≤ s.hw .memOffset ∧ s.hw .memOffset ≤ 2147483647) :
    t.Restored attempted (rolledBack f t.snapshot attempted) ↔ t.Recoverable attempted f := by
  unfold Transaction.Recoverable
  cases hpermitted : restorePermitted f attempted with
  | false =>
    have hleft : rolledBack f t.snapshot attempted = f.hw := by
      funext r
      rw [rolledBack, hpermitted]
      rfl
    rw [hleft]
    exact Iff.rfl
  | true =>
    have hrolled : ∀ r, rolledBack f t.snapshot attempted r =
        (restoreTarget f.gpu t.snapshot attempted r).getD (f.hw r) :=
      fun r => by rw [rolledBack, hpermitted]; rfl
    rw [if_pos rfl]
    constructor
    · intro hrestored
      refine ⟨fun r hr => by rw [hrestored r hr]; rfl, fun hmem curve hcaptured ci hwrites => ?_⟩
      have hr : t.Touched attempted (.vf ci) :=
        ⟨.curve, hmem, (hprepared.touchesCurve .curve ci).mpr rfl⟩
      have hvalue := hrestored _ hr
      rw [hrolled, restoreTarget_vf hprepared hkept (hattempted _ hmem) hmem hcaptured,
        if_pos hwrites] at hvalue
      simp only [snapshotValue, hcaptured, Option.map_some, inSnapshotUnit, reduceCtorEq, if_false,
        Option.getD_some, Option.some.injEq] at hvalue
      exact clampFreqDeltaKHz_eq_self.mp hvalue.symm
    · rintro ⟨hcaptured, hrange⟩ r hr
      obtain ⟨value, hvalue⟩ := Option.isSome_iff_exists.mp (hcaptured r hr)
      obtain ⟨phase, hmem, hmay⟩ := hr
      by_cases hvf : IsVf r
      · obtain ⟨ci, rfl⟩ := hvf
        obtain rfl := (hprepared.touchesCurve phase ci).mp hmay
        obtain ⟨curve, hcurve, rfl⟩ := Option.map_eq_some_iff.mp hvalue
        have hexact := hprepared.curve curve hcurve
        rw [hvalue, hrolled, restoreTarget_vf hprepared hkept (hattempted _ hmem) hmem hcurve]
        simp only [inSnapshotUnit, reduceCtorEq, if_false, Option.some.injEq]
        by_cases hwrites : WritesPoint f.gpu curve.2 ci
        · rw [if_pos hwrites]
          exact (clampFreqDeltaKHz_eq_self.mpr (hrange hmem curve hcurve ci hwrites)).symm
        · rw [if_neg hwrites]
          rw [hexact] at hwrites ⊢
          exact (hkept.vf_eq hwrites).symm
      · rw [hvalue, hrolled, hprepared.writable phase r value (hattempted _ hmem) hmay hvf hvalue
          f.gpu attempted hkept.board hmem, Option.getD_some,
          inSnapshotUnit_inRegisterUnit hprepared hint hvalue]

end Rollback

/-! ## The run of a failed transaction -/

section Run
variable {I : List LinuxMutationPhase → BackendState → Prop} {F : BackendState → Prop}
  {step : LinuxMutationPhase → BackendM Bool} {rollback : List LinuxMutationPhase → BackendM Bool}

/-- What follows a phase. -/
def afterPhase (step : LinuxMutationPhase → BackendM Bool)
    (rollback : List LinuxMutationPhase → BackendM Bool) (rest : List LinuxMutationPhase)
    (result : LinuxTransactionResult) (phase : LinuxMutationPhase) (ok : Bool) :
    BackendM LinuxTransactionResult :=
  let attempted := result.attemptedPhases ++ [phase]
  if !ok then do
    logEvent .rollingBack
    let rolledBack ← rollback attempted
    return { result with
      anyWrite := true
      attemptedPhases := attempted
      failedPhases := [phase]
      rollbackAttempted := true
      rollbackSucceeded := rolledBack }
  else
  runPhases step rollback rest
    { result with
      anyWrite := true
      attemptedPhases := attempted
      completedPhases := result.completedPhases ++ [phase] }

/-- A run of the phases, from the first one on. -/
theorem runPhases_cons (phase : LinuxMutationPhase) (rest : List LinuxMutationPhase)
    (result : LinuxTransactionResult) (answers : List DriverAnswer) (s : BackendState) :
    runPhases step rollback (phase :: rest) result answers s =
      (step phase >>= afterPhase step rollback rest result phase) answers
        (s.log (.began phase)) := rfl

/-- The phases run on where a phase has returned. -/
theorem runPhases_of_step {phase : LinuxMutationPhase} {rest : List LinuxMutationPhase}
    {result : LinuxTransactionResult} {answers rest₁ : List DriverAnswer} {s x : BackendState}
    {ok : Bool} (hx : step phase answers (s.log (.began phase)) = (some (ok, rest₁), x)) :
    runPhases step rollback (phase :: rest) result answers s =
      afterPhase step rollback rest result phase ok rest₁ x := by
  rw [runPhases_cons]
  rcases run_bind (step phase) (afterPhase step rollback rest result phase) answers
    (s.log (.began phase)) with ⟨x', hx', -⟩ | ⟨ok', rest', x', hx', hgo⟩
  · cases hx.symm.trans hx'
  · cases hx.symm.trans hx'
    exact hgo

/-- A run that fails stops in a phase, and rolls back from there. -/
theorem runPhases_failed
    (hstep : ∀ phase rest s, I (phase :: rest) s →
      Ensures (step phase) (fun ok s' => if ok = true then I rest s' else F s') (fun _ => True)
        (s.log (.began phase)))
    {phases : List LinuxMutationPhase} {result result' : LinuxTransactionResult}
    {answers rest' : List DriverAnswer} {s s' : BackendState} (hs : I phases s)
    (hfresh : result.rollbackAttempted = false)
    (hrun : runPhases step rollback phases result answers s = (some (result', rest'), s'))
    (hfailed : result'.rollbackAttempted = true) :
    ∃ f rest ok, F f ∧
      (runPhases step (fun _ => pure true) phases result answers s).2 = f.log .rollingBack ∧
      rollback result'.attemptedPhases rest (f.log .rollingBack) = (some (ok, rest'), s') ∧
      ∀ phase ∈ result'.attemptedPhases, phase ∈ result.attemptedPhases ∨ phase ∈ phases := by
  induction phases generalizing result answers s with
  | nil =>
    obtain ⟨rfl, -⟩ : { result with success := true } = result' ∧ _ := by
      injection hrun with hvalue hstate
      injection hvalue with hvalue
      injection hvalue with hresult hrest
      exact ⟨hresult, hstate⟩
    rw [show ({ result with success := true } : LinuxTransactionResult).rollbackAttempted = false
      from hfresh] at hfailed
    cases hfailed
  | cons phase rest ih =>
    rcases run_bind (step phase) (afterPhase step rollback rest result phase) answers
      (s.log (.began phase)) with ⟨x, -, hdead⟩ | ⟨ok, rest₁, x, hx, hgo⟩
    · cases hrun.symm.trans hdead
    have hstate := (hstep phase rest s hs).of_run hx
    rw [runPhases_of_step hx] at hrun
    rw [runPhases_of_step hx]
    cases ok with
    | true =>
      have hnext : runPhases step rollback rest
          { result with
            anyWrite := true
            attemptedPhases := result.attemptedPhases ++ [phase]
            completedPhases := result.completedPhases ++ [phase] } rest₁ x =
          (some (result', rest'), s') := hrun
      obtain ⟨f, rest₂, ok, hf, huntil, hback, hattempted⟩ := ih hstate (by exact hfresh) hnext
      refine ⟨f, rest₂, ok, hf, huntil, hback, fun p hp => ?_⟩
      rcases hattempted p hp with hold | hrest
      · rcases List.mem_append.mp hold with hold | hnew
        · exact .inl hold
        · exact .inr (List.mem_singleton.mp hnew ▸ List.mem_cons_self)
      · exact .inr (List.mem_cons_of_mem _ hrest)
    | false =>
      rcases run_bind (rollback (result.attemptedPhases ++ [phase])) (fun rolledBack =>
          (return { result with
            anyWrite := true
            attemptedPhases := result.attemptedPhases ++ [phase]
            failedPhases := [phase]
            rollbackAttempted := true
            rollbackSucceeded := rolledBack } : BackendM LinuxTransactionResult))
          rest₁ (x.log .rollingBack) with ⟨y, -, hdead⟩ | ⟨rolledBack, rest₂, y, hback, hgo'⟩
      · cases hrun.symm.trans hdead
      · obtain ⟨rfl, rfl, rfl⟩ : _ ∧ rest₂ = rest' ∧ y = s' := by
          have hend := hgo'.symm.trans hrun
          injection hend with hvalue hstate
          injection hvalue with hvalue
          injection hvalue with hresult hrest
          exact ⟨hresult, hrest, hstate⟩
        refine ⟨x, rest₁, rolledBack, hstate, rfl, hback, fun p hp => ?_⟩
        rcases List.mem_append.mp hp with hold | hnew
        · exact .inl hold
        · exact .inr (List.mem_singleton.mp hnew ▸ List.mem_cons_self)

end Run

/-! ## What a preflight guarantees -/

section Preflight
variable {snapshot : LinuxHardwareSnapshot} {s s₀ : BackendState} {d : DesiredSettings}
  {previous committed : Option DesiredSettings} {start : ApplyStart}

/-- The interface that writes a domain back. -/
def domainWritable (gpu : LinuxGpuState) : ServiceMutationDomain → Bool
  | .power => gpu.setPowerLimit
  | .fan => gpu.setFanSpeed && gpu.fanAutoWritable
  | .xbar => gpu.xbarWritable
  | .sysClk => gpu.xbarWritable
  | .videoClk => gpu.xbarWritable
  | _ => true

theorem domainWritable_of_available (h : Captured snapshot s) {domain : ServiceMutationDomain}
    (havailable : snapshot.availableMutationDomains domain = true) :
    domainWritable s.gpu domain = true := by
  obtain ⟨reads, rfl, -⟩ := h.values
  simp only [captureSnapshot, availableDomains, Bool.and_eq_true] at havailable
  cases domain <;> simp_all [domainWritable]

theorem available_of_preflight (h : linuxBackendPreflight s d snapshot = true)
    {domain : ServiceMutationDomain} (hdomain : serviceDesiredMutationDomains d domain = true)
    (hinert : linuxPowerRequestIsInert s.gpu d snapshot = false ∨ domain ≠ .power) :
    snapshot.availableMutationDomains domain = true := by
  by_contra hnot
  have hunavailable := Bool.eq_false_iff.mpr hnot
  have hmem : domain ∈ allMutationDomains := by cases domain <;> decide
  have hany : (allMutationDomains.any fun domain =>
      (serviceDesiredMutationDomains d domain && !snapshot.availableMutationDomains domain) &&
        !(linuxPowerRequestIsInert s.gpu d snapshot && decide (domain = .power))) = true := by
    refine List.any_eq_true.mpr ⟨domain, hmem, ?_⟩
    rcases hinert with hinert | hne
    · simp [hdomain, hunavailable, hinert]
    · simp [hdomain, hunavailable, hne]
  simp only [linuxBackendPreflight, hany, if_true] at h
  split at h <;> cases h

theorem Captured.curve_eq (h : Captured snapshot s) {curve : (VfPoint → Int) × (VfPoint → Bool)}
    (hcurve : snapshot.curve = some curve) :
    curve = (programmedOffsets s, fun ci => decide (Populated s.gpu.curve ci)) := by
  obtain ⟨reads, hsnapshot, -⟩ := h.values
  have hvalue : snapshot.curve = if curveAuthoritative s.gpu then
      some (s.gpu.freqOffsets, fun ci => decide (Populated s.gpu.curve ci)) else none := by
    rw [hsnapshot]
    rfl
  rw [hcurve] at hvalue
  split at hvalue
  · rename_i hauthoritative
    simp only [curveAuthoritative, Bool.and_eq_true] at hauthoritative
    rw [← h.fresh hauthoritative.1.2]
    exact Option.some.inj hvalue
  · cases hvalue

theorem Captured.memOffset_eq (h : Captured snapshot s) {value : Int}
    (hvalue : snapshot.memOffsetMHz = some value) : value = memDisplayMHz (s.hw .memOffset) := by
  obtain ⟨reads, hsnapshot, -⟩ := h.values
  have hcaptured : snapshot.memOffsetMHz =
      if reads.memOffset then some (memDisplayMHz (s.hw .memOffset)) else none := by
    rw [hsnapshot]
    rfl
  rw [hvalue] at hcaptured
  split at hcaptured
  · exact Option.some.inj hcaptured
  · cases hcaptured

/-- A domain that can be written back can be where the board is the same. -/
theorem domainWritable_congr {gpu gpu' : LinuxGpuState} (h : gpu'.board = { gpu.board with
      retainedTransitionCeilingMHz := gpu'.retainedTransitionCeilingMHz })
    (domain : ServiceMutationDomain) : domainWritable gpu' domain = domainWritable gpu domain := by
  have hxbar : gpu'.xbarWritable = gpu.xbarWritable := (congrArg LinuxGpuState.xbarWritable h :)
  have hpower : gpu'.setPowerLimit = gpu.setPowerLimit := (congrArg LinuxGpuState.setPowerLimit h :)
  have hauto : gpu'.fanAutoWritable = gpu.fanAutoWritable :=
    (congrArg LinuxGpuState.fanAutoWritable h :)
  have hspeed : gpu'.setFanSpeed = gpu.setFanSpeed := (congrArg LinuxGpuState.setFanSpeed h :)
  cases domain <;> simp only [domainWritable, hxbar, hpower, hauto, hspeed]

/-- The domain a register is written back under. -/
def registerDomain : Register → ServiceMutationDomain
  | .xbar => .xbar
  | .msvdd => .xbar
  | .sysClk => .sysClk
  | .videoClk => .videoClk
  | .power => .power
  | .fan _ => .fan
  | .vf _ => .vfCurve
  | .gpuOffset => .gpuOffset
  | .memOffset => .memOffset

/-- The phase of its own that a register has. -/
def registerPhase : Register → LinuxMutationPhase
  | .xbar => .xbar
  | .msvdd => .xbar
  | .sysClk => .sysClk
  | .videoClk => .videoClk
  | .power => .power
  | .fan _ => .fan
  | .vf _ => .curve
  | .gpuOffset => .gpuOffset
  | .memOffset => .memOffset

/-- A captured value is written back where its phase, or a baseline that reset it, was
attempted. -/
theorem restoreTarget_captured {gpu : LinuxGpuState} {attempted : List LinuxMutationPhase}
    {r : Register} {value : Int} (hvf : ¬ IsVf r)
    (hvalue : snapshotValue snapshot r = some value)
    (hwritable : domainWritable gpu (registerDomain r) = true)
    (htouched : registerPhase r ∈ attempted ∨ (.resetBaseline ∈ attempted ∧
      r ≠ .power ∧ ¬ IsFan r ∧ (r = .gpuOffset ∨ r = .memOffset ∨
        snapshot.availableMutationDomains (registerDomain r) = true))) :
    restoreTarget gpu snapshot attempted r = some (inRegisterUnit r value) := by
  cases r with
  | vf ci => exact absurd ⟨ci, rfl⟩ hvf
  | gpuOffset =>
    have hmem : .resetBaseline ∈ attempted ∨ .gpuOffset ∈ attempted := by
      rcases htouched with hphase | ⟨hreset, -⟩
      · exact .inr hphase
      · exact .inl hreset
    simpa [restoreTarget, hmem, inRegisterUnit, snapshotValue] using hvalue
  | memOffset =>
    have hmem : .resetBaseline ∈ attempted ∨ .memOffset ∈ attempted := by
      rcases htouched with hphase | ⟨hreset, -⟩
      · exact .inr hphase
      · exact .inl hreset
    have hcaptured : snapshot.memOffsetMHz = some value := hvalue
    simp [restoreTarget, hmem, inRegisterUnit, hcaptured]
  | power =>
    have hmem : .power ∈ attempted := by
      rcases htouched with hphase | ⟨-, hpower, -⟩
      · exact hphase
      · exact absurd rfl hpower
    have hset : gpu.setPowerLimit = true := hwritable
    simpa [restoreTarget, hmem, hset, inRegisterUnit, snapshotValue] using hvalue
  | fan index =>
    have hmem : .fan ∈ attempted := by
      rcases htouched with hphase | ⟨-, -, hfan, -⟩
      · exact hphase
      · exact absurd ⟨index, rfl⟩ hfan
    simp only [domainWritable, registerDomain, Bool.and_eq_true] at hwritable
    obtain ⟨fans, hfans, hindex⟩ := Option.bind_eq_some_iff.mp hvalue
    simp [restoreTarget, hmem, hfans, hindex, hwritable, inRegisterUnit]
  | _ =>
    have hset : gpu.xbarWritable = true := hwritable
    simp only [registerPhase, registerDomain, IsFan, reduceCtorEq, exists_false, ne_eq,
      not_false_eq_true, true_and, false_or] at htouched
    simpa [restoreTarget, restores, htouched.symm, hset, inRegisterUnit, snapshotValue]
      using hvalue

/-- How a phase comes to write a register that can be restored. -/
structure WrittenBy (snapshot : LinuxHardwareSnapshot) (phase : LinuxMutationPhase)
    (r : Register) : Prop where
  available : r = .gpuOffset ∨ r = .memOffset ∨
    snapshot.availableMutationDomains (registerDomain r) = true
  phase : registerPhase r = phase ∨ (phase = .resetBaseline ∧ r ≠ .power ∧ ¬ IsFan r)

theorem WrittenBy.restoreTarget_eq {phase : LinuxMutationPhase} {r : Register} {value : Int}
    {gpu : LinuxGpuState} {attempted : List LinuxMutationPhase}
    (h : WrittenBy snapshot phase r) (hcaptured : Captured snapshot s) (hvf : ¬ IsVf r)
    (hvalue : snapshotValue snapshot r = some value)
    (hboard : gpu.board = { s.gpu.board with
      retainedTransitionCeilingMHz := gpu.retainedTransitionCeilingMHz })
    (hmem : phase ∈ attempted) :
    restoreTarget gpu snapshot attempted r = some (inRegisterUnit r value) := by
  refine restoreTarget_captured hvf hvalue ?_ ?_
  · rw [domainWritable_congr hboard]
    rcases h.available with rfl | rfl | havailable
    · rfl
    · rfl
    · exact domainWritable_of_available hcaptured havailable
  · rcases h.phase with rfl | ⟨rfl, hpower, hfan⟩
    · exact .inl hmem
    · exact .inr ⟨hmem, hpower, hfan, h.available⟩

/-- The phases of an apply write what the request names. -/
theorem writtenBy_apply (hstarted : Started d previous committed s₀ start s)
    {phase : LinuxMutationPhase} {r : Register} (hrequested : start.requested phase = true)
    (howns : phaseOwns start.context phase r) (hvf : ¬ IsVf r) :
    WrittenBy start.snapshot phase r := by
  obtain ⟨fanStart, hcontext⟩ := hstarted.context
  have havailable : ∀ {domain : ServiceMutationDomain},
      serviceDesiredMutationDomains d domain = true → domain ≠ .power →
        start.snapshot.availableMutationDomains domain = true :=
    fun hdomain hne => available_of_preflight hstarted.preflight hdomain (.inr hne)
  have hdesired : start.context.desired = d := by rw [hcontext]; rfl
  cases phase with
  | curve => exact absurd howns hvf
  | power =>
    obtain rfl : r = .power := howns
    rw [hcontext] at hrequested
    simp only [applyStart, requestedApplyPhases, Bool.and_eq_true, Bool.not_eq_true'] at hrequested
    exact ⟨.inr (.inr (available_of_preflight hstarted.preflight hrequested.1
      (.inl hrequested.2))), .inl rfl⟩
  | fan =>
    obtain ⟨index, rfl⟩ := howns
    rw [hcontext] at hrequested
    exact ⟨.inr (.inr (havailable hrequested (by simp [registerDomain]))), .inl rfl⟩
  | resetBaseline =>
    have hxbar : d.hasXbarOffsetKhz = true ∨ d.hasXbarMsvddOffsetUv = true →
        start.snapshot.availableMutationDomains .xbar = true := fun h =>
      havailable (by simpa [serviceDesiredMutationDomains] using h) (by simp)
    cases r with
    | gpuOffset => exact ⟨.inl rfl, .inr ⟨rfl, by simp, by simp [IsFan]⟩⟩
    | memOffset => exact ⟨.inr (.inl rfl), .inr ⟨rfl, by simp, by simp [IsFan]⟩⟩
    | xbar =>
      have hhas : d.hasXbarOffsetKhz = true := by
        simpa [phaseOwns, Named, phaseTarget, hdesired] using howns
      exact ⟨.inr (.inr (hxbar (.inl hhas))), .inr ⟨rfl, by simp, by simp [IsFan]⟩⟩
    | msvdd =>
      have hhas : d.hasXbarMsvddOffsetUv = true := by
        simpa [phaseOwns, Named, phaseTarget, hdesired] using howns
      exact ⟨.inr (.inr (hxbar (.inr hhas))), .inr ⟨rfl, by simp, by simp [IsFan]⟩⟩
    | sysClk =>
      have hhas : d.hasSysClkOffsetKhz = true := by
        simpa [phaseOwns, Named, phaseTarget, hdesired] using howns
      exact ⟨.inr (.inr (havailable hhas (by simp [registerDomain]))),
        .inr ⟨rfl, by simp, by simp [IsFan]⟩⟩
    | videoClk =>
      have hhas : d.hasVideoClkOffsetKhz = true := by
        simpa [phaseOwns, Named, phaseTarget, hdesired] using howns
      exact ⟨.inr (.inr (havailable hhas (by simp [registerDomain]))),
        .inr ⟨rfl, by simp, by simp [IsFan]⟩⟩
    | _ => simp [phaseOwns, Named, phaseTarget] at howns
  | gpuOffset =>
    cases r with
    | gpuOffset => exact ⟨.inl rfl, .inl rfl⟩
    | _ => simp [phaseOwns, Named, phaseTarget] at howns
  | memOffset =>
    cases r with
    | memOffset => exact ⟨.inr (.inl rfl), .inl rfl⟩
    | _ => simp [phaseOwns, Named, phaseTarget] at howns
  | xbar =>
    have hxbar : start.snapshot.availableMutationDomains .xbar = true := by
      rw [hcontext] at hrequested
      exact havailable hrequested (by simp)
    cases r with
    | xbar => exact ⟨.inr (.inr hxbar), .inl rfl⟩
    | msvdd => exact ⟨.inr (.inr hxbar), .inl rfl⟩
    | _ => simp [phaseOwns, Named, phaseTarget, xbarTarget] at howns
  | sysClk =>
    rw [hcontext] at hrequested
    cases r with
    | sysClk => exact ⟨.inr (.inr (havailable hrequested (by simp [registerDomain]))), .inl rfl⟩
    | _ => simp [phaseOwns, Named, phaseTarget] at howns
  | videoClk =>
    rw [hcontext] at hrequested
    cases r with
    | videoClk => exact ⟨.inr (.inr (havailable hrequested (by simp [registerDomain]))), .inl rfl⟩
    | _ => simp [phaseOwns, Named, phaseTarget] at howns
  | lockCeiling => cases r <;> simp [phaseOwns, Named, phaseTarget] at howns
  | lock => cases r <;> simp [phaseOwns, Named, phaseTarget] at howns

/-- The phases of a reset write their own registers. -/
theorem writtenBy_reset
    (hsupported : linuxResetPreflightDomainsSupported snapshot.availableMutationDomains
      s.gpu.powerLimitDefaultmW = true)
    {phase : LinuxMutationPhase} {r : Register}
    (hrequested : linuxResetPhases snapshot.availableMutationDomains phase = true)
    (howns : resetOwns phase r) (hvf : ¬ IsVf r) : WrittenBy snapshot phase r := by
  have hfan : snapshot.availableMutationDomains .fan = true := by
    simp only [linuxResetPreflightDomainsSupported, Bool.and_eq_true, List.all_eq_true] at hsupported
    exact hsupported.1 .fan (by simp)
  cases phase with
  | curve => exact absurd howns hvf
  | gpuOffset => exact ⟨.inl howns, by obtain rfl : r = .gpuOffset := howns; exact .inl rfl⟩
  | memOffset => exact ⟨.inr (.inl howns), by obtain rfl : r = .memOffset := howns; exact .inl rfl⟩
  | power =>
    obtain rfl : r = .power := howns
    exact ⟨.inr (.inr hrequested), .inl rfl⟩
  | xbar =>
    rcases howns with rfl | rfl
    · exact ⟨.inr (.inr hrequested), .inl rfl⟩
    · exact ⟨.inr (.inr hrequested), .inl rfl⟩
  | sysClk =>
    obtain rfl : r = .sysClk := howns
    exact ⟨.inr (.inr hrequested), .inl rfl⟩
  | videoClk =>
    obtain rfl : r = .videoClk := howns
    exact ⟨.inr (.inr hrequested), .inl rfl⟩
  | fan =>
    obtain ⟨index, rfl⟩ := howns
    exact ⟨.inr (.inr hfan), .inl rfl⟩
  | resetBaseline => cases howns
  | lockCeiling => cases howns
  | lock => cases howns

end Preflight

/-! ## The phases before the rollback -/

section Before
variable {s s₀ x x' : BackendState} {d : DesiredSettings}
  {previous committed : Option DesiredSettings} {start : ApplyStart}

/-- The state a curve phase begins in: the curve is as it was captured. -/
structure CurvePending (s x : BackendState) : Prop where
  board : x.gpu.board = { s.gpu.board with
    retainedTransitionCeilingMHz := x.gpu.retainedTransitionCeilingMHz }
  curve : x.gpu.curve = s.gpu.curve
  vf : ∀ ci, x.hw (.vf ci) = s.hw (.vf ci)

namespace CurvePending

theorem board_quiet (h : CurvePending s x) (hquiet : Quiet x x') :
    x'.gpu.board = { s.gpu.board with
      retainedTransitionCeilingMHz := x'.gpu.retainedTransitionCeilingMHz } := by
  have hretained : x'.gpu.retainedTransitionCeilingMHz = x.gpu.retainedTransitionCeilingMHz :=
    (congrArg LinuxGpuState.retainedTransitionCeilingMHz hquiet.board :)
  rw [hquiet.board, h.board, hretained]

theorem vfMask (h : CurvePending s x) : x.gpu.vfMask = s.gpu.vfMask :=
  (congrArg LinuxGpuState.vfMask h.board :)

/-- A curve write over `mask` keeps to the captured points. -/
theorem kept (h : CurvePending s x) {mid : BackendState} {offsets : VfPoint → Int}
    {mask : VfPoint → Bool} (hquiet : Quiet x x') (hmid : mid.hw = x.hw)
    (hmask : mid.gpu.vfMask = x.gpu.vfMask)
    (hframe : Frame (Named (curveTarget mid.gpu offsets mask)) mid x')
    (hpop : ∀ ci, mask ci = true → Populated s.gpu.curve ci) : Kept s x' where
  board := h.board_quiet hquiet
  vf := by
    intro ci hchanged
    have hnamed : Named (curveTarget mid.gpu offsets mask) (.vf ci) := by
      by_contra hfree
      exact hchanged (by rw [hframe.hw _ hfree, hmid, h.vf ci])
    obtain ⟨cj, hcj, hwrites⟩ := named_curveTarget.mp hnamed
    cases hcj
    refine ⟨hpop ci hwrites.1, ?_, ?_⟩
    · rw [hframe.curve]
      exact hwrites.2.1
    · rw [← h.vfMask, ← hmask]
      exact hwrites.2.2

/-- Without a write the curve is kept. -/
theorem kept_of_hw (h : CurvePending s x) (hquiet : Quiet x x') (hhw : x'.hw = x.hw) :
    Kept s x' where
  board := h.board_quiet hquiet
  vf := fun ci hchanged => absurd (by rw [hhw, h.vf ci]) hchanged

end CurvePending

/-- The points an apply plans to write are populated. -/
theorem planned_populated (hstarted : Started d previous committed s₀ start s) {ci : VfPoint}
    (h : start.context.planned.result.pointMask ci = true) : Populated s.gpu.curve ci := by
  obtain ⟨fanStart, hcontext⟩ := hstarted.context
  obtain ⟨intent, hbuild⟩ := linuxApplyBuildCurve_eq s.gpu d previous committed
  have hplanned : start.context.planned = .ofTargets s.gpu.curve intent
      (applyTarget s.gpu d previous committed) := by
    rw [hcontext]
    exact hbuild
  rw [hplanned] at h
  exact applyTarget_populated h

theorem ensures_curveKept (hstarted : Started d previous committed s₀ start s)
    (h : CurvePending s x) :
    Ensures (linuxApplyTransactionStep start.context .curve) (fun _ => Kept s) (fun _ => True)
      x := by
  refine ensures_writeCurve.mono (fun ok x' hx' => ?_) fun _ _ => trivial
  cases hx' with
  | refused rebuilt => exact h.kept_of_hw rebuilt.quiet rebuilt.hw_eq
  | wrote rebuilt frame holds =>
    have hquiet := rebuilt.quiet.trans frame.toQuiet
    refine h.kept hquiet rebuilt.hw_eq rebuilt.quiet.vfMask frame fun ci hci => ?_
    cases rebuilt with
    | kept => exact planned_populated hstarted hci
    | rebuilt curve _ _ keeps =>
      simp only [linuxCurveRebuildKeepsShape, Bool.and_eq_true, decide_eq_true_eq] at keeps
      exact planned_populated hstarted ((keeps.2 ci).1.trans hci)

theorem drives_resetLock :
    Drives (fun _ => False) (fun _ => none) (linuxResetTransactionStep .lock) := by
  intro s
  refine ensures_bind (ensures_get ?_)
  split
  · exact drives_handOver true s
  · split
    · exact drives_handOver false s
    · exact ensures_call (.refl s) fun a => (drives_handOver _ _).mono
        (fun _ _ hs => ⟨(drove_log s _).trans hs.1, hs.2⟩) fun _ hs => (drove_log s _).trans hs

/-- **A phase of a reset** drives its own registers. -/
theorem drives_resetPhase {phase : LinuxMutationPhase} (hcurve : phase ≠ .curve) :
    Drives (resetOwns phase) (fun _ => none) (linuxResetTransactionStep phase) := by
  have hweak : ∀ {owned : Register → Prop} {target : BackendState → Register → Option Int}
      {step : BackendM Bool}, Writes owned target step → Drives owned (fun _ => none) step :=
    fun h => h.weaken.drives
  cases phase with
  | curve => exact absurd rfl hcurve
  | gpuOffset => exact hweak (writes_graphicsOffset 0)
  | memOffset => exact hweak (writes_memoryOffset 0)
  | power =>
    intro s
    refine ensures_bind (ensures_get ?_)
    split
    · exact drives_pure false s
    · exact hweak (writes_setPowerLimit _) s
  | xbar =>
    refine (hweak (writes_xbarOwned 0 0 true true)).mono fun r hr => ?_
    show r = .xbar ∨ r = .msvdd
    simpa using hr
  | sysClk => exact hweak (writes_sysClk 0)
  | videoClk => exact hweak (writes_videoClk 0)
  | fan => exact hweak (writes_nvmlSetFan _)
  | lock => exact drives_resetLock
  | lockCeiling => exact drives_pure false
  | resetBaseline => exact drives_pure false

theorem resetOwns_vf_iff {phase : LinuxMutationPhase} {ci : VfPoint} :
    resetOwns phase (.vf ci) ↔ phase = .curve := by
  cases phase <;> simp [resetOwns, IsVf, IsFan]

theorem phaseOwns_vf_iff {context : LinuxApplyTransactionContext} {phase : LinuxMutationPhase}
    {ci : VfPoint} : phaseOwns context phase (.vf ci) ↔ phase = .curve := by
  constructor
  · intro howns
    by_contra hcurve
    exact not_phaseOwns_vf hcurve ci howns
  · rintro rfl
    exact ⟨ci, rfl⟩

theorem onBoard_vf (gpu : LinuxGpuState) (ci : VfPoint) : OnBoard gpu (.vf ci) := by
  intro index hindex
  cases hindex

/-- **An apply is prepared.** -/
theorem prepared_apply (hstarted : Started d previous committed s₀ start s) :
    Prepared (start.transaction s.gpu) s where
  writable := fun phase r value hrequested hmay hvf hvalue gpu attempted hboard hmem =>
    (writtenBy_apply hstarted hrequested hmay.1 hvf).restoreTarget_eq hstarted.captured hvf hvalue
      hboard hmem
  curveWritable := by
    intro hcurve
    have hpreflight := hstarted.preflight
    have hwrite : desiredHasCurveWrite d = true := vfCurve_of_requested hstarted hcurve
    by_contra hunsupported
    simp [linuxBackendPreflight, hwrite, hunsupported] at hpreflight
  curve := fun _ => hstarted.captured.curve_eq
  memOffset := fun _ => hstarted.captured.memOffset_eq
  touchesCurve := fun phase ci =>
    (and_iff_left (onBoard_vf s.gpu ci)).trans phaseOwns_vf_iff
  otherStep := fun phase hcurve x => (drives_phase hcurve x).mono (fun _ _ hs =>
    hs.1.mono fun r hr hvf => by
      obtain ⟨ci, rfl⟩ := hvf
      exact not_phaseOwns_vf hcurve ci hr) fun _ _ => trivial
  curveStep := fun _ x hboard hcurve hvf => ensures_curveKept hstarted ⟨hboard, hcurve, hvf⟩

/-- A reset that began from `s₀` is ready to run in `s`. -/
structure ResetStarted (s₀ : BackendState) (snapshot : LinuxHardwareSnapshot) (s : BackendState) :
    Prop where
  hw : s.hw = s₀.hw
  ceiling : s.ceiling = {}
  captured : Captured snapshot s
  writeSupported : s.gpu.writeSupported = true
  supported : linuxResetPreflightDomainsSupported snapshot.availableMutationDomains
    s.gpu.powerLimitDefaultmW = true

theorem ensures_enterReset :
    Ensures enterReset (fun entered s => ∀ snapshot, entered = some snapshot →
      ResetStarted s₀ snapshot s) (fun _ => True) s₀ := by
  refine ensures_bind (ensures_beginMutation.mono (fun captured s hs => ?_) fun _ _ => trivial)
  obtain ⟨huntouched, -, hceiling, hcaptured⟩ := hs
  cases captured with
  | none => exact ensures_pure (by simp)
  | some snapshot =>
    refine ensures_bind (ensures_get (ensures_pure ?_))
    intro entered hentered
    split at hentered
    · rename_i hsupported
      cases hentered
      simp only [Bool.and_eq_true] at hsupported
      exact ⟨huntouched.1, hceiling, hcaptured snapshot rfl, hsupported.1.2, hsupported.2⟩
    · cases hentered

/-- **A reset is prepared.** -/
theorem prepared_reset {snapshot : LinuxHardwareSnapshot} (hstarted : ResetStarted s₀ snapshot s) :
    Prepared (resetOf snapshot s.gpu) s where
  writable := fun phase r value hrequested hmay hvf hvalue gpu attempted hboard hmem =>
    (writtenBy_reset hstarted.supported hrequested hmay.1 hvf).restoreTarget_eq hstarted.captured
      hvf hvalue hboard hmem
  curveWritable := fun _ => hstarted.writeSupported
  curve := fun _ => hstarted.captured.curve_eq
  memOffset := fun _ => hstarted.captured.memOffset_eq
  touchesCurve := fun phase ci =>
    (and_iff_left (onBoard_vf s.gpu ci)).trans resetOwns_vf_iff
  otherStep := fun phase hcurve x => (drives_resetPhase hcurve x).mono (fun _ _ hs =>
    hs.1.mono fun r hr hvf => by
      obtain ⟨ci, rfl⟩ := hvf
      exact hcurve (resetOwns_vf_iff.mp hr)) fun _ _ => trivial
  curveStep := by
    intro _ x hboard hcurve hvf
    have hpending : CurvePending s x := ⟨hboard, hcurve, hvf⟩
    refine ensures_bind (ensures_get ?_)
    refine (ensures_curveOffsets _ _).mono (fun ok x' hx' => ?_) fun _ _ => trivial
    refine hpending.kept hx'.1.toQuiet rfl rfl hx'.1 fun ci hci => ?_
    rw [← hcurve]
    simpa using hci

end Before

/-! ## The law -/

section Law
variable {s₀ s s' : BackendState} {t : Transaction} {answers rest : List DriverAnswer}
  {result : LinuxTransactionResult}

theorem Begins.prepared (h : Begins s₀ t s) : Prepared t s := by
  cases h with
  | apply h => exact prepared_apply (ensures_startApply.of_run h)
  | reset h => exact prepared_reset (ensures_enterReset.of_run h _ rfl)

/-- What holds of the phases before the rollback. -/
structure Underway (t : Transaction) (s : BackendState) (rest : List LinuxMutationPhase)
    (x : BackendState) : Prop where
  suffix : rest <:+ phaseOrder.filter t.requested
  kept : Kept s x
  pending : .curve ∈ rest → CurvePending s x

theorem Prepared.step (h : Prepared t s) {phase : LinuxMutationPhase}
    {later : List LinuxMutationPhase} {x : BackendState}
    (hunderway : Underway t s (phase :: later) x) :
    Ensures (t.step phase) (fun _ x' => Underway t s later x') (fun _ => True)
      (x.log (.began phase)) := by
  have hlater : later <:+ phaseOrder.filter t.requested :=
    (List.suffix_cons phase later).trans hunderway.suffix
  have hnodup := hunderway.suffix.sublist.nodup (phaseOrder_nodup.filter _)
  have hfresh : phase ∉ later := (List.nodup_cons.mp hnodup).1
  have hrequested : t.requested phase = true :=
    (List.mem_filter.mp (hunderway.suffix.subset List.mem_cons_self)).2
  by_cases hcurve : phase = .curve
  · subst hcurve
    have hpending := hunderway.pending List.mem_cons_self
    exact (h.curveStep hrequested (x.log (.began .curve)) hpending.board hpending.curve
      hpending.vf).mono (fun _ x' hx' => ⟨hlater, hx', fun hmem => absurd hmem hfresh⟩)
        fun _ _ => trivial
  · refine (h.otherStep phase hcurve _).mono (fun _ x' hx' => ?_) fun _ _ => trivial
    have hvf : ∀ ci, x'.hw (.vf ci) = x.hw (.vf ci) := fun ci => hx'.hw _ (by simp [IsVf])
    have hboard : ∀ {g : LinuxGpuState}, x.gpu.board = { g.board with
        retainedTransitionCeilingMHz := x.gpu.retainedTransitionCeilingMHz } →
        x'.gpu.board = { g.board with
          retainedTransitionCeilingMHz := x'.gpu.retainedTransitionCeilingMHz } := by
      intro g hg
      rw [hx'.board]
      show ({ x.gpu.board with retainedTransitionCeilingMHz := _ } : LinuxGpuState) = _
      rw [hg]
    refine ⟨hlater, ⟨hboard hunderway.kept.board, fun ci hchanged => ?_⟩, fun hmem => ?_⟩
    · rw [hvf ci] at hchanged
      rw [hx'.curve]
      exact hunderway.kept.vf ci hchanged
    · have hpending := hunderway.pending (List.mem_cons_of_mem _ hmem)
      exact ⟨hboard hpending.board, hx'.curve.trans hpending.curve,
        fun ci => (hvf ci).trans (hpending.vf ci)⟩

/-- A run that fails is rolled back from a state the law speaks of. -/
theorem exists_rollback (hprepared : Prepared t s)
    (hrun : t.run answers s = (some (result, rest), s'))
    (hfailed : result.rollbackAttempted = true) :
    ∃ rest₁ ok, Kept s (t.untilRollback answers s).2 ∧
      linuxBackendRestoreSnapshot t.snapshot result.attemptedPhases rest₁
        (t.untilRollback answers s).2 = (some (ok, rest), s') ∧
      ∀ phase ∈ result.attemptedPhases, t.requested phase = true := by
  have hbegin : Underway t s (phaseOrder.filter t.requested) s :=
    ⟨List.suffix_rfl, ⟨rfl, fun _ hne => absurd rfl hne⟩, fun _ => ⟨rfl, rfl, fun _ => rfl⟩⟩
  have hstep : ∀ phase later x, Underway t s (phase :: later) x →
      Ensures (t.step phase)
        (fun ok x' => if ok = true then Underway t s later x' else Kept s x')
        (fun _ => True) (x.log (.began phase)) := by
    intro phase later x hunderway
    refine (hprepared.step hunderway).mono (fun ok x' hx' => ?_) fun _ _ => trivial
    cases ok with
    | true => exact hx'
    | false => exact hx'.kept
  obtain ⟨f, rest₁, ok, hkept, huntil, hback, hattempted⟩ :=
    runPhases_failed hstep hbegin rfl hrun hfailed
  have hlog : (t.untilRollback answers s).2 = f.log .rollingBack := huntil
  rw [hlog]
  refine ⟨rest₁, ok, ⟨hkept.board, hkept.vf⟩, hback, fun phase hphase => ?_⟩
  rcases hattempted phase hphase with hold | hmem
  · cases hold
  · exact (List.mem_filter.mp hmem).2

/-- **A rollback restores what was touched** exactly when it is permitted to write and
has captured all it needs, or when nothing was changed. -/
theorem rollback_restores_iff (hbegins : Begins s₀ t s)
    (hint : -2147483648 ≤ s.hw .memOffset ∧ s.hw .memOffset ≤ 2147483647)
    (hresult : (exec t.run answers s).1 = some result)
    (hfailed : result.rollbackAttempted = true)
    (hclamps : (exec t.untilRollback answers s).2.gpu.setGpuLockedClocks = true)
    (haccepted : AcceptedSince (exec t.untilRollback answers s).2 (exec t.run answers s).2) :
    t.Restored result.attemptedPhases (exec t.run answers s).2.hw ↔
      t.Recoverable result.attemptedPhases (exec t.untilRollback answers s).2 := by
  obtain ⟨⟨result', rest⟩, hvalue, rfl⟩ := Option.map_eq_some_iff.mp hresult
  have hrun : t.run answers s = (some (result', rest), (exec t.run answers s).2) :=
    Prod.ext hvalue rfl
  obtain ⟨rest₁, ok, hkept, hback, hattempted⟩ := exists_rollback hbegins.prepared hrun hfailed
  rw [(ensures_restoreSnapshot.of_run hback).2 haccepted hclamps]
  exact restored_rolledBack_iff hbegins.prepared hkept hattempted hint

end Law

/-! ## The rollback of a reset -/

/-- A reset never notes a ceiling. -/
theorem resetStep_ceiling (phase : LinuxMutationPhase) (x : BackendState) :
    Ensures (linuxResetTransactionStep phase) (fun _ x' => x'.ceiling = x.ceiling)
      (fun _ => True) x := by
  have hquiet : ∀ {owned : Register → Prop} {target : BackendState → Register → Option Int}
      {step : BackendM Bool}, Writes owned target step →
      Ensures step (fun _ x' => x'.ceiling = x.ceiling) (fun _ => True) x :=
    fun h => (h x).mono (fun _ _ hs => hs.1.ceiling) fun _ _ => trivial
  have hover : ∀ (ok : Bool) (y : BackendState), y.ceiling = x.ceiling →
      Ensures (handOver ok) (fun _ x' => x'.ceiling = x.ceiling) (fun _ => True) y := by
    intro ok y hy
    refine ensures_bind (ensures_modify (ensures_pure ?_))
    cases ok with
    | true => exact hy
    | false => exact hy
  cases phase with
  | gpuOffset => exact hquiet (writes_graphicsOffset 0)
  | memOffset => exact hquiet (writes_memoryOffset 0)
  | power =>
    refine ensures_bind (ensures_get ?_)
    split
    · exact ensures_pure rfl
    · exact hquiet (writes_setPowerLimit _)
  | xbar => exact hquiet (writes_xbarOwned 0 0 true true)
  | sysClk => exact hquiet (writes_sysClk 0)
  | videoClk => exact hquiet (writes_videoClk 0)
  | curve =>
    refine ensures_bind (ensures_get ?_)
    exact (ensures_curveOffsets _ _).mono (fun _ _ hs => hs.1.ceiling) fun _ _ => trivial
  | fan => exact hquiet (writes_nvmlSetFan _)
  | lock =>
    refine ensures_bind (ensures_get ?_)
    split
    · exact hover true x rfl
    · split
      · exact hover false x rfl
      · exact ensures_call trivial fun a => hover _ _ rfl
  | lockCeiling => exact ensures_pure rfl
  | resetBaseline => exact ensures_pure rfl

/-- **The rollback of a reset has no bound**: where the GPU may have clock control, and
a clock phase was attempted, it restores nothing. -/
theorem reset_not_permitted {s₀ s : BackendState} {snapshot : LinuxHardwareSnapshot}
    (hstarted : ResetStarted s₀ snapshot s) {answers rest : List DriverAnswer}
    {result : LinuxTransactionResult} {s' : BackendState}
    (hrun : (resetOf snapshot s.gpu).run answers s = (some (result, rest), s'))
    (hfailed : result.rollbackAttempted = true)
    (hclocks : touchesClocks result.attemptedPhases = true)
    (hcontrol : linuxClockControlProvenAbsent
      (exec (resetOf snapshot s.gpu).untilRollback answers s).2 = false) :
    restorePermitted (exec (resetOf snapshot s.gpu).untilRollback answers s).2
      result.attemptedPhases = false := by
  have hstep : ∀ phase (later : List LinuxMutationPhase) (x : BackendState), x.ceiling = {} →
      Ensures (linuxResetTransactionStep phase)
        (fun ok x' => if ok = true then x'.ceiling = {} else x'.ceiling = {}) (fun _ => True)
        (x.log (.began phase)) := by
    intro phase later x hx
    refine (resetStep_ceiling phase _).mono (fun ok x' hx' => ?_) fun _ _ => trivial
    have : x'.ceiling = {} := hx'.trans hx
    cases ok <;> exact this
  obtain ⟨f, -, -, hceiling, huntil, -⟩ :=
    runPhases_failed (I := fun _ x => x.ceiling = {}) (F := fun x => x.ceiling = {}) hstep
      hstarted.ceiling rfl hrun hfailed
  have hlog : (exec (resetOf snapshot s.gpu).untilRollback answers s).2 = f.log .rollingBack :=
    huntil
  have hbound : rollbackBound (exec (resetOf snapshot s.gpu).untilRollback answers s).2.ceiling =
      0 := by
    rw [hlog]
    show rollbackBound f.ceiling = 0
    rw [hceiling]
    rfl
  simp [restorePermitted, hclocks, hcontrol, hbound]

/-! ### Two failed transactions -/

/-- The apply a run begins. -/
def enteredApply (d : DesiredSettings) (answers : List DriverAnswer) (s₀ : BackendState) :
    Option (Transaction × List DriverAnswer × BackendState) :=
  match startApply d none (some d) answers s₀ with
  | (some (some start, rest), s) => some (start.transaction s.gpu, rest, s)
  | _ => none

theorem begins_enteredApply {d : DesiredSettings} {answers : List DriverAnswer}
    {s₀ : BackendState} {entered : Transaction × List DriverAnswer × BackendState}
    (h : enteredApply d answers s₀ = some entered) : Begins s₀ entered.1 entered.2.2 := by
  unfold enteredApply at h
  split at h
  · rename_i start rest s hstart
    cases h
    exact .apply hstart
  · cases h

/-- The reset a run begins. -/
def enteredReset (answers : List DriverAnswer) (s₀ : BackendState) :
    Option (Transaction × List DriverAnswer × BackendState) :=
  match enterReset answers s₀ with
  | (some (some snapshot, rest), s) => some (resetOf snapshot s.gpu, rest, s)
  | _ => none

theorem begins_enteredReset {answers : List DriverAnswer} {s₀ : BackendState}
    {entered : Transaction × List DriverAnswer × BackendState}
    (h : enteredReset answers s₀ = some entered) : Begins s₀ entered.1 entered.2.2 := by
  unfold enteredReset at h
  split at h
  · rename_i snapshot rest s hstart
    cases h
    exact .reset hstart
  · cases h

/-- The power phase touches the power limit only. -/
theorem Begins.eq_power_of_touched {s₀ s : BackendState} {t : Transaction} (h : Begins s₀ t s)
    {r : Register} (hr : t.Touched [.power] r) : r = .power := by
  obtain ⟨phase, hphase, hmay⟩ := hr
  obtain rfl : phase = .power := List.mem_singleton.mp hphase
  cases h with
  | apply => exact hmay.1
  | reset => exact hmay.1

theorem Begins.touches_gpuOffset {s₀ s : BackendState} {t : Transaction} (h : Begins s₀ t s)
    {attempted : List LinuxMutationPhase} (hmem : .gpuOffset ∈ attempted) :
    t.Touched attempted .gpuOffset := by
  refine ⟨.gpuOffset, hmem, ?_⟩
  cases h with
  | apply => exact ⟨rfl, fun index hindex => by cases hindex⟩
  | reset => exact ⟨rfl, fun index hindex => by cases hindex⟩

/-- A GPU under a graphics offset. -/
def overclocked : BackendState where
  gpu := { fanCount := 1 }
  hw r := if r = .gpuOffset then 100 else if r = .power then 200000 else 0

/-- Half the power limit, which the driver refuses, leaving garbage. -/
def powerRequest : DesiredSettings := { hasPowerLimit := true, powerLimitPct := 50 }

def powerAnswers : List DriverAnswer :=
  [{ curve := eightPointCurve }, { reads := { powerDefaultmW := 200000 } },
    { accepted := false, left := fun _ => 1 }, {}, {}]

def powerApply : Transaction × List DriverAnswer × BackendState :=
  (enteredApply powerRequest powerAnswers overclocked).get (by decide +kernel)

/-- The result of that apply. -/
def powerResult : LinuxTransactionResult where
  anyWrite := true
  rollbackAttempted := true
  rollbackSucceeded := true
  attemptedPhases := [.power]
  failedPhases := [.power]

/-- The driver takes the power limit back. -/
theorem powerApply_accepted :
    AcceptedSince (exec powerApply.1.untilRollback powerApply.2.1 powerApply.2.2).2
      (exec powerApply.1.run powerApply.2.1 powerApply.2.2).2 := by
  refine ⟨[.wrote .power true], by decide +kernel, fun event hevent => ?_⟩
  rw [List.mem_singleton.mp hevent]
  exact rfl

/-- A refused power limit is given back. -/
theorem powerApply_restored :
    powerApply.1.Restored [.power] (exec powerApply.1.run powerApply.2.1 powerApply.2.2).2.hw := by
  have hresult : (exec powerApply.1.run powerApply.2.1 powerApply.2.2).1 = some powerResult := by
    decide +kernel
  have hpermitted : restorePermitted
      (exec powerApply.1.untilRollback powerApply.2.1 powerApply.2.2).2 [.power] = true := by
    decide +kernel
  have hcaptured : (snapshotValue powerApply.1.snapshot .power).isSome = true := by decide +kernel
  have hbegins : Begins overclocked powerApply.1 powerApply.2.2 := begins_enteredApply (Option.some_get _).symm
  have hclamps : (exec powerApply.1.untilRollback powerApply.2.1
      powerApply.2.2).2.gpu.setGpuLockedClocks = true := by decide +kernel
  have hint : -2147483648 ≤ powerApply.2.2.hw .memOffset ∧
      powerApply.2.2.hw .memOffset ≤ 2147483647 := by decide +kernel
  refine (rollback_restores_iff hbegins hint hresult rfl hclamps powerApply_accepted).mpr ?_
  refine (if_pos hpermitted).mpr ⟨fun r hr => ?_, fun hcurve => ?_⟩
  · have hpower : r = .power := hbegins.eq_power_of_touched hr
    rw [hpower]
    exact hcaptured
  · cases List.mem_singleton.mp hcurve

/-- The driver refuses the fan, the last phase of the reset. -/
def refusedFanAnswers : List DriverAnswer :=
  [{ curve := eightPointCurve }, {}, {}, {}, {}, {}, {}, {}, {}, {}, { accepted := false }]

def refusedReset : Transaction × List DriverAnswer × BackendState :=
  (enteredReset refusedFanAnswers overclocked).get (by decide +kernel)

/-- The result of that reset. -/
def resetResult : LinuxTransactionResult where
  anyWrite := true
  rollbackAttempted := true
  attemptedPhases := [.gpuOffset, .memOffset, .xbar, .sysClk, .videoClk, .curve, .lock, .fan]
  completedPhases := [.gpuOffset, .memOffset, .xbar, .sysClk, .videoClk, .curve, .lock]
  failedPhases := [.fan]

/-- **The reset is left half done**: no restoring setter is refused, and the graphics
offset it had cleared is not given back. -/
theorem refusedReset_not_restored :
    Begins overclocked refusedReset.1 refusedReset.2.2 ∧
    (∃ result, (exec refusedReset.1.run refusedReset.2.1 refusedReset.2.2).1 = some result ∧
      result.rollbackAttempted = true ∧
      ¬ refusedReset.1.Restored result.attemptedPhases
        (exec refusedReset.1.run refusedReset.2.1 refusedReset.2.2).2.hw) ∧
    (exec refusedReset.1.untilRollback refusedReset.2.1 refusedReset.2.2).2.gpu.setGpuLockedClocks
      = true ∧
    AcceptedSince (exec refusedReset.1.untilRollback refusedReset.2.1 refusedReset.2.2).2
      (exec refusedReset.1.run refusedReset.2.1 refusedReset.2.2).2 := by
  have hbegins : Begins overclocked refusedReset.1 refusedReset.2.2 :=
    begins_enteredReset (Option.some_get _).symm
  refine ⟨hbegins, ⟨resetResult, by decide +kernel, rfl, fun hrestored => ?_⟩, by decide +kernel,
    ⟨[], by decide +kernel, by simp⟩⟩
  have htouched : refusedReset.1.Touched resetResult.attemptedPhases .gpuOffset :=
    hbegins.touches_gpuOffset (by decide)
  have hleft : snapshotValue refusedReset.1.snapshot .gpuOffset ≠
      some (inSnapshotUnit .gpuOffset
        ((exec refusedReset.1.run refusedReset.2.1 refusedReset.2.2).2.hw .gpuOffset)) := by
    decide +kernel
  exact hleft (hrestored .gpuOffset htouched)

end GreenCurve.Backend
