import GreenCurve.DesiredSettings

/-! # The transition clock ceiling

The plan of the clamp an apply arms before anything that can raise a clock: at the
lower of what the outgoing and the incoming profile are entitled to run. -/

namespace GreenCurve.Backend

inductive ApplyClockCeilingReason where
  | none | requestedLock | requestedFlatten | resetDropsCap
  deriving DecidableEq, Repr

structure ApplyClockCeilingPlan where
  arm : Bool := false
  ceilingMHz : Nat := 0
  finalPinIsCeiling : Bool := false
  required : Bool := false
  symmetricFallbackAllowed : Bool := false
  clampControlAbsent : Bool := false
  reason : ApplyClockCeilingReason := .none
  deriving DecidableEq, Repr

inductive ApplyClockCeilingArmResult where
  | notNeeded | installed | unavailable | refused | unsupported
  deriving DecidableEq, Repr

/-- The lower of two ceilings, where zero is no ceiling. -/
def lowerBound (bound outgoingCeilingMHz : Nat) : Nat :=
  if outgoingCeilingMHz > 0 ∧ (bound = 0 ∨ outgoingCeilingMHz < bound) then outgoingCeilingMHz
  else bound

/-- `apply_clock_ceiling_plan`. -/
def applyClockCeilingPlan (requestOwnsClockDomain requestHasLock : Bool) (lockMode : LockMode)
    (lockMHz : Nat) (nvmlLockedClocksAvailable resetsToStock outgoingStateHoldsClocksDown : Bool)
    (outgoingCeilingMHz : Nat) : ApplyClockCeilingPlan :=
  if !requestOwnsClockDomain then {}
  else
    let incomingLock := requestHasLock && decide (lockMode ≠ .none) && decide (lockMHz > 0)
    let resetWillUncap := resetsToStock && outgoingStateHoldsClocksDown
    if !incomingLock && !resetWillUncap then {}
    else
      let reason : ApplyClockCeilingReason :=
        if incomingLock then if lockMode = .hard then .requestedLock else .requestedFlatten
        else .resetDropsCap
      let bound := lowerBound (if incomingLock then lockMHz else 0) outgoingCeilingMHz
      if bound = 0 then
        { required := true, clampControlAbsent := !nvmlLockedClocksAvailable, reason := reason }
      else
        { required := true
          clampControlAbsent := !nvmlLockedClocksAvailable
          reason := reason
          ceilingMHz := bound
          finalPinIsCeiling := incomingLock && decide (lockMode = .hard) && decide (bound = lockMHz)
          symmetricFallbackAllowed := incomingLock
          arm := nvmlLockedClocksAvailable }

/-- `apply_clock_ceiling_transition_must_refuse`. -/
def applyClockCeilingTransitionMustRefuse (required : Bool) (result : ApplyClockCeilingArmResult)
    (reason : ApplyClockCeilingReason) : Bool :=
  if !required then false
  else if result = .installed then false
  else if result = .unsupported ∧ (reason = .resetDropsCap ∨ reason = .requestedFlatten) then false
  else true

/-- `apply_clock_control_proven_absent`: Pascal, and no pin of ours or inherited. -/
def applyClockControlProvenAbsent (knownPascal installedOrRetainedCap outgoingHardPin : Bool) :
    Bool :=
  knownPascal && !installedOrRetainedCap && !outgoingHardPin

/-! ## What a plan says -/

theorem lowerBound_le_left {bound outgoing : Nat} (h : 0 < bound) :
    lowerBound bound outgoing ≤ bound := by
  unfold lowerBound
  split
  · omega
  · exact Nat.le_refl _

theorem lowerBound_le_right {bound outgoing : Nat} (h : 0 < outgoing) :
    lowerBound bound outgoing ≤ outgoing := by
  unfold lowerBound
  split
  · exact Nat.le_refl _
  · omega

/-- Whether the request names a lock target. -/
def incomingLock (d : DesiredSettings) : Bool :=
  d.hasLock && decide (d.lockMode ≠ .none) && decide (d.lockMHz > 0)

end GreenCurve.Backend
