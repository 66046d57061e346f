import GreenCurve.FanCurve

/-! # Selecting a profile

The service replaces the profile it holds by another one.  The request it sends to the hardware
is the next profile, with the default of every control only the previous one owned; a lock and
the points of the curve have no default of their own and go with the reset of the baseline.
What the request makes of the held intent is the next profile and defaults. -/

namespace GreenCurve

/-- `memset` of a fan curve. -/
def FanCurveConfig.cleared : FanCurveConfig where
  points := List.replicate FAN_CURVE_MAX_POINTS {}

/-! ## Claims of defaults -/

section Claims
variable (drop : Bool) (request : DesiredSettings)

def claimGpuOffset : DesiredSettings :=
  if drop then
    { request with
      hasGpuOffset := true
      gpuOffsetMHz := 0
      gpuOffsetExcludeLowCount := 0 }
  else request

def claimMemOffset : DesiredSettings :=
  if drop then
    { request with
      hasMemOffset := true
      memOffsetMHz := 0 }
  else request

def claimPowerLimit : DesiredSettings :=
  if drop then
    { request with
      hasPowerLimit := true
      powerLimitPct := 100 }
  else request

def claimFan : DesiredSettings :=
  if drop then
    { request with
      hasFan := true
      fanAuto := true
      fanMode := .auto
      fanPercent := 0
      fanCurve := .cleared }
  else request

def claimXbar : DesiredSettings :=
  if drop then
    { request with
      hasXbarOffsetKhz := true
      xbarOffsetKhz := 0 }
  else request

def claimXbarMsvdd : DesiredSettings :=
  if drop then
    { request with
      hasXbarMsvddOffsetUv := true
      xbarMsvddOffsetUv := 0 }
  else request

def claimSysClk : DesiredSettings :=
  if drop then
    { request with
      hasSysClkOffsetKhz := true
      sysClkOffsetKhz := 0 }
  else request

def claimVideoClk : DesiredSettings :=
  if drop then
    { request with
      hasVideoClkOffsetKhz := true
      videoClkOffsetKhz := 0 }
  else request

theorem claimGpuOffset_eq : claimGpuOffset drop request =
    { request with
      hasGpuOffset := request.hasGpuOffset || drop
      gpuOffsetMHz := if drop then 0 else request.gpuOffsetMHz
      gpuOffsetExcludeLowCount := if drop then 0 else request.gpuOffsetExcludeLowCount } := by
  cases drop <;> simp [claimGpuOffset]

theorem claimMemOffset_eq : claimMemOffset drop request =
    { request with
      hasMemOffset := request.hasMemOffset || drop
      memOffsetMHz := if drop then 0 else request.memOffsetMHz } := by
  cases drop <;> simp [claimMemOffset]

theorem claimPowerLimit_eq : claimPowerLimit drop request =
    { request with
      hasPowerLimit := request.hasPowerLimit || drop
      powerLimitPct := if drop then 100 else request.powerLimitPct } := by
  cases drop <;> simp [claimPowerLimit]

theorem claimFan_eq : claimFan drop request =
    { request with
      hasFan := request.hasFan || drop
      fanAuto := if drop then true else request.fanAuto
      fanMode := if drop then .auto else request.fanMode
      fanPercent := if drop then 0 else request.fanPercent
      fanCurve := if drop then .cleared else request.fanCurve } := by
  cases drop <;> simp [claimFan]

theorem claimXbar_eq : claimXbar drop request =
    { request with
      hasXbarOffsetKhz := request.hasXbarOffsetKhz || drop
      xbarOffsetKhz := if drop then 0 else request.xbarOffsetKhz } := by
  cases drop <;> simp [claimXbar]

theorem claimXbarMsvdd_eq : claimXbarMsvdd drop request =
    { request with
      hasXbarMsvddOffsetUv := request.hasXbarMsvddOffsetUv || drop
      xbarMsvddOffsetUv := if drop then 0 else request.xbarMsvddOffsetUv } := by
  cases drop <;> simp [claimXbarMsvdd]

theorem claimSysClk_eq : claimSysClk drop request =
    { request with
      hasSysClkOffsetKhz := request.hasSysClkOffsetKhz || drop
      sysClkOffsetKhz := if drop then 0 else request.sysClkOffsetKhz } := by
  cases drop <;> simp [claimSysClk]

theorem claimVideoClk_eq : claimVideoClk drop request =
    { request with
      hasVideoClkOffsetKhz := request.hasVideoClkOffsetKhz || drop
      videoClkOffsetKhz := if drop then 0 else request.videoClkOffsetKhz } := by
  cases drop <;> simp [claimVideoClk]

end Claims

/-- The controls only the previous intent owned are claimed with their default. -/
def claimDropped (previousIntent nextIntent request : DesiredSettings) : DesiredSettings :=
  let request := claimGpuOffset (previousIntent.hasGpuOffset && !nextIntent.hasGpuOffset) request
  let request := claimMemOffset (previousIntent.hasMemOffset && !nextIntent.hasMemOffset) request
  let request := claimPowerLimit (previousIntent.hasPowerLimit && !nextIntent.hasPowerLimit) request
  let request := claimFan (previousIntent.hasFan && !nextIntent.hasFan) request
  let request := claimXbar (previousIntent.hasXbarOffsetKhz && !nextIntent.hasXbarOffsetKhz) request
  let request :=
    claimXbarMsvdd (previousIntent.hasXbarMsvddOffsetUv && !nextIntent.hasXbarMsvddOffsetUv) request
  let request :=
    claimSysClk (previousIntent.hasSysClkOffsetKhz && !nextIntent.hasSysClkOffsetKhz) request
  claimVideoClk (previousIntent.hasVideoClkOffsetKhz && !nextIntent.hasVideoClkOffsetKhz) request

/-- `service_build_profile_transition_request`. -/
def serviceBuildProfileTransitionRequest (previousIntent : Option DesiredSettings)
    (nextIntent : DesiredSettings) : DesiredSettings :=
  let previousOwnedVf := (previousIntent.map serviceIntentOwnsVfCleanup).getD false
  let request :=
    { nextIntent with
      resetOcBeforeApply := serviceIntentOwnsVfCleanup nextIntent || previousOwnedVf }
  match previousIntent with
  | none => request
  | some previous => claimDropped previous nextIntent request

/-! ## Controls -/

/-- A control that is owned on its own. -/
inductive Control where
  | gpuOffset | memOffset | power | fan | xbar | xbarMsvdd | sysClk | videoClk
  | curvePoint (ci : VfPoint)
  | lock
  deriving DecidableEq

namespace Control

def owned (d : DesiredSettings) : Control → Bool
  | .gpuOffset => d.hasGpuOffset
  | .memOffset => d.hasMemOffset
  | .power => d.hasPowerLimit
  | .fan => d.hasFan
  | .xbar => d.hasXbarOffsetKhz
  | .xbarMsvdd => d.hasXbarMsvddOffsetUv
  | .sysClk => d.hasSysClkOffsetKhz
  | .videoClk => d.hasVideoClkOffsetKhz
  | .curvePoint ci => d.hasCurvePoint ci
  | .lock => d.hasLock

/-- Both settings give the control the same value. -/
def Agrees (d d' : DesiredSettings) : Control → Prop
  | .gpuOffset =>
    d.gpuOffsetMHz = d'.gpuOffsetMHz ∧ d.gpuOffsetExcludeLowCount = d'.gpuOffsetExcludeLowCount
  | .memOffset => d.memOffsetMHz = d'.memOffsetMHz
  | .power => d.powerLimitPct = d'.powerLimitPct
  | .fan =>
    d.fanAuto = d'.fanAuto ∧ d.fanMode = d'.fanMode ∧ d.fanPercent = d'.fanPercent ∧
      d.fanCurve = d'.fanCurve
  | .xbar => d.xbarOffsetKhz = d'.xbarOffsetKhz
  | .xbarMsvdd => d.xbarMsvddOffsetUv = d'.xbarMsvddOffsetUv
  | .sysClk => d.sysClkOffsetKhz = d'.sysClkOffsetKhz
  | .videoClk => d.videoClkOffsetKhz = d'.videoClkOffsetKhz
  | .curvePoint ci =>
    d.curvePointMHz ci = d'.curvePointMHz ci ∧
      d.curvePointFromGpuOffset ci = d'.curvePointFromGpuOffset ci
  | .lock =>
    d.lockCi = d'.lockCi ∧ d.lockMHz = d'.lockMHz ∧ d.lockMode = d'.lockMode ∧
      d.lockTracksAnchor = d'.lockTracksAnchor

/-- The value of a control that leaves the GPU as it comes.  A lock and a point of the curve
have none: owning one is a change. -/
def IsDefault (d : DesiredSettings) : Control → Prop
  | .gpuOffset => d.gpuOffsetMHz = 0 ∧ d.gpuOffsetExcludeLowCount = 0
  | .memOffset => d.memOffsetMHz = 0
  | .power => d.powerLimitPct = 100
  | .fan => d.fanAuto = true ∧ d.fanMode = .auto ∧ d.fanPercent = 0 ∧ d.fanCurve = .cleared
  | .xbar => d.xbarOffsetKhz = 0
  | .xbarMsvdd => d.xbarMsvddOffsetUv = 0
  | .sysClk => d.sysClkOffsetKhz = 0
  | .videoClk => d.videoClkOffsetKhz = 0
  | .curvePoint _ => False
  | .lock => False

/-- The control is dropped by a reset of the baseline, not by a claim. -/
def needsReset : Control → Bool
  | .curvePoint _ | .lock => true
  | _ => false

/-- Settings hold a control: they own it with the value of others, which own it as well. -/
def Holds (d d' : DesiredSettings) (control : Control) : Prop :=
  control.owned d = true ∧ control.Agrees d d'

end Control

/-- What an intent owns of a control, none where there is no intent. -/
def ownedBefore (previousIntent : Option DesiredSettings) (control : Control) : Bool :=
  (previousIntent.map control.owned).getD false

/-- The intent, if there is one, owns a setting that needs a clean curve. -/
def ownedVfBefore (previousIntent : Option DesiredSettings) : Bool :=
  (previousIntent.map serviceIntentOwnsVfCleanup).getD false

/-- A control is dropped: the previous intent owned it and the next one does not. -/
def dropped (previous : Option DesiredSettings) (next : DesiredSettings) (control : Control) :
    Bool :=
  ownedBefore previous control && !control.owned next

/-! ## What a selection should do -/

/-- The request of a transition cleans up exactly what is dropped. -/
structure TransitionCleans (previous : Option DesiredSettings) (next request : DesiredSettings) :
    Prop where
  follows : ∀ control : Control, control.owned next = true → control.Holds request next
  releases : ∀ control, dropped previous next control = true → control.needsReset = false →
    control.owned request = true ∧ control.IsDefault request
  resets : ∀ control, dropped previous next control = true → control.needsReset = true →
    control.owned request = false ∧ request.resetOcBeforeApply = true
  claims : ∀ control : Control, control.owned request = true →
    control.owned next = true ∨ dropped previous next control = true
  baseline : request.resetOcBeforeApply =
    (serviceIntentOwnsVfCleanup next || ownedVfBefore previous)

/-- An intent is the next one, and the default of whatever else it owns. -/
structure IntentReplaced (next intent : DesiredSettings) : Prop where
  keeps : ∀ control : Control, control.owned next = true → control.Holds intent next
  neutral : ∀ control : Control, control.owned intent = true → control.owned next = false →
    control.IsDefault intent

/-! ## The request -/

section Request
variable {previous : Option DesiredSettings} {next : DesiredSettings}

/-- **The request**, control by control. -/
theorem transitionRequest_eq :
    serviceBuildProfileTransitionRequest previous next =
      { next with
        resetOcBeforeApply := serviceIntentOwnsVfCleanup next || ownedVfBefore previous
        hasGpuOffset := next.hasGpuOffset || dropped previous next .gpuOffset
        gpuOffsetMHz := if dropped previous next .gpuOffset then 0 else next.gpuOffsetMHz
        gpuOffsetExcludeLowCount :=
          if dropped previous next .gpuOffset then 0 else next.gpuOffsetExcludeLowCount
        hasMemOffset := next.hasMemOffset || dropped previous next .memOffset
        memOffsetMHz := if dropped previous next .memOffset then 0 else next.memOffsetMHz
        hasPowerLimit := next.hasPowerLimit || dropped previous next .power
        powerLimitPct := if dropped previous next .power then 100 else next.powerLimitPct
        hasFan := next.hasFan || dropped previous next .fan
        fanAuto := if dropped previous next .fan then true else next.fanAuto
        fanMode := if dropped previous next .fan then .auto else next.fanMode
        fanPercent := if dropped previous next .fan then 0 else next.fanPercent
        fanCurve := if dropped previous next .fan then .cleared else next.fanCurve
        hasXbarOffsetKhz := next.hasXbarOffsetKhz || dropped previous next .xbar
        xbarOffsetKhz := if dropped previous next .xbar then 0 else next.xbarOffsetKhz
        hasXbarMsvddOffsetUv := next.hasXbarMsvddOffsetUv || dropped previous next .xbarMsvdd
        xbarMsvddOffsetUv :=
          if dropped previous next .xbarMsvdd then 0 else next.xbarMsvddOffsetUv
        hasSysClkOffsetKhz := next.hasSysClkOffsetKhz || dropped previous next .sysClk
        sysClkOffsetKhz := if dropped previous next .sysClk then 0 else next.sysClkOffsetKhz
        hasVideoClkOffsetKhz := next.hasVideoClkOffsetKhz || dropped previous next .videoClk
        videoClkOffsetKhz :=
          if dropped previous next .videoClk then 0 else next.videoClkOffsetKhz } := by
  cases previous with
  | none => simp [serviceBuildProfileTransitionRequest, dropped, ownedBefore, ownedVfBefore]
  | some previous =>
    simp only [serviceBuildProfileTransitionRequest, claimDropped, claimGpuOffset_eq,
      claimMemOffset_eq, claimPowerLimit_eq, claimFan_eq, claimXbar_eq, claimXbarMsvdd_eq,
      claimSysClk_eq, claimVideoClk_eq]
    rfl

theorem dropped_of_owned {control : Control} (h : control.owned next = true) :
    dropped previous next control = false := by
  simp [dropped, h]

theorem not_owned_of_dropped {control : Control} (h : dropped previous next control = true) :
    control.owned next = false := by
  rw [dropped, Bool.and_eq_true, Bool.not_eq_true'] at h
  exact h.2

theorem ownedVfBefore_of_dropped {control : Control} (hreset : control.needsReset = true)
    (h : dropped previous next control = true) : ownedVfBefore previous = true := by
  cases previous with
  | none => simp [dropped, ownedBefore] at h
  | some previous =>
    have howned : control.owned previous = true := (Bool.and_eq_true _ _ ▸ h).1
    show serviceIntentOwnsVfCleanup previous = true
    cases control with
    | lock =>
      have hlock : previous.hasLock = true := howned
      simp [serviceIntentOwnsVfCleanup, hlock]
    | curvePoint ci =>
      have hpoint : serviceDesiredHasCurvePoint previous = true := decide_eq_true ⟨ci, howned⟩
      simp [serviceIntentOwnsVfCleanup, hpoint]
    | _ => exact Bool.noConfusion hreset

theorem transitionRequest_owned (control : Control) :
    control.owned (serviceBuildProfileTransitionRequest previous next) =
      (control.owned next || (dropped previous next control && !control.needsReset)) := by
  rw [transitionRequest_eq]
  cases control <;> simp [Control.owned, Control.needsReset]

theorem transitionRequest_agrees {control : Control}
    (h : dropped previous next control = false) :
    control.Agrees (serviceBuildProfileTransitionRequest previous next) next := by
  rw [transitionRequest_eq]
  cases control <;> simp [Control.Agrees, h]

theorem transitionRequest_default {control : Control}
    (hreset : control.needsReset = false) (h : dropped previous next control = true) :
    control.IsDefault (serviceBuildProfileTransitionRequest previous next) := by
  rw [transitionRequest_eq]
  cases control with
  | curvePoint ci => exact Bool.noConfusion hreset
  | lock => exact Bool.noConfusion hreset
  | _ => simp [Control.IsDefault, h]

/-- **The request cleans up exactly what is dropped.** -/
theorem transitionCleans (previous : Option DesiredSettings) (next : DesiredSettings) :
    TransitionCleans previous next (serviceBuildProfileTransitionRequest previous next) where
  follows control h := by
    refine ⟨?_, transitionRequest_agrees (dropped_of_owned h)⟩
    rw [transitionRequest_owned, h, Bool.true_or]
  releases control h hreset := by
    refine ⟨?_, transitionRequest_default hreset h⟩
    rw [transitionRequest_owned, h, hreset]
    simp
  resets control h hreset := by
    constructor
    · rw [transitionRequest_owned, not_owned_of_dropped h, hreset]
      simp
    · rw [transitionRequest_eq]
      simp [ownedVfBefore_of_dropped hreset h]
  claims control h := by
    rw [transitionRequest_owned, Bool.or_eq_true, Bool.and_eq_true] at h
    exact h.imp_right And.left
  baseline := by rw [transitionRequest_eq]

end Request

/-! ## The intent -/

section Merge
variable {previous : Option DesiredSettings} {request : DesiredSettings}

/-- A mutation takes over what the request owns. -/
theorem merge_holds {control : Control} (h : control.owned request = true) :
    control.Holds (serviceMergeDesiredAfterMutation previous request) request := by
  rw [serviceMergeDesiredAfterMutation_eq]
  cases control with
  | curvePoint ci =>
    have hdomain : serviceDesiredMutationDomains request .vfCurve = true := by
      have hpoint : serviceDesiredHasCurvePoint request = true := decide_eq_true ⟨ci, h⟩
      simp [serviceDesiredMutationDomains, hpoint]
    simp only [Control.owned] at h
    simp [Control.Holds, Control.owned, Control.Agrees, mergeSource, hdomain, h]
  | _ =>
    simp only [Control.owned] at h
    simp [Control.Holds, Control.owned, Control.Agrees, mergeSource,
      serviceDesiredMutationDomains, h]

/-- What an intent owns after a mutation was requested, or was owned before and survived the
reset of the baseline. -/
theorem merge_owned {control : Control}
    (h : control.owned (serviceMergeDesiredAfterMutation previous request) = true) :
    control.owned request = true ∨
      (ownedBefore previous control = true ∧
        (request.resetOcBeforeApply = true → control.needsReset = false)) := by
  have hbase : ∀ control : Control, control.owned (mergeBase previous request) = true →
      ownedBefore previous control = true ∧
        (request.resetOcBeforeApply = true → control.needsReset = false) := by
    intro control howned
    have hbase : mergeBase previous request =
        if request.resetOcBeforeApply then mergeResetBaseline (previous.getD {})
        else previous.getD {} := rfl
    rw [hbase] at howned
    cases hreset : request.resetOcBeforeApply with
    | false =>
      rw [hreset] at howned
      refine ⟨?_, fun hfalse => Bool.noConfusion hfalse⟩
      cases previous with
      | none => cases control <;> exact Bool.noConfusion howned
      | some previous => exact howned
    | true =>
      rw [hreset, if_pos rfl] at howned
      cases previous with
      | none => cases control <;> exact Bool.noConfusion howned
      | some previous =>
        cases control <;> first | exact Bool.noConfusion howned | exact ⟨howned, fun _ => rfl⟩
  have hsource : ∀ (domain : ServiceMutationDomain) (control : Control),
      control.owned (mergeSource previous request domain) = true →
        control.owned request = true ∨ control.owned (mergeBase previous request) = true := by
    intro domain control howned
    unfold mergeSource at howned
    split at howned
    · exact .inl howned
    · exact .inr howned
  rw [serviceMergeDesiredAfterMutation_eq] at h
  cases control <;> dsimp only [Control.owned] at h
  case gpuOffset =>
    by_cases hgpu : request.hasGpuOffset = true
    · exact .inl hgpu
    · rw [if_neg hgpu] at h
      exact .inr (hbase .gpuOffset h)
  case memOffset => exact (hsource .memOffset .memOffset h).imp_right (hbase .memOffset)
  case power => exact (hsource .power .power h).imp_right (hbase .power)
  case fan => exact (hsource .fan .fan h).imp_right (hbase .fan)
  case xbar => exact (hsource .xbar .xbar h).imp_right (hbase .xbar)
  case xbarMsvdd => exact (hsource .xbar .xbarMsvdd h).imp_right (hbase .xbarMsvdd)
  case sysClk => exact (hsource .sysClk .sysClk h).imp_right (hbase .sysClk)
  case videoClk => exact (hsource .videoClk .videoClk h).imp_right (hbase .videoClk)
  case curvePoint ci =>
    exact (hsource .vfCurve (.curvePoint ci) h).imp_right (hbase (.curvePoint ci))
  case lock => exact (hsource .lock .lock h).imp_right (hbase .lock)

theorem Control.IsDefault.of_agrees {control : Control} {d d' : DesiredSettings}
    (h : control.Agrees d d') (hdefault : control.IsDefault d') : control.IsDefault d := by
  cases control <;> simp_all [Control.Agrees, Control.IsDefault]

theorem Control.Holds.trans {control : Control} {d d' d'' : DesiredSettings}
    (h : control.Holds d d') (h' : control.Holds d' d'') : control.Holds d d'' := by
  refine ⟨h.1, ?_⟩
  have hagrees := h.2
  have hagrees' := h'.2
  cases control <;> simp_all [Control.Agrees]

end Merge

/-- **The held intent becomes the next profile.** -/
theorem intentReplaced (previous : Option DesiredSettings) (next : DesiredSettings) :
    IntentReplaced next (serviceMergeDesiredAfterMutation previous
      (serviceBuildProfileTransitionRequest previous next)) := by
  have hcleans := transitionCleans previous next
  constructor
  case keeps =>
    intro control h
    have hfollows := hcleans.follows control h
    exact (merge_holds hfollows.1).trans hfollows
  case neutral =>
    intro control h hnext
    rcases merge_owned h with hclaimed | ⟨hbefore, hkept⟩
    · have hdropped : dropped previous next control = true :=
        (hcleans.claims control hclaimed).resolve_left (by simp [hnext])
      have hreset : control.needsReset = false := by
        by_contra hneeds
        have hfree := (hcleans.resets control hdropped (Bool.not_eq_false _ ▸ hneeds)).1
        rw [hclaimed] at hfree
        exact Bool.noConfusion hfree
      exact .of_agrees (merge_holds hclaimed).2 (hcleans.releases control hdropped hreset).2
    · have hdropped : dropped previous next control = true := by
        simp [dropped, hbefore, hnext]
      cases hneeds : control.needsReset with
      | true =>
        have hreset := (hcleans.resets control hdropped hneeds).2
        rw [hkept hreset] at hneeds
        exact Bool.noConfusion hneeds
      | false =>
        have hreleased := hcleans.releases control hdropped hneeds
        exact .of_agrees (merge_holds hreleased.1).2 hreleased.2

/-- **Selecting a profile replaces the one before.** -/
theorem profile_transition_replaces (previous : Option DesiredSettings) (next : DesiredSettings) :
    TransitionCleans previous next (serviceBuildProfileTransitionRequest previous next) ∧
      IntentReplaced next (serviceMergeDesiredAfterMutation previous
        (serviceBuildProfileTransitionRequest previous next)) :=
  ⟨transitionCleans previous next, intentReplaced previous next⟩

/-- A dropped lock is not claimed. -/
theorem dropped_lock_not_claimed :
    let previous : DesiredSettings :=
      { hasLock := true, lockCi := 70, lockMHz := 2500, lockMode := .flatten }
    ownedBefore (some previous) .lock = true ∧ Control.owned {} .lock = false ∧
      Control.owned (serviceBuildProfileTransitionRequest (some previous) {}) .lock = false :=
  ⟨rfl, rfl, rfl⟩

end GreenCurve
