import Mathlib.Algebra.Group.Nat.Defs
import Mathlib.Data.Int.Basic

/-! # Switching profiles with the foreground

The controller of the automatic profile switch is one small record and one function per
event; it does nothing by itself and answers each event with an action for the window that
owns the timers.  A switch waits out the debounce, the cooldown since the last apply and,
where its slot has just failed, the backoff of that slot.  A run is a list of events that
were handled one after the other, the newest first. -/

namespace GreenCurve.AutoProfile

abbrev CONFIG_NUM_SLOTS : Int := 5
abbrev CONFIG_DEFAULT_SLOT : Int := 1
abbrev AUTO_PROFILE_DEFAULT_DEBOUNCE_MS : Int := 800
abbrev AUTO_PROFILE_DEFAULT_MIN_INTERVAL_MS : Int := 4000
abbrev AUTO_PROFILE_FAILURE_BACKOFF_MAX_MS : Int := 300000

/-- The largest `int`. -/
abbrev INT_MAX : Int := 0x7fffffff

/-- The fields of `AutoProfileConfig` that the controller reads. -/
structure AutoProfileConfig where
  enabled : Bool
  defaultSlot : Int
  switchDebounceMs : Int
  minSwitchIntervalMs : Int
  minSwitchIntervalMs_le : minSwitchIntervalMs ≤ INT_MAX

inductive AutoProfileMode where
  | auto
  | manual
deriving DecidableEq, Repr

inductive AutoProfileAction where
  | none
  | armDebounce (delayMs : Int)
  | applySlot (slot : Int)
  | resumeAuto
deriving DecidableEq, Repr

structure AutoProfileController where
  autoEnabled : Bool
  mode : AutoProfileMode
  pinnedSlot : Int
  appliedSlot : Int
  pendingTarget : Int
  lastApplyMs : Int
  failedSlot : Int
  consecutiveFailures : Nat
  retryNotBeforeMs : Int
  debounceMs : Int
  minIntervalMs : Int
  defaultSlot : Int
deriving DecidableEq, Repr

/-! ## Actions -/

/-- `ap_slot_valid`. -/
def apSlotValid (slot : Int) : Bool := decide (1 ≤ slot) && decide (slot ≤ CONFIG_NUM_SLOTS)

/-- `(int)`. -/
def castInt (n : Int) : Int := n.bmod (2 ^ 32)

/-- `ap_action_arm`. -/
def apActionArm (delayMs : Int) : AutoProfileAction :=
  .armDebounce (if 0 < delayMs then delayMs else 1)

/-- An arm with a remaining backoff. -/
def apActionArmBackoff (backoff : Int) : AutoProfileAction :=
  apActionArm (if INT_MAX < backoff then INT_MAX else castInt backoff)

/-! ## The functions of the controller -/

/-- `ap_clear_failure`. -/
def apClearFailure (c : AutoProfileController) : AutoProfileController :=
  { c with failedSlot := 0, consecutiveFailures := 0, retryNotBeforeMs := 0 }

/-- `ap_failure_backoff_remaining_ms`. -/
def apFailureBackoffRemainingMs (c : AutoProfileController) (slot nowMs : Int) : Int :=
  if c.failedSlot = 0 ∨ slot ≠ c.failedSlot then 0
  else if 0 < c.retryNotBeforeMs - nowMs then c.retryNotBeforeMs - nowMs
  else 0

/-- The wait doubles for each further failure until it reaches the bound. -/
def doubleDelay (delay : Int) : Nat → Int
  | 0 => delay
  | n + 1 =>
    if delay < AUTO_PROFILE_FAILURE_BACKOFF_MAX_MS then doubleDelay (delay * 2) n else delay

/-- The wait after a number of failures. -/
def failureDelay (minIntervalMs : Int) (failures : Nat) : Int :=
  let delay := doubleDelay
    (if 0 < minIntervalMs then minIntervalMs else AUTO_PROFILE_DEFAULT_MIN_INTERVAL_MS)
    (failures - 1)
  if AUTO_PROFILE_FAILURE_BACKOFF_MAX_MS < delay then AUTO_PROFILE_FAILURE_BACKOFF_MAX_MS
  else delay

/-- `ap_on_apply_failed`. -/
def apOnApplyFailed (c : AutoProfileController) (slot nowMs : Int) : AutoProfileController :=
  if ¬apSlotValid slot then c
  else
    let failures := if c.failedSlot = slot then
        (if c.consecutiveFailures < 30 then c.consecutiveFailures + 1 else c.consecutiveFailures)
      else 1
    { c with
      failedSlot := slot
      consecutiveFailures := failures
      retryNotBeforeMs := nowMs + failureDelay c.minIntervalMs failures
      lastApplyMs := nowMs
      pendingTarget := 0 }

/-- `ap_controller_sync_config`. -/
def apControllerSyncConfig (c : AutoProfileController) (cfg : AutoProfileConfig) :
    AutoProfileController :=
  { c with
    autoEnabled := cfg.enabled
    debounceMs := if 0 < cfg.switchDebounceMs then cfg.switchDebounceMs
      else AUTO_PROFILE_DEFAULT_DEBOUNCE_MS
    minIntervalMs := if 0 < cfg.minSwitchIntervalMs then cfg.minSwitchIntervalMs
      else AUTO_PROFILE_DEFAULT_MIN_INTERVAL_MS
    defaultSlot := if apSlotValid cfg.defaultSlot then cfg.defaultSlot else CONFIG_DEFAULT_SLOT }

/-- `ap_controller_init`. -/
def apControllerInit (cfg : AutoProfileConfig) : AutoProfileController :=
  apControllerSyncConfig
    { autoEnabled := false
      mode := .auto
      pinnedSlot := 0
      appliedSlot := 0
      pendingTarget := 0
      lastApplyMs := -1000000
      failedSlot := 0
      consecutiveFailures := 0
      retryNotBeforeMs := 0
      debounceMs := AUTO_PROFILE_DEFAULT_DEBOUNCE_MS
      minIntervalMs := AUTO_PROFILE_DEFAULT_MIN_INTERVAL_MS
      defaultSlot := CONFIG_DEFAULT_SLOT } cfg

/-- `ap_controller_is_driving`. -/
def apControllerIsDriving (c : AutoProfileController) (suppressed : Bool) : Bool :=
  c.autoEnabled && decide (c.mode = .auto) && !suppressed

/-- `ap_on_target_resolved`. -/
def apOnTargetResolved (c : AutoProfileController) (targetSlot nowMs : Int) (suppressed : Bool) :
    AutoProfileController × AutoProfileAction :=
  if ¬apControllerIsDriving c suppressed then (c, .none)
  else if ¬apSlotValid targetSlot then (c, .none)
  else if targetSlot = c.appliedSlot then ({ c with pendingTarget := 0 }, .none)
  else
    let c := { c with pendingTarget := targetSlot }
    let backoff := apFailureBackoffRemainingMs c targetSlot nowMs
    if c.debounceMs < backoff then (c, apActionArmBackoff backoff)
    else (c, apActionArm c.debounceMs)

/-- `ap_on_debounce_fire`. -/
def apOnDebounceFire (c : AutoProfileController) (currentTarget nowMs : Int) (suppressed : Bool) :
    AutoProfileController × AutoProfileAction :=
  if ¬apControllerIsDriving c suppressed then ({ c with pendingTarget := 0 }, .none)
  else if ¬apSlotValid currentTarget then ({ c with pendingTarget := 0 }, .none)
  else if currentTarget = c.appliedSlot then ({ c with pendingTarget := 0 }, .none)
  else
    let sinceApply := nowMs - c.lastApplyMs
    if sinceApply < c.minIntervalMs then
      ({ c with pendingTarget := currentTarget },
        apActionArm (castInt (c.minIntervalMs - sinceApply)))
    else
      let backoff := apFailureBackoffRemainingMs c currentTarget nowMs
      if 0 < backoff then ({ c with pendingTarget := currentTarget }, apActionArmBackoff backoff)
      else ({ c with pendingTarget := 0 }, .applySlot currentTarget)

/-- `ap_on_applied`. -/
def apOnApplied (c : AutoProfileController) (slot nowMs : Int) : AutoProfileController :=
  apClearFailure { c with appliedSlot := slot, lastApplyMs := nowMs, pendingTarget := 0 }

/-- `ap_on_hotkey`: with the switch off a pick is only an apply; the pinned slot again
releases the pin. -/
def apOnHotkey (c : AutoProfileController) (slot : Int) :
    AutoProfileController × AutoProfileAction :=
  if ¬apSlotValid slot then (c, .none)
  else
    let c := apClearFailure c
    if ¬c.autoEnabled then
      ({ c with mode := .auto, pinnedSlot := 0, pendingTarget := 0 }, .applySlot slot)
    else if c.mode = .manual ∧ c.pinnedSlot = slot then
      ({ c with mode := .auto, pinnedSlot := 0, pendingTarget := 0 }, .resumeAuto)
    else ({ c with mode := .manual, pinnedSlot := slot, pendingTarget := 0 }, .applySlot slot)

/-- `ap_enter_manual_custom`. -/
def apEnterManualCustom (c : AutoProfileController) : AutoProfileController :=
  { c with mode := .manual, pinnedSlot := 0, pendingTarget := 0 }

/-- `ap_set_enabled`: switching off reverts to the default slot. -/
def apSetEnabled (c : AutoProfileController) (enabled : Bool) :
    AutoProfileController × AutoProfileAction :=
  let c := apClearFailure { c with autoEnabled := enabled }
  let c := { c with mode := .auto, pinnedSlot := 0, pendingTarget := 0 }
  if enabled then (c, .resumeAuto)
  else if apSlotValid c.defaultSlot ∧ c.defaultSlot ≠ c.appliedSlot then
    (c, .applySlot c.defaultSlot)
  else (c, .none)

/-- `ap_apply_config_change`. -/
def apApplyConfigChange (c : AutoProfileController) (cfg : AutoProfileConfig) :
    AutoProfileController × AutoProfileAction :=
  let wasEnabled := c.autoEnabled
  let c := apClearFailure (apControllerSyncConfig c cfg)
  if cfg.enabled = wasEnabled then (c, .none) else apSetEnabled c cfg.enabled

/-! ## Runs -/

/-- What can happen to the controller. -/
inductive Event where
  | targetResolved (targetSlot : Int) (suppressed : Bool)
  | debounceFire (currentTarget : Int) (suppressed : Bool)
  | hotkey (slot : Int)
  | manualCustom
  | setEnabled (enabled : Bool)
  | configChange (cfg : AutoProfileConfig)
  | applied (slot : Int)
  | applyFailed (slot : Int)

/-- The function an event calls. -/
def Event.handle (nowMs : Int) (c : AutoProfileController) :
    Event → AutoProfileController × AutoProfileAction
  | targetResolved slot suppressed => apOnTargetResolved c slot nowMs suppressed
  | debounceFire slot suppressed => apOnDebounceFire c slot nowMs suppressed
  | hotkey slot => apOnHotkey c slot
  | manualCustom => (apEnterManualCustom c, .none)
  | setEnabled enabled => apSetEnabled c enabled
  | configChange cfg => apApplyConfigChange c cfg
  | applied slot => (apOnApplied c slot nowMs, .none)
  | applyFailed slot => (apOnApplyFailed c slot nowMs, .none)

/-- One handled event: when, and the controller before it. -/
structure Entry where
  nowMs : Nat
  before : AutoProfileController
  event : Event

namespace Entry

def after (e : Entry) : AutoProfileController := (e.event.handle e.nowMs e.before).1

def action (e : Entry) : AutoProfileAction := (e.event.handle e.nowMs e.before).2

/-- The next event tells how an apply ended. -/
def Answers (e : Entry) (slot : Int) : Prop := e.event = .applied slot ∨ e.event = .applyFailed slot

/-- **An automatic apply**: the timer fired and the answer is to apply a slot. -/
def AppliesAutomatically (e : Entry) (slot : Int) : Prop :=
  (∃ target suppressed, e.event = .debounceFire target suppressed) ∧ e.action = .applySlot slot

end Entry

/-- **A run**, its newest event first: time does not go back, and the event after an apply
is its answer. -/
inductive Run (cfg : AutoProfileConfig) : List Entry → AutoProfileController → Prop
  | init : Run cfg [] (apControllerInit cfg)
  | handle {history : List Entry} {c : AutoProfileController} (e : Entry) :
    Run cfg history c → e.before = c → (∀ last ∈ history.head?, last.nowMs ≤ e.nowMs) →
      (∀ last ∈ history.head?, ∀ slot, last.action = .applySlot slot → e.Answers slot) →
      Run cfg (e :: history) e.after

end GreenCurve.AutoProfile
