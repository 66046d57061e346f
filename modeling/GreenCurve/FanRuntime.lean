import GreenCurve.FanCurveLaw
import Mathlib.Algebra.Order.Ring.Int

/-! # The fan runtime

The poll loop keeps a small memory: the temperature the present target was chosen at, the
target, and whether the driver holds the fan.  `fanRuntimeNextAction` is one poll, and
`fanRuntimeTicks` is a sequence of polls.

What carries every run is `Tracks`: a manual target is always the curve read at the
temperature it was chosen at.  The hysteresis only decides how far that temperature may lie
above the present one. -/

namespace GreenCurve

/-! ## The curve is monotone -/

/-- How two neighbours of an accepted curve are related. -/
abbrev FanCurvePoint.Below (left right : FanCurvePoint) : Prop :=
  left.temperatureC < right.temperatureC ∧ left.fanPercent ≤ right.fanPercent

theorem clampInt_mono {lo hi a b : Int} (hle : lo ≤ hi) (h : a ≤ b) :
    clampInt a lo hi ≤ clampInt b lo hi := by
  unfold clampInt
  split_ifs <;> omega

namespace FanCurveConfig

/-- The duty between two neighbours, before it is clamped. -/
def between (left right : FanCurvePoint) (temperatureC : Int) : Int :=
  let span := right.temperatureC - left.temperatureC
  let offset := temperatureC - left.temperatureC
  left.fanPercent + (offset * (right.fanPercent - left.fanPercent) + span / 2).tdiv span

section Between
variable {left right : FanCurvePoint} (h : left.Below right)
include h

theorem between_eq {t : Int} (ht : left.temperatureC ≤ t) :
    between left right t = left.fanPercent +
      ((t - left.temperatureC) * (right.fanPercent - left.fanPercent) +
        (right.temperatureC - left.temperatureC) / 2) /
        (right.temperatureC - left.temperatureC) := by
  have hrise : 0 ≤ (t - left.temperatureC) * (right.fanPercent - left.fanPercent) :=
    mul_nonneg (by omega) (by omega)
  have hspan := h.1
  simp only [between]
  rw [Int.tdiv_eq_ediv_of_nonneg (by omega)]

theorem between_mono {s t : Int} (hs : left.temperatureC ≤ s) (hst : s ≤ t) :
    between left right s ≤ between left right t := by
  rw [between_eq h hs, between_eq h (hs.trans hst)]
  have hrise : (s - left.temperatureC) * (right.fanPercent - left.fanPercent) ≤
      (t - left.temperatureC) * (right.fanPercent - left.fanPercent) :=
    mul_le_mul_of_nonneg_right (by omega) (by omega)
  have hspan := h.1
  have := Int.ediv_le_ediv (a := _) (b := _) (c := right.temperatureC - left.temperatureC)
    (by omega) (Int.add_le_add_right hrise ((right.temperatureC - left.temperatureC) / 2))
  omega

theorem between_left : between left right left.temperatureC = left.fanPercent := by
  have hspan := h.1
  rw [between_eq h le_rfl, sub_self, zero_mul, zero_add,
    Int.ediv_eq_zero_of_lt (by omega) (by omega), add_zero]

/-- At the right neighbour the rounding is gone. -/
theorem between_right : between left right right.temperatureC = right.fanPercent := by
  have hspan := h.1
  rw [between_eq h h.1.le, Int.mul_add_ediv_left _ _ (by omega),
    Int.ediv_eq_zero_of_lt (by omega) (by omega)]
  omega

end Between

/-- Above the first of its points, a chain of points is read at no less than that point. -/
theorem le_interpolateSegments {t : Int} {left : FanCurvePoint} {rest : List FanCurvePoint}
    (hchain : (left :: rest).IsChain FanCurvePoint.Below) (ht : left.temperatureC ≤ t) :
    clampInt left.fanPercent 0 100 ≤ interpolateSegments t (left :: rest) := by
  induction rest generalizing left with
  | nil => exact le_rfl
  | cons right rest ih =>
    obtain ⟨hbelow, hrest⟩ := List.isChain_cons_cons.mp hchain
    simp only [interpolateSegments]
    split
    · rename_i hgt
      exact (clampInt_mono (by decide) hbelow.2).trans (ih hrest (le_of_lt hgt))
    · rw [if_neg (by have := hbelow.1; omega)]
      refine clampInt_mono (by decide) ?_
      calc left.fanPercent = between left right left.temperatureC := (between_left hbelow).symm
        _ ≤ between left right t := between_mono hbelow le_rfl ht

/-- **The segments of a chain of points are read monotonically.** -/
theorem interpolateSegments_mono {s t : Int} {left : FanCurvePoint} {rest : List FanCurvePoint}
    (hchain : (left :: rest).IsChain FanCurvePoint.Below) (hs : left.temperatureC ≤ s)
    (hst : s ≤ t) :
    interpolateSegments s (left :: rest) ≤ interpolateSegments t (left :: rest) := by
  induction rest generalizing left with
  | nil => exact le_rfl
  | cons right rest ih =>
    obtain ⟨hbelow, hrest⟩ := List.isChain_cons_cons.mp hchain
    have hspan := hbelow.1
    simp only [interpolateSegments]
    by_cases hsr : s > right.temperatureC
    · rw [if_pos hsr, if_pos (by omega)]
      exact ih hrest (by omega)
    · rw [if_neg hsr, if_neg (by omega)]
      by_cases htr : t > right.temperatureC
      · rw [if_pos htr]
        -- The lower reading ends at the neighbour that the higher one starts from.
        calc clampInt (between left right s) 0 100
            ≤ clampInt (between left right right.temperatureC) 0 100 :=
              clampInt_mono (by decide) (between_mono hbelow hs (by omega))
          _ = clampInt right.fanPercent 0 100 := by rw [between_right hbelow]
          _ ≤ interpolateSegments t (right :: rest) := le_interpolateSegments hrest (by omega)
      · rw [if_neg htr, if_neg (by omega)]
        exact clampInt_mono (by decide) (between_mono hbelow hs hst)

/-- **A valid curve is monotone in the temperature.** -/
theorem interpolatePercent_mono {config : FanCurveConfig} (h : config.Valid) {s t : Int}
    (hst : s ≤ t) : config.interpolatePercent s ≤ config.interpolatePercent t := by
  have hclamp : clampInt s 0 100 ≤ clampInt t 0 100 := clampInt_mono (by decide) hst
  have hchain := h.chain
  unfold interpolatePercent
  generalize sortEnabledPoints config.activePoints = active at hchain
  match active with
  | [] => exact le_rfl
  | [_] => exact le_rfl
  | first :: second :: rest =>
    simp only
    by_cases hs : clampInt s 0 100 ≤ first.temperatureC
    · rw [if_pos hs]
      split
      · exact le_rfl
      · exact le_interpolateSegments hchain (by omega)
    · rw [if_neg hs, if_neg (by omega)]
      exact interpolateSegments_mono hchain (by omega) hclamp

theorem interpolateSegments_mem (t : Int) (points : List FanCurvePoint) :
    0 ≤ interpolateSegments t points ∧ interpolateSegments t points ≤ 100 := by
  induction points with
  | nil => exact ⟨by simp [interpolateSegments], by simp [interpolateSegments]⟩
  | cons left rest ih =>
    cases rest with
    | nil => exact clampInt_mem (by decide) _
    | cons right rest =>
      simp only [interpolateSegments]
      split
      · exact ih
      · split <;> exact clampInt_mem (by decide) _

theorem interpolatePercent_mem (config : FanCurveConfig) (t : Int) :
    0 ≤ config.interpolatePercent t ∧ config.interpolatePercent t ≤ 100 := by
  unfold interpolatePercent
  match sortEnabledPoints config.activePoints with
  | [] => exact ⟨by simp, by simp⟩
  | [only] => exact clampInt_mem (by decide) _
  | first :: second :: rest =>
    simp only
    split
    · exact clampInt_mem (by decide) _
    · exact interpolateSegments_mem _ _

/-- Where the zero-RPM mode starts the fan. -/
abbrev startTemperatureC (curve : FanCurveConfig) : Int := curve.firstEnabledTemperature

/-- Where the zero-RPM mode gives the fan back to the driver. -/
def stopTemperatureC (curve : FanCurveConfig) : Int :=
  let stop := curve.startTemperatureC - curve.zeroRpmHysteresis
  if stop < 0 then 0 else stop

end FanCurveConfig

/-! ## One poll -/

structure FanRuntimeState where
  initialized : Bool
  lastTemperatureC : Int
  lastPercent : Int
  driverAutoActive : Bool
  deriving DecidableEq

structure FanRuntimeDecision where
  shouldWrite : Bool
  useDriverAuto : Bool
  controlModeChanged : Bool
  targetPercent : Int
  nextPollMs : Int
  deriving DecidableEq

/-- What the runtime is given at one poll. -/
structure FanPoll where
  temperatureC : Int
  forceTargetRefresh : Bool
  deriving DecidableEq

/-- The two-threshold switch of `fan_runtime_next_action`. -/
def FanRuntimeState.useDriverAuto (state : FanRuntimeState) (curve : FanCurveConfig)
    (temperatureC : Int) : Bool :=
  curve.zeroRpmEnabled &&
    if !state.initialized then decide (temperatureC < curve.startTemperatureC)
    else if state.driverAutoActive then decide (temperatureC < curve.startTemperatureC)
    else decide (temperatureC ≤ curve.stopTemperatureC)

/-- `fan_runtime_next_action`. -/
def fanRuntimeNextAction (curve : FanCurveConfig) (state : FanRuntimeState) (poll : FanPoll) :
    FanRuntimeDecision × FanRuntimeState :=
  let temperatureC := poll.temperatureC
  let nextPollMs := if curve.pollIntervalMs < 250 then 250 else curve.pollIntervalMs
  let interpolated := clampInt (curve.interpolatePercent temperatureC) 0 100
  let hysteresis := clampInt curve.hysteresisC 0 10
  let useDriverAuto := state.useDriverAuto curve temperatureC
  let controlModeChanged := !state.initialized || state.driverAutoActive != useDriverAuto
  if useDriverAuto then
    -- Driver mode owns its own fan-stop policy, so it is written on entry only.
    ({ shouldWrite := controlModeChanged || poll.forceTargetRefresh, useDriverAuto := true,
       controlModeChanged, targetPercent := 0, nextPollMs },
     { initialized := true, lastTemperatureC := temperatureC, lastPercent := 0,
       driverAutoActive := true })
  else
    let temperatureRose := state.initialized && decide (temperatureC > state.lastTemperatureC)
    let cooledPastHysteresis := state.initialized &&
      decide (temperatureC ≤ state.lastTemperatureC - hysteresis)
    let next : FanRuntimeState :=
      if !state.initialized || state.driverAutoActive || poll.forceTargetRefresh ||
          temperatureRose || cooledPastHysteresis then
        { initialized := true, lastTemperatureC := temperatureC, lastPercent := interpolated,
          driverAutoActive := false }
      else { state with driverAutoActive := false }
    ({ shouldWrite := true, useDriverAuto := false, controlModeChanged,
       targetPercent := next.lastPercent, nextPollMs }, next)

/-- A fresh runtime starts as the apply transaction predicts it. -/
theorem fanRuntimeFirstAction_eq (curve : FanCurveConfig) (state : FanRuntimeState)
    (hfresh : state.initialized = false) (poll : FanPoll) :
    let decision := (fanRuntimeNextAction curve state poll).1
    fanRuntimeFirstAction curve poll.temperatureC =
      ⟨decision.useDriverAuto, decision.targetPercent⟩ := by
  simp only [fanRuntimeNextAction, fanRuntimeFirstAction, FanRuntimeState.useDriverAuto, hfresh,
    Bool.not_false, if_true, Bool.true_or]
  split <;> rfl

/-! ## Runs of polls -/

/-- One poll of a run: the memory before it and what was decided. -/
structure FanTick where
  before : FanRuntimeState
  poll : FanPoll
  decision : FanRuntimeDecision
  deriving DecidableEq

/-- The memory after a sequence of polls. -/
def fanRuntimeAfter (curve : FanCurveConfig) (state : FanRuntimeState) : List FanPoll →
    FanRuntimeState
  | [] => state
  | poll :: polls => fanRuntimeAfter curve (fanRuntimeNextAction curve state poll).2 polls

/-- The ticks of a sequence of polls. -/
def fanRuntimeTicks (curve : FanCurveConfig) (state : FanRuntimeState) : List FanPoll →
    List FanTick
  | [] => []
  | poll :: polls =>
    ⟨state, poll, (fanRuntimeNextAction curve state poll).1⟩ ::
      fanRuntimeTicks curve (fanRuntimeNextAction curve state poll).2 polls

/-- The memory of a runtime that has only ever served this curve: a manual target is the curve
at the temperature it was chosen at, and only the zero-RPM mode hands the fan to the driver. -/
structure FanRuntimeState.Tracks (state : FanRuntimeState) (curve : FanCurveConfig) : Prop where
  manual : state.initialized = true → state.driverAutoActive = false →
    state.lastPercent = curve.interpolatePercent state.lastTemperatureC
  auto : state.initialized = true → state.driverAutoActive = true → curve.zeroRpmEnabled = true

namespace FanRuntimeState

theorem tracks_fresh {state : FanRuntimeState} (h : state.initialized = false)
    (curve : FanCurveConfig) : state.Tracks curve :=
  ⟨fun hi => (Bool.false_ne_true (h.symm.trans hi)).elim,
    fun hi => (Bool.false_ne_true (h.symm.trans hi)).elim⟩

variable {curve : FanCurveConfig} {state : FanRuntimeState}

/-- **One poll keeps the memory tied to the curve.** -/
theorem Tracks.nextAction (h : state.Tracks curve) (poll : FanPoll) :
    (fanRuntimeNextAction curve state poll).2.Tracks curve := by
  have hclamp := clampInt_of_mem (curve.interpolatePercent_mem poll.temperatureC)
  simp only [fanRuntimeNextAction]
  split
  · rename_i hauto
    simp only [useDriverAuto, Bool.and_eq_true] at hauto
    exact ⟨fun _ hmanual => (nomatch hmanual), fun _ _ => hauto.1⟩
  · simp only
    split
    · exact ⟨fun _ _ => hclamp, fun _ hauto => nomatch hauto⟩
    · rename_i hkeep
      simp only [Bool.or_eq_true, Bool.not_eq_true', not_or, Bool.not_eq_true] at hkeep
      exact ⟨fun hi _ => h.manual hi hkeep.1.1.1.2, fun _ hauto => nomatch hauto⟩

theorem Tracks.after (h : state.Tracks curve) (polls : List FanPoll) :
    (fanRuntimeAfter curve state polls).Tracks curve := by
  induction polls generalizing state with
  | nil => exact h
  | cons poll polls ih => exact ih (h.nextAction poll)

/-- Every tick of a run starts from a memory tied to the curve. -/
theorem Tracks.ticks (h : state.Tracks curve) (polls : List FanPoll) :
    ∀ tick ∈ fanRuntimeTicks curve state polls,
      tick.before.Tracks curve ∧ tick.poll ∈ polls ∧
        tick.decision = (fanRuntimeNextAction curve tick.before tick.poll).1 := by
  induction polls generalizing state with
  | nil => exact fun _ hmem => nomatch hmem
  | cons poll polls ih =>
    intro tick hmem
    rcases List.mem_cons.mp hmem with rfl | hmem
    · exact ⟨h, List.mem_cons_self, rfl⟩
    · obtain ⟨hbefore, hpoll, hdecision⟩ := ih (h.nextAction poll) tick hmem
      exact ⟨hbefore, List.mem_cons_of_mem _ hpoll, hdecision⟩

/-- **A manual poll never undercools**: the target lies between the curve at the present
temperature and the curve one hysteresis above it, and it is always written. -/
theorem Tracks.manual_bounds (h : state.Tracks curve) (hvalid : curve.Valid) (poll : FanPoll)
    (hmanual : state.useDriverAuto curve poll.temperatureC = false) :
    let decision := (fanRuntimeNextAction curve state poll).1
    curve.interpolatePercent poll.temperatureC ≤ decision.targetPercent ∧
      decision.targetPercent ≤ curve.interpolatePercent (poll.temperatureC + curve.hysteresisC) ∧
      decision.shouldWrite = true := by
  have hclamp := clampInt_of_mem (curve.interpolatePercent_mem poll.temperatureC)
  have hhyst := clampInt_of_mem hvalid.hysteresis
  have hnonneg := hvalid.hysteresis.1
  simp only [fanRuntimeNextAction, hmanual, Bool.false_eq_true, if_false, hclamp, hhyst]
  split
  · exact ⟨le_rfl, FanCurveConfig.interpolatePercent_mono hvalid (by omega), trivial⟩
  · rename_i hkeep
    simp only [Bool.or_eq_true, Bool.not_eq_true', not_or, Bool.not_eq_true,
      Bool.not_eq_false, Bool.and_eq_false_iff, decide_eq_false_iff_not] at hkeep
    obtain ⟨⟨⟨⟨hinit, hauto⟩, -⟩, hrose⟩, hcooled⟩ := hkeep
    have hrose := hrose.resolve_left (by simp [hinit])
    have hcooled := hcooled.resolve_left (by simp [hinit])
    simp only [h.manual hinit hauto]
    exact ⟨FanCurveConfig.interpolatePercent_mono hvalid (by omega),
      FanCurveConfig.interpolatePercent_mono hvalid (by omega), trivial⟩

theorem nextAction_useDriverAuto (poll : FanPoll) :
    (fanRuntimeNextAction curve state poll).1.useDriverAuto =
      state.useDriverAuto curve poll.temperatureC := by
  simp only [fanRuntimeNextAction]
  split
  · rename_i hauto
    exact hauto.symm
  · rename_i hauto
    exact (Bool.eq_false_of_not_eq_true hauto).symm

theorem nextAction_memory (curve : FanCurveConfig) (state : FanRuntimeState) (poll : FanPoll) :
    (fanRuntimeNextAction curve state poll).2.initialized = true ∧
      (fanRuntimeNextAction curve state poll).2.driverAutoActive =
        state.useDriverAuto curve poll.temperatureC := by
  simp only [fanRuntimeNextAction]
  split
  · rename_i hauto
    exact ⟨rfl, hauto.symm⟩
  · rename_i hauto
    have hauto := Bool.eq_false_of_not_eq_true hauto
    simp only
    split
    · exact ⟨rfl, hauto.symm⟩
    · rename_i hkeep
      simp only [Bool.or_eq_true, Bool.not_eq_true', not_or, Bool.not_eq_false] at hkeep
      exact ⟨hkeep.1.1.1.1, hauto.symm⟩

/-- Strictly inside the gap a running mode stays. -/
theorem useDriverAuto_gap (hzero : curve.zeroRpmEnabled = true) (hinit : state.initialized = true)
    {temperatureC : Int} (hstop : curve.stopTemperatureC < temperatureC)
    (hstart : temperatureC < curve.startTemperatureC) :
    state.useDriverAuto curve temperatureC = state.driverAutoActive := by
  simp only [useDriverAuto, hzero, hinit, Bool.true_and, Bool.not_true, Bool.false_eq_true,
    if_false]
  cases state.driverAutoActive
  · exact decide_eq_false (by omega)
  · exact decide_eq_true hstart

/-- A run that stays strictly inside the gap stays in the mode it started in. -/
theorem ticks_gap (hzero : curve.zeroRpmEnabled = true) (hinit : state.initialized = true)
    {polls : List FanPoll} (hgap : ∀ poll ∈ polls, curve.stopTemperatureC < poll.temperatureC ∧
      poll.temperatureC < curve.startTemperatureC) :
    ∀ tick ∈ fanRuntimeTicks curve state polls,
      tick.decision.useDriverAuto = state.driverAutoActive := by
  induction polls generalizing state with
  | nil => exact fun _ hmem => nomatch hmem
  | cons poll polls ih =>
    obtain ⟨hpoll, hpolls⟩ := List.forall_mem_cons.mp hgap
    have hmode := useDriverAuto_gap hzero hinit hpoll.1 hpoll.2
    have hmemory := nextAction_memory curve state poll
    intro tick hmem
    rcases List.mem_cons.mp hmem with rfl | hmem
    · exact (nextAction_useDriverAuto poll).trans hmode
    · exact (ih hmemory.1 hpolls tick hmem).trans (hmemory.2.trans hmode)

end FanRuntimeState

/-- What a poll may do with the zero-RPM mode on. -/
structure FanTick.ZeroRpmLaw (curve : FanCurveConfig) (tick : FanTick) : Prop where
  /-- The driver gets the fan at the stop threshold, or below the start threshold at first. -/
  entered : tick.decision.useDriverAuto = true →
    (tick.before.initialized = true → tick.before.driverAutoActive = false →
      tick.poll.temperatureC ≤ curve.stopTemperatureC) ∧
    (tick.before.initialized = false → tick.poll.temperatureC < curve.startTemperatureC)
  /-- It keeps the fan until the start threshold is reached, and no longer. -/
  left : tick.before.initialized = true → tick.before.driverAutoActive = true →
    (tick.decision.useDriverAuto = false ↔ curve.startTemperatureC ≤ tick.poll.temperatureC)
  /-- Strictly inside the gap the mode stays. -/
  gap : tick.before.initialized = true → curve.stopTemperatureC < tick.poll.temperatureC →
    tick.poll.temperatureC < curve.startTemperatureC →
    tick.decision.useDriverAuto = tick.before.driverAutoActive

theorem FanTick.zeroRpmLaw {curve : FanCurveConfig} (hzero : curve.zeroRpmEnabled = true)
    {tick : FanTick}
    (hdecision : tick.decision = (fanRuntimeNextAction curve tick.before tick.poll).1) :
    tick.ZeroRpmLaw curve := by
  have hmode : tick.decision.useDriverAuto =
      tick.before.useDriverAuto curve tick.poll.temperatureC := by
    rw [hdecision, FanRuntimeState.nextAction_useDriverAuto]
  constructor
  case entered =>
    intro hauto
    rw [hmode] at hauto
    constructor
    · intro hinit hmanual
      simpa [FanRuntimeState.useDriverAuto, hzero, hinit, hmanual] using hauto
    · intro hinit
      simpa [FanRuntimeState.useDriverAuto, hzero, hinit] using hauto
  case left =>
    intro hinit hauto
    simp [hmode, FanRuntimeState.useDriverAuto, hzero, hinit, hauto]
  case gap =>
    intro hinit hstop hstart
    exact hmode.trans (FanRuntimeState.useDriverAuto_gap hzero hinit hstop hstart)

/-- **The fan runtime never undercools.**  After any earlier polls of a valid curve, every
poll of a manual curve is written and lies between the curve at the present temperature and the
curve one hysteresis above it.  With the zero-RPM mode on, every poll obeys the two thresholds,
and polls that stay strictly between them never change the mode. -/
theorem fanRuntime_never_undercools (curve : FanCurveConfig) (hvalid : curve.validate = true)
    (fresh : FanRuntimeState) (hfresh : fresh.initialized = false) (earlier polls : List FanPoll) :
    let state := fanRuntimeAfter curve fresh earlier
    let ticks := fanRuntimeTicks curve state polls
    (curve.zeroRpmEnabled = false → ∀ tick ∈ ticks,
      curve.interpolatePercent tick.poll.temperatureC ≤ tick.decision.targetPercent ∧
      tick.decision.targetPercent ≤
        curve.interpolatePercent (tick.poll.temperatureC + curve.hysteresisC) ∧
      tick.decision.shouldWrite = true) ∧
    (curve.zeroRpmEnabled = true → (∀ tick ∈ ticks, tick.ZeroRpmLaw curve) ∧
      ((∀ poll ∈ polls, curve.stopTemperatureC < poll.temperatureC ∧
          poll.temperatureC < curve.startTemperatureC) →
        (∀ first ∈ ticks, ∀ second ∈ ticks,
          first.decision.useDriverAuto = second.decision.useDriverAuto) ∧
        (state.initialized = true → ∀ tick ∈ ticks,
          tick.decision.useDriverAuto = state.driverAutoActive))) := by
  intro state ticks
  have hcurve := FanCurveConfig.validate_iff.mp hvalid
  have htracks : state.Tracks curve := (FanRuntimeState.tracks_fresh hfresh curve).after earlier
  have hticks := htracks.ticks polls
  refine ⟨fun hzero tick hmem => ?_, fun hzero => ⟨fun tick hmem => ?_, fun hgap => ⟨?_, ?_⟩⟩⟩
  · obtain ⟨hbefore, -, hdecision⟩ := hticks tick hmem
    rw [hdecision]
    exact hbefore.manual_bounds hcurve tick.poll (by simp [FanRuntimeState.useDriverAuto, hzero])
  · exact FanTick.zeroRpmLaw hzero (hticks tick hmem).2.2
  · -- The first tick fixes the mode, and its memory is initialised.
    suffices hsame : ∃ mode, ∀ tick ∈ ticks, tick.decision.useDriverAuto = mode by
      obtain ⟨mode, hmode⟩ := hsame
      exact fun first hfirst second hsecond =>
        (hmode first hfirst).trans (hmode second hsecond).symm
    cases polls with
    | nil => exact ⟨false, fun _ hmem => absurd hmem List.not_mem_nil⟩
    | cons poll polls =>
      have hmemory := FanRuntimeState.nextAction_memory curve state poll
      refine ⟨state.useDriverAuto curve poll.temperatureC, fun tick hmem => ?_⟩
      rcases List.mem_cons.mp hmem with rfl | hmem
      · exact FanRuntimeState.nextAction_useDriverAuto poll
      · have htail := FanRuntimeState.ticks_gap hzero hmemory.1
          (List.forall_mem_cons.mp hgap).2 tick hmem
        exact htail.trans hmemory.2
  · exact fun hinit => FanRuntimeState.ticks_gap hzero hinit hgap

/-- The default curve, from a runtime that was just started. -/
theorem fanRuntime_never_undercools_default :
    (fanRuntimeTicks .setDefault (fanRuntimeAfter .setDefault ⟨false, 0, 0, false⟩ [⟨70, false⟩])
      [⟨69, false⟩, ⟨66, false⟩]).all (fun tick =>
        decide (FanCurveConfig.interpolatePercent .setDefault tick.poll.temperatureC ≤
          tick.decision.targetPercent)) = true :=
  List.all_eq_true.mpr fun tick hmem =>
    decide_eq_true ((fanRuntime_never_undercools .setDefault (by decide) ⟨false, 0, 0, false⟩ rfl
      [⟨70, false⟩] [⟨69, false⟩, ⟨66, false⟩]).1 rfl tick hmem).1

end GreenCurve
